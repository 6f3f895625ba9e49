import ContainerBoard.Dashboard.Detail
import ContainerBoard.Proofs.Daemon.NetworkRows
import ContainerBoard.Screen.Body

/-!
# The containers of the inspected network

A record holds the containers of a network under their ids, in an order that means nothing.
On the screen they are sorted by name.  So another order of the record changes at most the
places of containers that have one name, and the body is the same for every order exactly if
such containers look alike.
-/

namespace ContainerBoard

namespace Attachment

theorem byName_trans
    (a b c : Attachment) (hab : decide (a.name ≤ b.name) = true)
    (hbc : decide (b.name ≤ c.name) = true) : decide (a.name ≤ c.name) = true :=
  decide_eq_true (String.le_trans (of_decide_eq_true hab) (of_decide_eq_true hbc))

theorem byName_total (a b : Attachment) :
    (decide (a.name ≤ b.name) || decide (b.name ≤ a.name)) = true := by
  simpa using String.le_total a.name b.name

variable {β : Type} {listed others : List Attachment}

/-- In two lists with the same names, lines that agree place by place agree for every
name. -/
theorem map_filter_name_eq
    (line : Attachment → β) (hnames : listed.map name = others.map name)
    (hlines : listed.map line = others.map line) (key : String) :
    (listed.filter (·.name = key)).map line = (others.filter (·.name = key)).map line := by
  induction listed generalizing others with
  | nil =>
      rw [List.map_nil, eq_comm, List.map_eq_nil_iff] at hnames
      rw [hnames]
  | cons a listed ih =>
      cases others with
      | nil => cases hnames
      | cons b others =>
          rw [List.map_cons, List.map_cons, List.cons.injEq] at hnames hlines
          have hrest := ih hnames.2 hlines.2
          by_cases hkey : a.name = key
          · have hkey' : b.name = key := hnames.1 ▸ hkey
            simp only [List.filter_cons, hkey, hkey', decide_true, if_true, List.map_cons,
              hlines.1, hrest]
          · have hkey' : b.name ≠ key := hnames.1 ▸ hkey
            simp only [List.filter_cons, hkey, hkey', decide_false, Bool.false_eq_true,
              if_false, hrest]

end Attachment

namespace Network

variable {n n' : Network} {listed listed' : List Attachment}

/-- The same record, except that the containers may stand in another order. -/
structure Reorders (n n' : Network) : Prop where
  entries : n'.attached.entries.Perm n.attached.entries
  others : { n' with attached := n.attached } = n

theorem Reorders.values (h : n.Reorders n') : n'.attached.values.Perm n.attached.values :=
  h.entries.map Prod.snd

/-- The record with its containers in a given order. -/
def arranged
    (n : Network) (entries : List (String × Attachment))
    (h : entries.Perm n.attached.entries) : Network :=
  { n with attached := ⟨entries, (h.map Prod.fst).nodup_iff.mpr n.attached.distinct⟩ }

theorem reorders_arranged
    {entries : List (String × Attachment)} (h : entries.Perm n.attached.entries) :
    n.Reorders (n.arranged entries h) :=
  ⟨h, rfl⟩

/-- What is said about a network itself. -/
def fieldLines (n : Network) : List Line :=
  [Row.field "Id" n.id,
   Row.field "Name" n.name,
   Row.field "Driver" n.driver,
   Row.field "Scope" n.scope,
   Row.field "Internal" (if n.isInternal then "true" else "false"),
   Row.field "Containers" n.attached.size.repr]

theorem fieldLines_congr (h : n.Reorders n') : n'.fieldLines = n.fieldLines := by
  have hsize : n'.attached.size = n.attached.size := h.entries.length_eq
  rw [← h.others]
  simp only [fieldLines, hsize]

/-- The containers of a network by name: each once, and those of one name as they stand in
the record. -/
structure ListsByName (n : Network) (listed : List Attachment) : Prop where
  perm : listed.Perm n.attached.values
  sorted : (listed.map Attachment.name).Pairwise (· ≤ ·)
  tied : ∀ key,
    listed.filter (·.name = key) = n.attached.values.filter (·.name = key)

theorem listsByName_sortedAttachments (n : Network) :
    n.ListsByName (Row.sortedAttachments n) where
  perm := List.mergeSort_perm _ _
  sorted := by
    rw [List.pairwise_map]
    exact (List.pairwise_mergeSort Attachment.byName_trans Attachment.byName_total _).imp
      of_decide_eq_true
  tied key := by
    apply filter_mergeSort Attachment.byName_trans Attachment.byName_total
    intro a b ha hb
    rw [of_decide_eq_true ha, of_decide_eq_true hb]
    exact decide_eq_true (String.le_refl key)

/-- The names do not depend on the order of the record. -/
theorem ListsByName.names_eq
    (h : n.ListsByName listed) (h' : n'.ListsByName listed') (hre : n.Reorders n') :
    listed'.map Attachment.name = listed.map Attachment.name := by
  have hperm : listed'.Perm listed := h'.perm.trans (hre.values.trans h.perm.symm)
  refine (hperm.map Attachment.name).eq_of_pairwise ?_ h'.sorted h.sorted
  exact fun a b _ _ => String.le_antisymm

/-- Containers of one name have one line. -/
def TiesLookAlike (n : Network) : Prop :=
  ∀ a ∈ n.attached.values, ∀ b ∈ n.attached.values,
    a.name = b.name → Row.attachment a = Row.attachment b

instance (n : Network) : Decidable n.TiesLookAlike :=
  inferInstanceAs (Decidable (∀ a ∈ n.attached.values, ∀ b ∈ n.attached.values,
    a.name = b.name → Row.attachment a = Row.attachment b))

/-- If ties look alike, the lines do not depend on the order of the record. -/
theorem ListsByName.lines_eq
    (h : n.ListsByName listed) (h' : n'.ListsByName listed') (hre : n.Reorders n')
    (hties : n.TiesLookAlike) :
    listed'.map Row.attachment = listed.map Row.attachment := by
  have hperm : listed'.Perm listed := h'.perm.trans (hre.values.trans h.perm.symm)
  -- sorted by name, the pairs of a name and its line are sorted by their first parts
  let named (a : Attachment) : String × Line := (a.name, Row.attachment a)
  have hsorted {l : List Attachment} (hl : (l.map Attachment.name).Pairwise (· ≤ ·)) :
      (l.map named).Pairwise fun x y => x.1 ≤ y.1 := by
    rw [List.pairwise_map] at hl ⊢
    exact hl
  have hnamed : listed'.map named = listed.map named := by
    refine (hperm.map named).eq_of_pairwise ?_ (hsorted h'.sorted) (hsorted h.sorted)
    intro x y hx hy hxy hyx
    obtain ⟨a, ha, rfl⟩ := List.mem_map.mp hx
    obtain ⟨b, hb, rfl⟩ := List.mem_map.mp hy
    have hname : a.name = b.name := String.le_antisymm hxy hyx
    have hline : Row.attachment a = Row.attachment b :=
      hties a (h.perm.mem_iff.mp (hperm.mem_iff.mp ha)) b (h.perm.mem_iff.mp hb) hname
    exact Prod.ext hname hline
  simpa [named, Function.comp_def] using congrArg (List.map Prod.snd) hnamed

/-- Any two containers can come first in the record, in either order. -/
theorem exists_reorders_in_front
    {a b : Attachment} (ha : a ∈ n.attached.values) (hb : b ∈ n.attached.values)
    (hne : a ≠ b) :
    ∃ n₁ n₂ rest, n.Reorders n₁ ∧ n.Reorders n₂ ∧
      n₁.attached.values = a :: b :: rest ∧ n₂.attached.values = b :: a :: rest := by
  obtain ⟨entry, hentry, rfl⟩ := List.mem_map.mp ha
  obtain ⟨entry', hentry', rfl⟩ := List.mem_map.mp hb
  have hother : entry' ≠ entry := fun heq => hne (heq ▸ rfl)
  have hfirst := List.perm_cons_erase hentry
  have hsecond := List.perm_cons_erase ((List.mem_erase_of_ne hother).mpr hentry')
  have hperm := (hfirst.trans (hsecond.cons entry)).symm
  have hswapped := (List.Perm.swap entry entry' _).trans hperm
  exact ⟨_, _, _, reorders_arranged hperm, reorders_arranged hswapped, rfl, rfl⟩

/-- If the lines do not depend on the order of the record, ties look alike. -/
theorem tiesLookAlike_of_lines_eq
    (hsame : ∀ n', n.Reorders n' →
      (Row.sortedAttachments n').map Row.attachment =
        (Row.sortedAttachments n).map Row.attachment) :
    n.TiesLookAlike := by
  intro a ha b hb hname
  by_contra hline
  have hne : a ≠ b := fun heq => hline (heq ▸ rfl)
  obtain ⟨n₁, n₂, rest, h₁, h₂, hvalues₁, hvalues₂⟩ := exists_reorders_in_front ha hb hne
  have hlists := listsByName_sortedAttachments n
  have hlists₁ := listsByName_sortedAttachments n₁
  have hlists₂ := listsByName_sortedAttachments n₂
  have hnames := (hlists.names_eq hlists₁ h₁).trans (hlists.names_eq hlists₂ h₂).symm
  have hlines := (hsame n₁ h₁).trans (hsame n₂ h₂).symm
  have htied := Attachment.map_filter_name_eq Row.attachment hnames hlines a.name
  rw [hlists₁.tied, hlists₂.tied, hvalues₁, hvalues₂] at htied
  simp only [List.filter_cons, hname, decide_true, if_true, List.map_cons,
    List.cons.injEq] at htied
  exact hline htied.1

end Network

namespace Dashboard

variable {ρ : Type} {b : Dashboard ρ} {n : Network}

/-- The screen shows what was last seen of a network. -/
structure Inspects (n : Network) (b : Dashboard ρ) : Prop where
  view : b.navigation.view = .inspectNetwork
  snapshot : b.snapshots.inspectedNetwork = some n

theorem body_of_inspects (h : Inspects n b) :
    b.body = (.text (n.fieldLines ++ (Row.sortedAttachments n).map Row.attachment), b) := by
  unfold body
  rw [h.view]
  simp only [Body.ofSnapshot, h.snapshot]
  rfl

/-- On the screen of a network, its six fields come before one line for each container, by
name.  Another order of the containers in the record changes at most the places of
containers of one name; it never changes anything exactly if these look alike. -/
theorem inspected_network_drawn_by_name (h : Inspects n b) :
    ∃ listed, n.ListsByName listed ∧
      b.body = (.text (n.fieldLines ++ listed.map Row.attachment), b) ∧
      (∀ (n' : Network) (b' : Dashboard ρ), n.Reorders n' → Inspects n' b' →
        ∃ listed' : List Attachment, listed'.Perm listed ∧
          listed'.map Attachment.name = listed.map Attachment.name ∧
          b'.body = (.text (n.fieldLines ++ listed'.map Row.attachment), b')) ∧
      ((∀ (n' : Network) (b' : Dashboard ρ), n.Reorders n' → Inspects n' b' →
          b'.body.1 = b.body.1) ↔
        n.TiesLookAlike) := by
  have hlists := n.listsByName_sortedAttachments
  refine ⟨_, hlists, body_of_inspects h, ?_, ?_, ?_⟩
  · intro n' b' hre h'
    have hlists' := n'.listsByName_sortedAttachments
    refine ⟨_, hlists'.perm.trans (hre.values.trans hlists.perm.symm),
      hlists.names_eq hlists' hre, ?_⟩
    rw [body_of_inspects h', Network.fieldLines_congr hre]
  · intro hsame
    apply Network.tiesLookAlike_of_lines_eq
    intro n' hre
    let b' : Dashboard ρ :=
      { b with snapshots := { b.snapshots with inspectedNetwork := some n' } }
    have h' : Inspects n' b' := ⟨h.view, rfl⟩
    have hbody := hsame n' b' hre h'
    rw [body_of_inspects h', body_of_inspects h, Network.fieldLines_congr hre] at hbody
    exact List.append_cancel_left (congrArg Body.lines hbody)
  · intro hties n' b' hre h'
    have hlines := hlists.lines_eq n'.listsByName_sortedAttachments hre hties
    rw [body_of_inspects h', body_of_inspects h, Network.fieldLines_congr hre, hlines]

/-- Two containers with their own names, in the one order and in the other. -/
def ordered : Network :=
  { id := "net-a", name := "apps",
    attached := .ofList [("1", { name := "web" }), ("2", { name := "db" })] }

def reversed : Network :=
  { id := "net-a", name := "apps",
    attached := .ofList [("2", { name := "db" }), ("1", { name := "web" })] }

theorem own_names_drawn_alike :
    ∃ b₀ b₁ : Dashboard RedrawCount,
      start { networks := [ordered] } default {} = .ok b₀ ∧
      start { networks := [reversed] } default {} = .ok b₁ ∧
      let b := b₀.openDetail (.network "net-a")
      let b' := b₁.openDetail (.network "net-a")
      Inspects ordered b ∧ Inspects reversed b' ∧ ordered.Reorders reversed ∧
        b'.body.1 = b.body.1 := by
  refine ⟨_, _, rfl, rfl, ?_⟩
  intro b b'
  have h : Inspects ordered b := ⟨rfl, rfl⟩
  have h' : Inspects reversed b' := ⟨rfl, rfl⟩
  have hre : ordered.Reorders reversed := ⟨List.Perm.swap _ _ _, rfl⟩
  have hties : ordered.TiesLookAlike := by decide
  obtain ⟨-, -, -, -, hsame⟩ := inspected_network_drawn_by_name h
  exact ⟨h, h', hre, hsame.mpr hties reversed b' hre h'⟩

/-- Two containers of one name, in the one order and in the other. -/
def twins : Network :=
  { id := "net-a", name := "apps",
    attached := .ofList
      [("1", { name := "web", address := "10.0.0.2" }),
       ("2", { name := "web", address := "10.0.0.1" })] }

def swappedTwins : Network :=
  { id := "net-a", name := "apps",
    attached := .ofList
      [("2", { name := "web", address := "10.0.0.1" }),
       ("1", { name := "web", address := "10.0.0.2" })] }

/-- The containers of one name change places with the order of the record. -/
theorem twins_change_places :
    ∃ b₀ b₁ : Dashboard RedrawCount,
      start { networks := [twins] } default {} = .ok b₀ ∧
      start { networks := [swappedTwins] } default {} = .ok b₁ ∧
      let b := b₀.openDetail (.network "net-a")
      let b' := b₁.openDetail (.network "net-a")
      Inspects twins b ∧ Inspects swappedTwins b' ∧ twins.Reorders swappedTwins ∧
        b.body.1.lines[6]? = some (Row.attachment { name := "web", address := "10.0.0.2" }) ∧
        b'.body.1.lines[6]? = some (Row.attachment { name := "web", address := "10.0.0.1" }) ∧
        b'.body.1 ≠ b.body.1 := by
  refine ⟨_, _, rfl, rfl, ?_⟩
  intro b b'
  have h : Inspects twins b := ⟨rfl, rfl⟩
  have h' : Inspects swappedTwins b' := ⟨rfl, rfl⟩
  have hlisted : Row.sortedAttachments twins = twins.attached.values :=
    List.mergeSort_of_pairwise (by decide)
  have hlisted' : Row.sortedAttachments swappedTwins = swappedTwins.attached.values :=
    List.mergeSort_of_pairwise (by decide)
  have hline : b.body.1.lines[6]? =
      some (Row.attachment { name := "web", address := "10.0.0.2" }) := by
    rw [body_of_inspects h, hlisted]
    rfl
  have hline' : b'.body.1.lines[6]? =
      some (Row.attachment { name := "web", address := "10.0.0.1" }) := by
    rw [body_of_inspects h', hlisted']
    rfl
  refine ⟨h, h', ⟨List.Perm.swap _ _ _, rfl⟩, hline, hline', fun hsame => ?_⟩
  rw [hsame, hline] at hline'
  revert hline'
  decide

end Dashboard

end ContainerBoard
