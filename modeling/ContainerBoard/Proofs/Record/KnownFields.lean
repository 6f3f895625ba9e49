import ContainerBoard.Proofs.Record.Reading
import ContainerBoard.Proofs.Record.RoundTrip

/-!
# Records depend on their known fields

A record is read from the members of an object that have the names of its fields.  Neither
their order nor the other members of the object make a difference.  A field that is left out
has its default; the first field that needs to be there and is not is told in the complaint.
A list of the first fields in order is read as the object of them.
-/

namespace ContainerBoard

variable {α β τ ρ : Type}

namespace Fields

/-! ## The items of a list -/

variable {tests : List (String × (Json → Option Fault))} {seen : List String}
  {tooShort : Nat → Fault} {place : Nat} {items : List Json}

theorem keysOf_zip_sublist (names : List String) (items : List Json) :
    (keysOf (names.zip items)).Sublist names := by
  induction names generalizing items with
  | nil => exact List.Sublist.refl _
  | cons name names ih =>
      cases items with
      | nil => exact List.nil_sublist _
      | cons item items => exact (ih items).cons_cons name

theorem distribute_cons_cons (field : Field α) (rest : Fields β) (item : Json) :
    distribute tooShort true place (cons field rest) (item :: items) =
      field.codec.read item >>= fun value =>
        distribute tooShort true (place + 1) rest items >>= fun values =>
          .ok (value, values) := rfl

theorem distribute_cons_nil
    {field : Field α} {default : α} (h : field.absent = some default) (rest : Fields β) :
    distribute tooShort true place (cons field rest) [] =
      distribute tooShort true (place + 1) rest [] >>= fun values =>
        .ok (default, values) := by
  rw [distribute, h]
  rfl

theorem takes_zip_cons
    {field : Field α} {rest : Fields β} {item : Json} {value : α}
    (hname : field.name ∉ rest.names) (hread : field.codec.read item = .ok value) :
    field.Takes ((cons field rest).names.zip (item :: items)) value := by
  refine ⟨?_, ?_⟩
  · intro document hdocument
    rcases List.mem_cons.mp hdocument with heq | hrest
    · rw [(Prod.mk.inj heq).2]
      exact hread
    · exact absurd (List.of_mem_zip hrest).1 hname
  · intro habsent
    exact absurd List.mem_cons_self habsent

/-- The items of a list are taken as the members of the names in order. -/
theorem take_of_distribute
    {fields : Fields τ} (hdistinct : fields.names.Nodup) {values : τ}
    (h : fields.distribute tooShort true place items = .ok values) :
    fields.Take (fields.names.zip items) values := by
  induction fields generalizing items place with
  | nil => trivial
  | cons field rest ih =>
      have hnames : field.name ∉ rest.names ∧ rest.names.Nodup := List.nodup_cons.mp hdistinct
      cases items with
      | nil =>
          cases habsent : field.absent with
          | none =>
              rw [distribute, habsent] at h
              cases h
          | some default =>
              rw [distribute_cons_nil habsent] at h
              obtain ⟨others, hothers, heq⟩ := bind_eq_ok_iff.mp h
              cases heq
              have htake := ih hnames.2 hothers
              rw [List.zip_nil_right] at htake ⊢
              exact ⟨⟨nofun, fun _ => habsent⟩, htake⟩
      | cons item items =>
          rw [distribute_cons_cons] at h
          obtain ⟨value, hvalue, hrest⟩ := bind_eq_ok_iff.mp h
          obtain ⟨others, hothers, heq⟩ := bind_eq_ok_iff.mp hrest
          cases heq
          refine ⟨takes_zip_cons hnames.1 hvalue, (take_congr ?_).mp (ih hnames.2 hothers)⟩
          -- the first item is of no other field
          intro name hname document
          have hne : name ≠ field.name := fun heq => hnames.1 (heq ▸ hname)
          rw [names_cons, List.zip_cons_cons]
          simp [hne]

theorem exists_distribute_nil
    {fields : Fields τ} (hleft : ∀ name ∈ fields.names, name ∉ fields.needed) :
    ∃ values, fields.distribute tooShort true place [] = .ok values := by
  induction fields generalizing place with
  | nil => exact ⟨(), rfl⟩
  | cons field rest ih =>
      have hfield := hleft field.name List.mem_cons_self
      rw [mem_needed_cons, not_or] at hfield
      obtain ⟨default, habsent⟩ := Option.ne_none_iff_exists'.mp fun habsent =>
        hfield.1 ⟨habsent, rfl⟩
      have hrest : ∀ name ∈ rest.names, name ∉ rest.needed := fun name hname hneeded =>
        hleft name (List.mem_cons_of_mem _ hname) (mem_needed_cons.mpr (.inr hneeded))
      obtain ⟨values, hvalues⟩ :
          ∃ values, distribute tooShort true (place + 1) rest [] = .ok values := ih hrest
      rw [distribute_cons_nil habsent, hvalues]
      exact ⟨(default, values), rfl⟩

/-- A list that leaves out no field that is needed is refused for the first item that does
not fit its field, as the members of the names in order are. -/
theorem firstFault_of_distribute
    {fields : Fields τ} (hdistinct : fields.names.Nodup)
    (hfound : ∀ entry ∈ fields.tests, tests.lookup entry.1 = some entry.2)
    (hseen : ∀ name ∈ fields.names, name ∉ seen)
    (hlength : items.length ≤ fields.names.length)
    (hleft : ∀ name ∈ fields.names.drop items.length, name ∉ fields.needed) {fault : Fault}
    (h : fields.distribute tooShort true place items = .error fault) :
    firstFault tests seen (fields.names.zip items) = some fault := by
  induction fields generalizing items place seen with
  | nil =>
      cases List.length_eq_zero_iff.mp (Nat.le_zero.mp hlength)
      cases h
  | cons field rest ih =>
      have hnames : field.name ∉ rest.names ∧ rest.names.Nodup := List.nodup_cons.mp hdistinct
      have hfoundRest : ∀ entry ∈ rest.tests, tests.lookup entry.1 = some entry.2 :=
        fun entry hentry => hfound entry (List.mem_cons_of_mem _ hentry)
      cases items with
      | nil =>
          obtain ⟨values, hvalues⟩ := exists_distribute_nil hleft
          rw [hvalues] at h
          cases h
      | cons item items =>
          have htest : tests.lookup field.name = some field.fault? :=
            hfound (field.name, field.fault?) List.mem_cons_self
          have hnew : field.name ∉ seen := hseen field.name List.mem_cons_self
          rw [distribute_cons_cons, bind_eq_error_iff] at h
          rw [names_cons, List.zip_cons_cons, firstFault, htest]
          simp only [hnew, if_false]
          rcases h with hread | ⟨value, hvalue, hrest⟩
          · have hfault : field.fault? item = some fault := by
              unfold Field.fault?
              rw [hread]
            rw [hfault]
          · have hfault : field.fault? item = none := fault?_eq_none_iff.mpr ⟨value, hvalue⟩
            have hrest : distribute tooShort true (place + 1) rest items = .error fault := by
              rcases bind_eq_error_iff.mp hrest with herror | ⟨values, -, hdone⟩
              · exact herror
              · cases hdone
            rw [hfault]
            refine ih hnames.2 hfoundRest ?_ (Nat.le_of_succ_le_succ hlength) ?_ hrest
            · intro name hname hold
              rcases List.mem_cons.mp hold with rfl | hold
              · exact hnames.1 hname
              · exact hseen name (List.mem_cons_of_mem _ hname) hold
            · intro name hname hneeded
              exact hleft name hname (mem_needed_cons.mpr (.inr hneeded))

end Fields

namespace Layout

/-- How a record is read from objects and from lists. -/
structure ReadsFields (layout : Layout ρ) : Prop where
  /-- The fields of the record take their values from the members of their names, or else
  have their defaults. -/
  reads_iff : ∀ members r, layout.read (.record members) = .ok r ↔
    layout.fields.Once members ∧ layout.fields.Take members (layout.toParts r)
  /-- Objects whose known members are the same up to their order are read alike.  So members
  may be permuted, and members of other names may be added and removed. -/
  same_known : ∀ members others,
    (layout.fields.known members).Perm (layout.fields.known others) →
      ∀ r, layout.read (.record members) = .ok r ↔ layout.read (.record others) = .ok r
  complete : ∀ members, layout.fields.Once members → layout.fields.Fit members →
    ((∃ r, layout.read (.record members) = .ok r) ↔
      ∀ name ∈ layout.fields.needed, name ∈ keysOf members)
  first_missing : ∀ members, layout.fields.Once members → layout.fields.Fit members →
    ∀ name later, layout.fields.missing members = name :: later →
      layout.read (.record members) = .error (.missingField name)
  repeated : ∀ members, ∀ name ∈ layout.fields.names, 1 < (keysOf members).count name →
    ∃ fault, layout.read (.record members) = .error fault
  /-- The fields behind the end of a list may be missing if they have defaults. -/
  list : ∀ items : List Json, items.length ≤ layout.fields.names.length →
    (∀ name ∈ layout.fields.names.drop items.length, name ∉ layout.fields.needed) →
      layout.read (.list items) = layout.read (.record (layout.fields.names.zip items))

variable (layout : Layout ρ) [layout.Lossless] {members others : List (String × Json)}

theorem read_eq_of_known_perm
    (hparts : ∀ values, layout.toParts (layout.ofParts values) = values)
    (hperm : (layout.fields.known members).Perm (layout.fields.known others)) (r : ρ) :
    layout.read (.record members) = .ok r ↔ layout.read (.record others) = .ok r := by
  have hkeys := hperm.map Prod.fst
  rw [layout.read_record_eq_ok_iff hparts, layout.read_record_eq_ok_iff hparts]
  refine and_congr ?_ (Fields.take_congr ?_)
  · rw [Fields.Once, Fields.Once, ← Fields.keysOf_known, ← Fields.keysOf_known]
    exact hkeys.nodup_iff
  · intro name hname document
    have hmem := hperm.mem_iff (a := (name, document))
    simpa [Fields.mem_known, hname] using hmem

theorem read_of_missing
    (honce : layout.fields.Once members) (hfit : layout.fields.Fit members)
    {name : String} {later : List String}
    (hmissing : layout.fields.missing members = name :: later) :
    layout.read (.record members) = .error (.missingField name) := by
  rw [layout.read_of_fit honce hfit, Fields.collect_of_missing hfit hmissing]
  rfl

theorem exists_read_iff
    (honce : layout.fields.Once members) (hfit : layout.fields.Fit members) :
    (∃ r, layout.read (.record members) = .ok r) ↔
      ∀ name ∈ layout.fields.needed, name ∈ keysOf members := by
  have hnone : layout.fields.missing members = [] ↔
      ∀ name ∈ layout.fields.needed, name ∈ keysOf members := by
    simp [Fields.missing]
  rw [← hnone]
  constructor
  · rintro ⟨r, hread⟩
    cases hmissing : layout.fields.missing members with
    | nil => rfl
    | cons name later =>
        rw [layout.read_of_missing honce hfit hmissing] at hread
        cases hread
  · intro hmissing
    obtain ⟨values, hvalues⟩ := Fields.exists_collect_of_fit hfit hmissing
    rw [layout.read_of_fit honce hfit, hvalues]
    exact ⟨layout.ofParts values, rfl⟩

theorem read_of_repeated
    {name : String} (hname : name ∈ layout.fields.names)
    (hrepeated : 1 < (keysOf members).count name) :
    ∃ fault, layout.read (.record members) = .error fault := by
  cases hfault : Fields.firstFault layout.fields.tests [] members with
  | some fault => exact ⟨fault, layout.read_of_firstFault hfault⟩
  | none =>
      have honce : layout.fields.Once members :=
        ((Fields.firstFault_tests_eq_none_iff Lossless.distinct).mp hfault).1
      have hcount := List.nodup_iff_count.mp honce name
      rw [List.count_filter (by simpa using hname)] at hcount
      omega

/-- The members that the items of a list stand for name no field twice. -/
theorem once_zip (items : List Json) :
    layout.fields.Once (layout.fields.names.zip items) := by
  have hdistinct : layout.fields.names.Nodup := Lossless.distinct
  exact (hdistinct.sublist (Fields.keysOf_zip_sublist _ items)).filter _

theorem read_list
    (hparts : ∀ values, layout.toParts (layout.ofParts values) = values) {items : List Json}
    (hlength : items.length ≤ layout.fields.names.length)
    (hleft : ∀ name ∈ layout.fields.names.drop items.length, name ∉ layout.fields.needed) :
    layout.read (.list items) = layout.read (.record (layout.fields.names.zip items)) := by
  have hdistinct : layout.fields.names.Nodup := Lossless.distinct
  have hread : layout.read (.list items) =
      (layout.fields.distribute
        (fun length => .tooShort length layout.name layout.fields.count) true 0 items).map
          layout.ofParts := rfl
  rw [hread]
  cases hitems : layout.fields.distribute
      (fun length => .tooShort length layout.name layout.fields.count) true 0 items with
  | error fault =>
      have hfound : ∀ entry ∈ layout.fields.tests,
          layout.fields.tests.lookup entry.1 = some entry.2 :=
        fun entry hentry => lookup_of_mem hdistinct hentry
      have hfault := Fields.firstFault_of_distribute hdistinct hfound
        (fun _ _ => List.not_mem_nil) hlength hleft hitems
      rw [layout.read_of_firstFault hfault]
      rfl
  | ok values =>
      have htake := Fields.take_of_distribute hdistinct hitems
      rw [← hparts values] at htake
      exact ((layout.read_record_eq_ok_iff hparts).mpr ⟨layout.once_zip items, htake⟩).symm

theorem readsFields
    (hparts : ∀ values, layout.toParts (layout.ofParts values) = values) :
    layout.ReadsFields where
  reads_iff _ _ := layout.read_record_eq_ok_iff hparts
  same_known _ _ hperm := layout.read_eq_of_known_perm hparts hperm
  complete _ := layout.exists_read_iff
  first_missing _ honce hfit _ _ := layout.read_of_missing honce hfit
  repeated _ _ hname := layout.read_of_repeated hname
  list _ := layout.read_list hparts

end Layout

/-- Every record that the daemon speaks of is read from its known fields alone. -/
theorem records_depend_on_known_fields :
    Container.layout.ReadsFields ∧ Image.layout.ReadsFields ∧ ImageLayer.layout.ReadsFields ∧
      ImageDetails.layout.ReadsFields ∧ ImageRemoval.layout.ReadsFields ∧
      Network.layout.ReadsFields ∧ Attachment.layout.ReadsFields ∧ Host.layout.ReadsFields ∧
      PruneReport.layout.ReadsFields ∧ Service.layout.ReadsFields ∧ Node.layout.ReadsFields ∧
      Task.layout.ReadsFields ∧ DaemonEvent.layout.ReadsFields := by
  refine ⟨?_, ?_, ?_, ?_, ?_, ?_, ?_, ?_, ?_, ?_, ?_, ?_, ?_⟩
  all_goals exact Layout.readsFields _ fun _ => rfl

example :
    Attachment.layout.read
        (.record [("Alias", .null), ("Name", .string "web"), ("Alias", .bool true)]) =
      .ok { name := "web" } := rfl

end ContainerBoard
