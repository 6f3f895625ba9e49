import ContainerBoard.Proofs.Record.Members
import Mathlib.Data.List.Basic

/-!
# Reading a record

What the members of an object give to the fields of a record: a field takes the value of the
member of its name, and if there is none, its default.  A record is read exactly if no field
is named twice and every field takes a value, so nothing else about the members makes a
difference.
-/

namespace ContainerBoard

variable {α β τ ρ : Type}

theorem bind_eq_ok_iff
    {found : Except Fault α} {next : α → Except Fault β} {result : β} :
    (found >>= next) = .ok result ↔ ∃ value, found = .ok value ∧ next value = .ok result := by
  cases found <;> simp [bind, Except.bind]

theorem bind_eq_error_iff
    {found : Except Fault α} {next : α → Except Fault β} {fault : Fault} :
    (found >>= next) = .error fault ↔
      found = .error fault ∨ ∃ value, found = .ok value ∧ next value = .error fault := by
  cases found <;> simp [bind, Except.bind]

variable {members others : List (String × Json)}

theorem mem_keysOf {name : String} :
    name ∈ keysOf members ↔ ∃ document, (name, document) ∈ members := by
  simp [keysOf]

/-! ## What a field takes -/

namespace Field

/-- A field takes a value from the members of an object. -/
structure Takes (field : Field α) (members : List (String × Json)) (value : α) : Prop where
  given : ∀ document, (field.name, document) ∈ members →
    field.codec.read document = .ok value
  absent : field.name ∉ keysOf members → field.absent = some value

/-- The value of a field, read off the first member of its name. -/
def taken (field : Field α) (members : List (String × Json)) : Except Fault α :=
  match members.lookup field.name, field.absent with
  | some document, _ => field.codec.read document
  | none, some value => .ok value
  | none, none => .error (.missingField field.name)

variable {field : Field α}

theorem taken_of_lookup
    {document : Json} (h : members.lookup field.name = some document) :
    field.taken members = field.codec.read document := by
  unfold taken
  rw [h]

theorem taken_of_default
    {value : α} (h : field.absent = some value) (hname : field.name ∉ keysOf members) :
    field.taken members = .ok value := by
  unfold taken
  rw [lookup_of_notMem hname, h]

theorem taken_of_missing
    (h : field.absent = none) (hname : field.name ∉ keysOf members) :
    field.taken members = .error (.missingField field.name) := by
  unfold taken
  rw [lookup_of_notMem hname, h]

/-- A field whose members fit takes a value, unless it is missing. -/
theorem exists_taken
    (hfit : ∀ document, (field.name, document) ∈ members →
      ∃ value, field.codec.read document = .ok value)
    (hthere : ¬ (field.absent = none ∧ field.name ∉ keysOf members)) :
    ∃ value, field.taken members = .ok value := by
  cases hlookup : members.lookup field.name with
  | some document =>
      obtain ⟨value, hvalue⟩ := hfit document (mem_of_lookup hlookup)
      exact ⟨value, (taken_of_lookup hlookup).trans hvalue⟩
  | none =>
      have hname : field.name ∉ keysOf members := lookup_eq_none_iff_notMem.mp hlookup
      cases habsent : field.absent with
      | none => exact absurd ⟨habsent, hname⟩ hthere
      | some value => exact ⟨value, taken_of_default habsent hname⟩

/-- Where the first member of the name is the only one, its value is the one taken. -/
theorem taken_eq_ok_iff
    (honly : ∀ document, (field.name, document) ∈ members →
      members.lookup field.name = some document) {value : α} :
    field.taken members = .ok value ↔ field.Takes members value := by
  by_cases hname : field.name ∈ keysOf members
  · obtain ⟨document, hdocument⟩ := mem_keysOf.mp hname
    rw [taken_of_lookup (honly document hdocument)]
    constructor
    · intro hread
      refine ⟨?_, fun habsent => absurd hname habsent⟩
      intro other hother
      have hsame : document = other :=
        Option.some.inj ((honly document hdocument).symm.trans (honly other hother))
      exact hsame ▸ hread
    · intro htakes
      exact htakes.given document hdocument
  · have hnone : ∀ document, (field.name, document) ∉ members :=
      fun document hdocument => hname (mem_keysOf.mpr ⟨document, hdocument⟩)
    constructor
    · intro hvalue
      refine ⟨fun document hdocument => absurd hdocument (hnone document), fun _ => ?_⟩
      cases habsent : field.absent with
      | none =>
          rw [taken_of_missing habsent hname] at hvalue
          cases hvalue
      | some default =>
          rw [taken_of_default habsent hname] at hvalue
          exact congrArg some (Except.ok.inj hvalue)
    · intro htakes
      exact taken_of_default (htakes.absent hname) hname

end Field

namespace Fields

/-- Every field takes its value from the members. -/
def Take (members : List (String × Json)) : {τ : Type} → Fields τ → τ → Prop
  | _, nil, _ => True
  | _, cons field rest, (value, values) =>
    field.Takes members value ∧ rest.Take members values

/-- Every member with the name of a field has a value of the field. -/
def Fit (members : List (String × Json)) : {τ : Type} → Fields τ → Prop
  | _, nil => True
  | _, cons field rest =>
    (∀ document, (field.name, document) ∈ members →
      ∃ value, field.codec.read document = .ok value) ∧ rest.Fit members

/-- The names of the fields without a default. -/
def needed : {τ : Type} → Fields τ → List String
  | _, nil => []
  | _, cons field rest =>
    if field.absent.isNone then field.name :: rest.needed else rest.needed

/-- The fields that are needed, but are named by no member. -/
def missing (fields : Fields τ) (members : List (String × Json)) : List String :=
  fields.needed.filter (· ∉ keysOf members)

/-- The members with the names of fields. -/
def known (fields : Fields τ) (members : List (String × Json)) : List (String × Json) :=
  members.filter fun member => member.1 ∈ fields.names

/-- No field is named by two members. -/
def Once (fields : Fields τ) (members : List (String × Json)) : Prop :=
  ((keysOf members).filter (· ∈ fields.names)).Nodup

theorem names_cons (field : Field α) (rest : Fields β) :
    (cons field rest).names = field.name :: rest.names := rfl

theorem missing_cons (field : Field α) (rest : Fields β) :
    (cons field rest).missing members =
      if field.absent = none ∧ field.name ∉ keysOf members then
        field.name :: rest.missing members
      else rest.missing members := by
  rw [missing, needed, missing]
  by_cases habsent : field.absent = none
  · by_cases hname : field.name ∈ keysOf members <;> simp [habsent, hname]
  · simp [habsent]

theorem mem_needed_cons {field : Field α} {rest : Fields β} {name : String} :
    name ∈ (cons field rest).needed ↔
      field.absent = none ∧ name = field.name ∨ name ∈ rest.needed := by
  rw [needed]
  by_cases habsent : field.absent = none <;> simp [habsent]

theorem mem_known {fields : Fields τ} {name : String} {document : Json} :
    (name, document) ∈ fields.known members ↔
      (name, document) ∈ members ∧ name ∈ fields.names := by
  simp [known]

theorem keysOf_known (fields : Fields τ) :
    keysOf (fields.known members) = (keysOf members).filter (· ∈ fields.names) := by
  unfold keysOf known
  rw [List.filter_map]
  rfl

theorem lookup_known
    {fields : Fields τ} {name : String} (hname : name ∈ fields.names) :
    (fields.known members).lookup name = members.lookup name := by
  induction members with
  | nil => rfl
  | cons member rest ih =>
      obtain ⟨key, document⟩ := member
      unfold known at ih ⊢
      by_cases hkey : key ∈ fields.names
      · rw [List.filter_cons_of_pos (by simpa using hkey), List.lookup_cons,
          List.lookup_cons, ih]
      · have hne : name ≠ key := fun heq => hkey (heq ▸ hname)
        rw [List.filter_cons_of_neg (by simpa using hkey), List.lookup_cons,
          beq_false_of_ne hne, ih]

/-- Where no field is named twice, the member of a field is the one that is looked up. -/
theorem Once.lookup_eq
    {fields : Fields τ} (honce : fields.Once members) {name : String} {document : Json}
    (hname : name ∈ fields.names) (hmember : (name, document) ∈ members) :
    members.lookup name = some document := by
  have hdistinct : (keysOf (fields.known members)).Nodup := fields.keysOf_known ▸ honce
  rw [← lookup_known hname]
  exact lookup_of_mem hdistinct (mem_known.mpr ⟨hmember, hname⟩)

theorem Take.fit
    {fields : Fields τ} {values : τ} (h : fields.Take members values) :
    fields.Fit members := by
  induction fields with
  | nil => trivial
  | cons field rest ih =>
      refine ⟨?_, ih h.2⟩
      intro document hdocument
      exact ⟨values.1, h.1.given document hdocument⟩

/-! ## The first complaint -/

/-- Members that give no reason to complain: those with a test pass it, and stand under
distinct names that were not seen before. -/
structure Clean (tests : List (String × (Json → Option Fault))) (seen : List String)
    (members : List (String × Json)) : Prop where
  distinct : ((keysOf members).filter (· ∈ keysOf tests)).Nodup
  fresh : ∀ name ∈ keysOf members, name ∈ keysOf tests → name ∉ seen
  pass : ∀ member ∈ members, ∀ test, tests.lookup member.1 = some test → test member.2 = none

variable {tests : List (String × (Json → Option Fault))} {seen : List String}

theorem clean_cons_of_unknown
    {name : String} (hname : name ∉ keysOf tests) (document : Json) :
    Clean tests seen ((name, document) :: members) ↔ Clean tests seen members := by
  have hnone : tests.lookup name = none := lookup_of_notMem hname
  have hkeys : (keysOf ((name, document) :: members)).filter (· ∈ keysOf tests) =
      (keysOf members).filter (· ∈ keysOf tests) :=
    List.filter_cons_of_neg (by simpa using hname)
  constructor
  · intro hclean
    refine ⟨hkeys ▸ hclean.distinct, ?_, ?_⟩
    · intro key hkey
      exact hclean.fresh key (List.mem_cons_of_mem _ hkey)
    · intro member hmember
      exact hclean.pass member (List.mem_cons_of_mem _ hmember)
  · intro hclean
    refine ⟨hkeys.symm ▸ hclean.distinct, ?_, ?_⟩
    · intro key hkey hknown
      rcases List.mem_cons.mp hkey with rfl | hkey
      · exact absurd hknown hname
      · exact hclean.fresh key hkey hknown
    · intro member hmember test htest
      rcases List.mem_cons.mp hmember with rfl | hmember
      · rw [hnone] at htest
        cases htest
      · exact hclean.pass member hmember test htest

theorem clean_cons_of_known
    {name : String} (hname : name ∈ keysOf tests) {test : Json → Option Fault}
    (htest : tests.lookup name = some test) {document : Json} :
    Clean tests seen ((name, document) :: members) ↔
      name ∉ seen ∧ test document = none ∧ Clean tests (name :: seen) members := by
  have hkeys : (keysOf ((name, document) :: members)).filter (· ∈ keysOf tests) =
      name :: (keysOf members).filter (· ∈ keysOf tests) :=
    List.filter_cons_of_pos (by simpa using hname)
  constructor
  · intro hclean
    have hdistinct := hkeys ▸ hclean.distinct
    rw [List.nodup_cons, List.mem_filter] at hdistinct
    refine ⟨hclean.fresh name List.mem_cons_self hname,
      hclean.pass _ List.mem_cons_self test htest, hdistinct.2, ?_, ?_⟩
    · intro key hkey hknown hseen
      rcases List.mem_cons.mp hseen with rfl | hseen
      · exact hdistinct.1 ⟨hkey, by simpa using hname⟩
      · exact hclean.fresh key (List.mem_cons_of_mem _ hkey) hknown hseen
    · intro member hmember
      exact hclean.pass member (List.mem_cons_of_mem _ hmember)
  · rintro ⟨hseen, hpass, hclean⟩
    have hnew : name ∉ (keysOf members).filter (· ∈ keysOf tests) := by
      intro hmem
      exact hclean.fresh name (List.mem_filter.mp hmem).1 hname List.mem_cons_self
    refine ⟨?_, ?_, ?_⟩
    · rw [hkeys]
      exact List.nodup_cons.mpr ⟨hnew, hclean.distinct⟩
    · intro key hkey hknown
      rcases List.mem_cons.mp hkey with rfl | hkey
      · exact hseen
      · exact fun hold => hclean.fresh key hkey hknown (List.mem_cons_of_mem _ hold)
    · intro member hmember other hother
      rcases List.mem_cons.mp hmember with rfl | hmember
      · rw [htest] at hother
        cases hother
        exact hpass
      · exact hclean.pass member hmember other hother

theorem firstFault_eq_none_iff :
    firstFault tests seen members = none ↔ Clean tests seen members := by
  induction members generalizing seen with
  | nil =>
      refine iff_of_true rfl ⟨List.nodup_nil, ?_, ?_⟩
      · intro name hname
        cases hname
      · intro member hmember
        cases hmember
  | cons member rest ih =>
      obtain ⟨name, document⟩ := member
      unfold firstFault
      cases htest : tests.lookup name with
      | none =>
          rw [clean_cons_of_unknown (lookup_eq_none_iff_notMem.mp htest)]
          exact ih
      | some test =>
          have hname : name ∈ keysOf tests := List.mem_map_of_mem (mem_of_lookup htest)
          rw [clean_cons_of_known hname htest, ← ih]
          by_cases hseen : name ∈ seen
          · simp [hseen]
          · cases hpass : test document with
            | some fault => simp [hseen, hpass]
            | none => simp [hseen, hpass]

theorem fault?_eq_none_iff {field : Field α} {document : Json} :
    field.fault? document = none ↔ ∃ value, field.codec.read document = .ok value := by
  unfold Field.fault?
  cases field.codec.read document <;> simp

theorem fit_iff
    {fields : Fields τ} (hdistinct : fields.names.Nodup) :
    fields.Fit members ↔ ∀ member ∈ members, ∀ test,
      fields.tests.lookup member.1 = some test → test member.2 = none := by
  induction fields with
  | nil =>
      refine iff_of_true trivial ?_
      intro member _ test htest
      cases htest
  | cons field rest ih =>
      have hnames : field.name ∉ rest.names ∧ rest.names.Nodup := List.nodup_cons.mp hdistinct
      have htests : tests (cons field rest) = (field.name, field.fault?) :: rest.tests := rfl
      rw [Fit, ih hnames.2, htests]
      constructor
      · rintro ⟨hfield, hrest⟩ ⟨name, document⟩ hmember test htest
        by_cases hname : name = field.name
        · subst hname
          rw [List.lookup_cons_self] at htest
          cases htest
          exact fault?_eq_none_iff.mpr (hfield document hmember)
        · rw [List.lookup_cons, beq_false_of_ne hname] at htest
          exact hrest _ hmember test htest
      · intro hall
        constructor
        · intro document hmember
          exact fault?_eq_none_iff.mp (hall _ hmember _ List.lookup_cons_self)
        · rintro ⟨name, document⟩ hmember test htest
          have hname : name ≠ field.name := by
            rintro rfl
            exact hnames.1 (List.mem_map_of_mem (mem_of_lookup htest))
          apply hall _ hmember
          rw [List.lookup_cons, beq_false_of_ne hname]
          exact htest

/-- There is nothing to complain about exactly if no field is named twice and every member
has a value of its field. -/
theorem firstFault_tests_eq_none_iff
    {fields : Fields τ} (hdistinct : fields.names.Nodup) :
    firstFault fields.tests [] members = none ↔ fields.Once members ∧ fields.Fit members := by
  rw [firstFault_eq_none_iff, fit_iff hdistinct]
  constructor
  · intro hclean
    exact ⟨hclean.distinct, hclean.pass⟩
  · rintro ⟨honce, hpass⟩
    exact ⟨honce, fun _ _ _ => List.not_mem_nil, hpass⟩

/-! ## The values of the fields -/

theorem collect_cons_eq (field : Field α) (rest : Fields β) :
    collect members (cons field rest) =
      field.taken members >>= fun value =>
        collect members rest >>= fun values => .ok (value, values) := by
  rw [collect, Field.taken]
  cases members.lookup field.name with
  | some document => rfl
  | none => cases field.absent <;> rfl

theorem collect_eq_ok_iff
    {fields : Fields τ} (honly : ∀ name ∈ fields.names, ∀ document,
      (name, document) ∈ members → members.lookup name = some document) {values : τ} :
    collect members fields = .ok values ↔ fields.Take members values := by
  induction fields with
  | nil => exact iff_of_true rfl trivial
  | cons field rest ih =>
      obtain ⟨value, values⟩ := values
      rw [Take, ← Field.taken_eq_ok_iff (honly field.name List.mem_cons_self),
        ← ih fun name hname => honly name (List.mem_cons_of_mem _ hname), collect_cons_eq]
      simp [bind_eq_ok_iff]

/-- Where every member fits its field, the first field that is missing is told. -/
theorem collect_of_missing
    {fields : Fields τ} (hfit : fields.Fit members) {name : String} {later : List String}
    (hmissing : fields.missing members = name :: later) :
    collect members fields = .error (.missingField name) := by
  induction fields with
  | nil => cases hmissing
  | cons field rest ih =>
      rw [missing_cons] at hmissing
      rw [collect_cons_eq]
      split at hmissing
      · rename_i habsent
        rw [Field.taken_of_missing habsent.1 habsent.2, ← (List.cons.inj hmissing).1]
        rfl
      · rename_i hthere
        obtain ⟨value, hvalue⟩ := Field.exists_taken hfit.1 hthere
        rw [hvalue, ih hfit.2 hmissing]
        rfl

/-- Where every member fits its field and no field is missing, every field takes a value. -/
theorem exists_collect_of_fit
    {fields : Fields τ} (hfit : fields.Fit members) (hmissing : fields.missing members = []) :
    ∃ values, collect members fields = .ok values := by
  induction fields with
  | nil => exact ⟨(), rfl⟩
  | cons field rest ih =>
      rw [missing_cons] at hmissing
      rw [collect_cons_eq]
      split at hmissing
      · cases hmissing
      · rename_i hthere
        obtain ⟨value, hvalue⟩ := Field.exists_taken hfit.1 hthere
        obtain ⟨values, hvalues⟩ := ih hfit.2 hmissing
        rw [hvalue, hvalues]
        exact ⟨(value, values), rfl⟩

/-- What the fields take depends on nothing but the members with their names. -/
theorem take_congr
    {fields : Fields τ} {values : τ}
    (h : ∀ name ∈ fields.names, ∀ document,
      (name, document) ∈ members ↔ (name, document) ∈ others) :
    fields.Take members values ↔ fields.Take others values := by
  induction fields with
  | nil => exact Iff.rfl
  | cons field rest ih =>
      obtain ⟨value, values⟩ := values
      have hfield := h field.name List.mem_cons_self
      have hkeys : field.name ∈ keysOf members ↔ field.name ∈ keysOf others := by
        rw [mem_keysOf, mem_keysOf]
        exact exists_congr hfield
      refine and_congr ?_ (ih fun name hname => h name (List.mem_cons_of_mem _ hname))
      constructor
      · intro htakes
        exact ⟨fun document hdocument => htakes.given document ((hfield document).mpr hdocument),
          fun habsent => htakes.absent (mt hkeys.mp habsent)⟩
      · intro htakes
        exact ⟨fun document hdocument => htakes.given document ((hfield document).mp hdocument),
          fun habsent => htakes.absent (mt hkeys.mpr habsent)⟩

end Fields

namespace Layout

variable (layout : Layout ρ)

theorem read_of_firstFault
    {fault : Fault} (h : Fields.firstFault layout.fields.tests [] members = some fault) :
    layout.read (.record members) = .error fault := by
  change layout.ofMembers members true = _
  rw [ofMembers, h]

theorem read_of_fit
    [layout.Lossless] (honce : layout.fields.Once members) (hfit : layout.fields.Fit members) :
    layout.read (.record members) =
      (Fields.collect members layout.fields).map layout.ofParts := by
  have hnone := (Fields.firstFault_tests_eq_none_iff Lossless.distinct).mpr ⟨honce, hfit⟩
  change layout.ofMembers members true = _
  rw [ofMembers, hnone, if_pos rfl]

/-- Where no field is named twice, the values that the fields take are read. -/
theorem read_of_take
    [layout.Lossless] (honce : layout.fields.Once members) {r : ρ}
    (htake : layout.fields.Take members (layout.toParts r)) :
    layout.read (.record members) = .ok r := by
  have hcollect : Fields.collect members layout.fields = .ok (layout.toParts r) :=
    (Fields.collect_eq_ok_iff fun _ hname _ => honce.lookup_eq hname).mpr htake
  rw [layout.read_of_fit honce htake.fit, hcollect]
  exact congrArg Except.ok (layout.ofParts_toParts r)

/-- A record is read from an object exactly if no field is named twice and the fields take
the values of the record. -/
theorem read_record_eq_ok_iff
    [layout.Lossless] (hparts : ∀ values, layout.toParts (layout.ofParts values) = values)
    {r : ρ} :
    layout.read (.record members) = .ok r ↔
      layout.fields.Once members ∧ layout.fields.Take members (layout.toParts r) := by
  constructor
  · intro hread
    cases hfault : Fields.firstFault layout.fields.tests [] members with
    | some fault =>
        rw [layout.read_of_firstFault hfault] at hread
        cases hread
    | none =>
        obtain ⟨honce, hfit⟩ :=
          (Fields.firstFault_tests_eq_none_iff Lossless.distinct).mp hfault
        rw [layout.read_of_fit honce hfit] at hread
        cases hcollect : Fields.collect members layout.fields with
        | error fault =>
            rw [hcollect] at hread
            cases hread
        | ok values =>
            rw [hcollect] at hread
            cases hread
            rw [hparts]
            exact ⟨honce, (Fields.collect_eq_ok_iff fun _ hname _ => honce.lookup_eq hname).mp
              hcollect⟩
  · rintro ⟨honce, htake⟩
    exact layout.read_of_take honce htake

end Layout

end ContainerBoard
