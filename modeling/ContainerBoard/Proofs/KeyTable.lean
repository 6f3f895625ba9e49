import ContainerBoard.KeyTable

/-!
# Looking up keys

What is found in a table after a change.
-/

namespace ContainerBoard

variable {κ α : Type} [DecidableEq κ]

theorem lookup_of_mem
    {entries : List (κ × α)} (hdistinct : (keysOf entries).Nodup) {key : κ} {value : α}
    (h : (key, value) ∈ entries) : entries.lookup key = some value := by
  induction entries with
  | nil => cases h
  | cons entry rest ih =>
      obtain ⟨k, v⟩ := entry
      simp only [keysOf, List.map_cons, List.nodup_cons] at hdistinct
      rcases List.mem_cons.mp h with heq | hrest
      · cases heq
        exact List.lookup_cons_self
      · have hne : key ≠ k := fun heq => hdistinct.1 (heq ▸ List.mem_map_of_mem hrest)
        rw [List.lookup_cons, beq_false_of_ne hne]
        exact ih hdistinct.2 hrest

theorem lookup_of_notMem
    {entries : List (κ × α)} {key : κ} (h : key ∉ keysOf entries) :
    entries.lookup key = none := by
  rw [List.lookup_eq_none_iff]
  intro entry hentry
  have hne : key ≠ entry.1 := fun heq => h (heq ▸ List.mem_map_of_mem hentry)
  simpa using hne

theorem mem_of_lookup
    {entries : List (κ × α)} {key : κ} {value : α} (h : entries.lookup key = some value) :
    (key, value) ∈ entries := by
  obtain ⟨earlier, later, rfl, -⟩ := List.lookup_eq_some_iff.mp h
  exact List.mem_append_right _ List.mem_cons_self

theorem lookup_eq_none_iff_notMem {entries : List (κ × α)} {key : κ} :
    entries.lookup key = none ↔ key ∉ keysOf entries := by
  constructor
  · intro hnone hkey
    obtain ⟨entry, hentry, rfl⟩ := List.mem_map.mp hkey
    have hne := List.lookup_eq_none_iff.mp hnone entry hentry
    simp at hne
  · exact lookup_of_notMem

/-- A value under a new key comes to stand at the end. -/
theorem putEntry_of_notMem
    {entries : List (κ × α)} {key : κ} (h : key ∉ keysOf entries) (value : α) :
    putEntry key value entries = entries ++ [(key, value)] := by
  induction entries with
  | nil => rfl
  | cons entry rest ih =>
      obtain ⟨k, v⟩ := entry
      simp only [keysOf, List.map_cons, List.mem_cons, not_or] at h
      rw [putEntry, if_neg (Ne.symm h.1), ih h.2, List.cons_append]

theorem find?_putEntry (key k : κ) (value : α) (entries : List (κ × α)) :
    ((putEntry key value entries).find? fun entry => entry.1 = k) =
      if key = k then some (key, value) else entries.find? fun entry => entry.1 = k := by
  induction entries with
  | nil => by_cases hk : key = k <;> simp [putEntry, hk]
  | cons entry rest ih =>
      obtain ⟨k', v'⟩ := entry
      by_cases hput : k' = key
      · subst hput
        by_cases hk : k' = k <;> simp [putEntry, hk]
      · by_cases hk : k' = k
        · subst hk
          simp [putEntry, hput, Ne.symm hput]
        · simp [putEntry, hput, hk, ih]

/-- Where no key stands twice, what a filter drops under a key is not made up for
by another entry. -/
theorem find?_filter_of_nodup
    (keep : κ → α → Bool) (k : κ) {entries : List (κ × α)}
    (h : (keysOf entries).Nodup) :
    ((entries.filter fun entry => keep entry.1 entry.2).find? fun entry => entry.1 = k) =
      (entries.find? fun entry => entry.1 = k).filter fun entry => keep entry.1 entry.2 := by
  induction entries with
  | nil => rfl
  | cons entry rest ih =>
      obtain ⟨k', v⟩ := entry
      simp only [keysOf, List.map_cons, List.nodup_cons] at h
      by_cases hk : k' = k
      · subst hk
        -- no later entry has the key
        have hrest : (rest.find? fun entry => entry.1 = k') = none := by
          rw [List.find?_eq_none]
          intro entry hentry
          have hne : entry.1 ≠ k' := fun heq => h.1 (heq ▸ List.mem_map_of_mem hentry)
          simpa using hne
        cases hkeep : keep k' v with
        | true => simp [Option.filter, hkeep]
        | false => simp [Option.filter, hkeep, ih h.2, hrest]
      · cases hkeep : keep k' v with
        | true => simp [hkeep, hk, ih h.2]
        | false => simp [hkeep, hk, ih h.2]

namespace KeyTable

theorem mem_entries_of_get?
    {table : KeyTable κ α} {key : κ} {value : α} (h : table.get? key = some value) :
    (key, value) ∈ table.entries := by
  obtain ⟨⟨k, v⟩, hfind, rfl⟩ := Option.map_eq_some_iff.mp h
  have hkey : k = key := by simpa using List.find?_some hfind
  exact hkey ▸ List.mem_of_find?_eq_some hfind

theorem get?_eq_some_iff {table : KeyTable κ α} {key : κ} {value : α} :
    table.get? key = some value ↔ (key, value) ∈ table.entries := by
  refine ⟨mem_entries_of_get?, fun h => ?_⟩
  cases hget : table.get? key with
  | none =>
      rw [get?, Option.map_eq_none_iff, List.find?_eq_none] at hget
      exact absurd (decide_eq_true rfl) (hget _ h)
  | some other =>
      have hother : (key, other) ∈ table.entries := mem_entries_of_get? hget
      exact (lookup_of_mem table.distinct hother).symm.trans (lookup_of_mem table.distinct h)

theorem get?_filter (table : KeyTable κ α) (keep : κ → α → Bool) (k : κ) :
    (table.filter keep).get? k = (table.get? k).filter (keep k) := by
  unfold get? filter
  rw [find?_filter_of_nodup keep k table.distinct]
  cases hfind : table.entries.find? fun entry => entry.1 = k with
  | none => rfl
  | some entry =>
      have hkey : entry.1 = k := by simpa using List.find?_some hfind
      cases hkeep : keep k entry.2 with
      | true => simp [Option.filter, hkey, hkeep]
      | false => simp [Option.filter, hkey, hkeep]

theorem get?_erase (table : KeyTable κ α) (key k : κ) :
    (table.erase key).get? k = if k = key then none else table.get? k := by
  rw [erase, get?_filter]
  by_cases hk : k = key
  · simp [hk]
  · cases table.get? k <;> simp [hk]

theorem get?_insert (table : KeyTable κ α) (key k : κ) (value : α) :
    (table.insert key value).get? k = if key = k then some value else table.get? k := by
  unfold get? insert
  rw [find?_putEntry]
  split <;> rfl

theorem foldl_insert
    (table : KeyTable κ α) {entries : List (κ × α)}
    (h : (keysOf (table.entries ++ entries)).Nodup) :
    (entries.foldl (fun table entry => table.insert entry.1 entry.2) table).entries =
      table.entries ++ entries := by
  induction entries generalizing table with
  | nil => exact (List.append_nil _).symm
  | cons entry rest ih =>
      have hnew : entry.1 ∉ keysOf table.entries := by
        intro hold
        simp only [keysOf, List.map_append, List.map_cons, List.nodup_append] at h
        exact h.2.2 _ hold _ List.mem_cons_self rfl
      have hinsert : (table.insert entry.1 entry.2).entries = table.entries ++ [entry] :=
        putEntry_of_notMem hnew entry.2
      rw [List.foldl_cons, ih, hinsert, List.append_assoc, List.singleton_append]
      rwa [hinsert, List.append_assoc, List.singleton_append]

omit [DecidableEq κ] in
theorem eq_of_entries {table other : KeyTable κ α} (h : table.entries = other.entries) :
    table = other := by
  cases table
  cases other
  cases h
  rfl

/-- A table is made again of its entries. -/
theorem ofList_entries (table : KeyTable κ α) : ofList table.entries = table :=
  eq_of_entries (foldl_insert empty table.distinct)

end KeyTable

end ContainerBoard
