/-!
# Tables with keys

A `KeyTable` holds at most one value per key.  Its entries stay in the order
in which their keys came in; a later value for a key takes the place of the
earlier one.
-/

namespace ContainerBoard

variable {κ α : Type}

/-- The keys of a list of entries. -/
def keysOf (entries : List (κ × α)) : List κ :=
  entries.map Prod.fst

/-- Puts a value under a key: in the place of the key's earlier value, or
else at the end. -/
def putEntry [DecidableEq κ] (key : κ) (value : α) :
    List (κ × α) → List (κ × α)
  | [] => [(key, value)]
  | (k, v) :: rest =>
    if k = key then (key, value) :: rest else (k, v) :: putEntry key value rest

/-- Putting a value adds at most its key. -/
theorem mem_keysOf_putEntry [DecidableEq κ] {key : κ} {value : α} {k : κ}
    {entries : List (κ × α)} (h : k ∈ keysOf (putEntry key value entries)) :
    k = key ∨ k ∈ keysOf entries := by
  induction entries with
  | nil => simpa [putEntry, keysOf] using h
  | cons entry rest ih =>
    obtain ⟨k', v'⟩ := entry
    by_cases hk : k' = key
    · subst hk
      simpa [putEntry, keysOf] using h
    · simp only [putEntry, hk, if_false, keysOf, List.map_cons, List.mem_cons] at h ⊢
      rcases h with h | h
      · exact .inr (.inl h)
      · rcases ih h with h | h
        · exact .inl h
        · exact .inr (.inr h)

/-- Putting a value keeps the keys distinct. -/
theorem nodup_keysOf_putEntry [DecidableEq κ] (key : κ) (value : α)
    {entries : List (κ × α)} (h : (keysOf entries).Nodup) :
    (keysOf (putEntry key value entries)).Nodup := by
  induction entries with
  | nil => simp [putEntry, keysOf]
  | cons entry rest ih =>
    obtain ⟨k', v'⟩ := entry
    simp only [keysOf, List.map_cons, List.nodup_cons] at h
    by_cases hk : k' = key
    · subst hk
      simpa [putEntry, keysOf] using h
    · simp only [putEntry, hk, if_false, keysOf, List.map_cons, List.nodup_cons]
      refine ⟨fun hmem => ?_, ih h.2⟩
      rcases mem_keysOf_putEntry hmem with heq | hin
      · exact hk heq
      · exact h.1 hin

/-- A table that holds at most one value per key. -/
structure KeyTable (κ α : Type) where
  /-- The keys with their values, in the order in which the keys came in. -/
  entries : List (κ × α)
  /-- No key stands twice. -/
  distinct : (keysOf entries).Nodup
  deriving DecidableEq

namespace KeyTable

def empty : KeyTable κ α :=
  ⟨[], by simp [keysOf]⟩

instance : Inhabited (KeyTable κ α) := ⟨empty⟩

/-- Puts a value under a key, instead of the value that was there. -/
def insert [DecidableEq κ] (table : KeyTable κ α) (key : κ) (value : α) : KeyTable κ α :=
  ⟨putEntry key value table.entries, nodup_keysOf_putEntry key value table.distinct⟩

/-- The table of the given entries; of several values for one key the last
one stays. -/
def ofList [DecidableEq κ] (entries : List (κ × α)) : KeyTable κ α :=
  entries.foldl (fun table entry => table.insert entry.1 entry.2) empty

def get? [DecidableEq κ] (table : KeyTable κ α) (key : κ) : Option α :=
  (table.entries.find? fun entry => entry.1 = key).map Prod.snd

/-- The table with those entries alone that satisfy a test. -/
def filter (keep : κ → α → Bool) (table : KeyTable κ α) : KeyTable κ α :=
  ⟨table.entries.filter fun entry => keep entry.1 entry.2, by
    have h := table.distinct
    unfold keysOf at h ⊢
    exact h.sublist (List.filter_sublist.map _)⟩

def erase [DecidableEq κ] (table : KeyTable κ α) (key : κ) : KeyTable κ α :=
  table.filter fun k _ => !decide (k = key)

def size (table : KeyTable κ α) : Nat :=
  table.entries.length

def values (table : KeyTable κ α) : List α :=
  table.entries.map Prod.snd

end KeyTable

end ContainerBoard
