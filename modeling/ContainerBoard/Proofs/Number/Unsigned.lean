import ContainerBoard.Number.Unsigned
import ContainerBoard.Proofs.Time.Digits
import Mathlib.Data.List.TakeWhile

/-!
# Reading unsigned numbers

What is read as an unsigned number is an optional plus sign and one or more digits, with
blanks around them.  Zeros in front count for nothing, and the value has 64 bits.
-/

namespace ContainerBoard

/-- The text is an optional plus sign and the digits of a 64 bit number. -/
def IsUnsigned64 (s : List Char) (n : Nat) : Prop :=
  ∃ sign digits, s = sign ++ digits ∧ (sign = [] ∨ sign = ['+']) ∧ digits ≠ [] ∧
    (∀ c ∈ digits, c.isDigit = true) ∧ Nat.ofDigitChars 10 digits 0 = n ∧ n < 2 ^ 64

/-- The text is another one with blanks around it. -/
def IsPadded (raw s : List Char) : Prop :=
  ∃ lead trail, raw = lead ++ s ++ trail ∧
    (∀ c ∈ lead, Text.isBlank c = true) ∧ ∀ c ∈ trail, Text.isBlank c = true

/-- The text is a 64 bit number with blanks around it. -/
def Denotes (raw : String) (n : Nat) : Prop :=
  ∃ s, IsPadded raw.toList s ∧ IsUnsigned64 s n

/-! ## Digits -/

theorem digit?_eq (c : Char) :
    digit? c = if c.isDigit then some (c.toNat - '0'.toNat) else none := by
  have hdigit : ('0' ≤ c ∧ c ≤ '9') ↔ c.isDigit = true := by
    simp [Char.isDigit, Char.le_def]
  simp only [digit?, hdigit]

theorem decimalFrom?_eq (value : Nat) (s : List Char) :
    decimalFrom? value s =
      if s.all Char.isDigit then some (Nat.ofDigitChars 10 s value) else none := by
  induction s generalizing value with
  | nil => rfl
  | cons c rest ih =>
      rw [decimalFrom?, digit?_eq, List.all_cons, Nat.ofDigitChars_cons]
      cases hc : c.isDigit with
      | true => simpa using ih (10 * value + (c.toNat - '0'.toNat))
      | false => rfl

theorem decimal?_eq_some_iff {s : List Char} {n : Nat} :
    decimal? s = some n ↔
      s ≠ [] ∧ (∀ c ∈ s, c.isDigit = true) ∧ Nat.ofDigitChars 10 s 0 = n := by
  cases s with
  | nil => simp [decimal?]
  | cons c rest =>
      rw [decimal?, decimalFrom?_eq]
      · simp [List.all_eq_true]
      · exact List.cons_ne_nil c rest

theorem exists_sign (s : List Char) :
    ∃ sign, s = sign ++ dropPlus s ∧ (sign = [] ∨ sign = ['+']) := by
  fun_cases dropPlus s with
  | case1 rest => exact ⟨['+'], rfl, .inr rfl⟩
  | case2 => exact ⟨[], rfl, .inl rfl⟩

theorem dropPlus_of_isDigit {digits : List Char} (h : ∀ c ∈ digits, c.isDigit = true) :
    dropPlus digits = digits := by
  fun_cases dropPlus digits with
  | case1 rest => cases h '+' List.mem_cons_self
  | case2 => rfl

/-- A number is read exactly if it is written as one. -/
theorem unsigned64?_eq_some_iff {s : List Char} {n : Nat} :
    unsigned64? s = some n ↔ IsUnsigned64 s n := by
  have hread : unsigned64? s = some n ↔ decimal? (dropPlus s) = some n ∧ n < 2 ^ 64 := by
    rw [unsigned64?]
    rcases decimal? (dropPlus s) with _ | m
    · simp
    · change (if m < 2 ^ 64 then some m else none) = some n ↔ _
      rw [Option.ite_none_right_eq_some, Option.some.injEq]
      constructor
      · rintro ⟨hm, rfl⟩
        exact ⟨rfl, hm⟩
      · rintro ⟨rfl, hm⟩
        exact ⟨hm, rfl⟩
  rw [hread, decimal?_eq_some_iff]
  constructor
  · rintro ⟨⟨hsome, hdigits, hvalue⟩, hroom⟩
    obtain ⟨sign, hs, hsign⟩ := exists_sign s
    exact ⟨sign, dropPlus s, hs, hsign, hsome, hdigits, hvalue, hroom⟩
  · rintro ⟨sign, digits, rfl, hsign, hsome, hdigits, hvalue, hroom⟩
    have hdrop : dropPlus (sign ++ digits) = digits := by
      rcases hsign with rfl | rfl
      · exact dropPlus_of_isDigit hdigits
      · rfl
    rw [hdrop]
    exact ⟨⟨hsome, hdigits, hvalue⟩, hroom⟩

/-! ## Blanks -/

namespace Text

theorem isPadded_trim (raw : List Char) : IsPadded raw (trim raw) := by
  let rest := trimStart raw
  refine ⟨raw.takeWhile isBlank, (rest.reverse.takeWhile isBlank).reverse, ?_,
    fun c hc => List.mem_takeWhile_imp hc,
    fun c hc => List.mem_takeWhile_imp (List.mem_reverse.mp hc)⟩
  have hend : trim raw ++ (rest.reverse.takeWhile isBlank).reverse = rest := by
    rw [trim, trimStart, ← List.reverse_append, List.takeWhile_append_dropWhile,
      List.reverse_reverse]
  rw [List.append_assoc, hend]
  exact List.takeWhile_append_dropWhile.symm

theorem trimStart_append
    {lead s : List Char} (hlead : ∀ c ∈ lead, isBlank c = true)
    (hs : ∀ c ∈ s.head?, isBlank c = false) : trimStart (lead ++ s) = s := by
  rw [trimStart, List.dropWhile_append_of_pos hlead]
  cases s with
  | nil => rfl
  | cons c rest => exact List.dropWhile_cons_of_neg (by simp [hs c rfl])

theorem trim_of_isPadded
    {raw s : List Char} (h : IsPadded raw s) (hsome : s ≠ [])
    (hs : ∀ c ∈ s, isBlank c = false) : trim raw = s := by
  obtain ⟨lead, trail, rfl, hlead, htrail⟩ := h
  have hfirst : trimStart (lead ++ s ++ trail) = s ++ trail := by
    rw [List.append_assoc]
    obtain ⟨first, rest, rfl⟩ := List.exists_cons_of_ne_nil hsome
    refine trimStart_append hlead fun c hc => hs c ?_
    exact List.mem_of_mem_head? hc
  have hlast : trimStart (s ++ trail).reverse = s.reverse := by
    rw [List.reverse_append]
    refine trimStart_append (fun c hc => htrail c (List.mem_reverse.mp hc)) fun c hc => ?_
    exact hs c (List.mem_reverse.mp (List.mem_of_mem_head? hc))
  rw [trim, hfirst, hlast, List.reverse_reverse]

end Text

theorem IsUnsigned64.ne_nil {s : List Char} {n : Nat} (h : IsUnsigned64 s n) : s ≠ [] := by
  obtain ⟨sign, digits, rfl, -, hsome, -⟩ := h
  exact List.append_ne_nil_of_right_ne_nil sign hsome

theorem IsUnsigned64.isBlank_eq_false
    {s : List Char} {n : Nat} (h : IsUnsigned64 s n) {c : Char} (hc : c ∈ s) :
    Text.isBlank c = false := by
  obtain ⟨sign, digits, rfl, hsign, -, hdigits, -⟩ := h
  rcases List.mem_append.mp hc with hc | hc
  · rcases hsign with rfl | rfl
    · cases hc
    · rw [List.mem_singleton.mp hc]
      decide
  · exact Text.isBlank_of_isDigit (hdigits c hc)

theorem unsigned64?_trim_eq_some_iff {raw : String} {n : Nat} :
    unsigned64? (Text.trim raw.toList) = some n ↔ Denotes raw n := by
  constructor
  · intro h
    exact ⟨_, Text.isPadded_trim raw.toList, unsigned64?_eq_some_iff.mp h⟩
  · rintro ⟨s, hpadded, hs⟩
    rw [Text.trim_of_isPadded hpadded hs.ne_nil fun c hc => hs.isBlank_eq_false hc]
    exact unsigned64?_eq_some_iff.mpr hs

theorem Denotes.unique {raw : String} {n m : Nat} (hn : Denotes raw n) (hm : Denotes raw m) :
    n = m := by
  rw [← unsigned64?_trim_eq_some_iff] at hn hm
  exact Option.some.inj (hn.symm.trans hm)

end ContainerBoard
