import ContainerBoard.Time.Reader
import Mathlib.Algebra.Group.Nat.Defs

/-!
# Reading padded numbers

The parts of a time are numbers with zeros in front.  Such a number consists of digits
and has its width, unless it is too great for it.  It is read back wherever the digits
end with it.
-/

namespace ContainerBoard

namespace Text

variable {width number : Nat} {c : Char}

theorem toList_zeroPadded (width number : Nat) :
    (zeroPadded width number).toList =
      List.replicate (width - number.repr.length) '0' ++ Nat.toDigits 10 number := by
  simp [zeroPadded]

theorem isDigit_of_mem_zeroPadded (h : c ∈ (zeroPadded width number).toList) :
    c.isDigit = true := by
  rw [toList_zeroPadded, List.mem_append] at h
  rcases h with hzero | hdigit
  · rw [List.eq_of_mem_replicate hzero]
    rfl
  · exact Nat.isDigit_of_mem_toDigits (by decide) (by decide) hdigit

theorem zeroPadded_ne_nil (width number : Nat) : (zeroPadded width number).toList ≠ [] := by
  simp [toList_zeroPadded]

/-- A padded number begins with a digit. -/
theorem exists_zeroPadded_eq_cons (width number : Nat) :
    ∃ c digits, (zeroPadded width number).toList = c :: digits ∧ c.isDigit = true := by
  obtain ⟨c, digits, hcons⟩ := List.exists_cons_of_ne_nil (zeroPadded_ne_nil width number)
  refine ⟨c, digits, hcons, ?_⟩
  apply isDigit_of_mem_zeroPadded
  rw [hcons]
  exact List.mem_cons_self

theorem length_zeroPadded (hwidth : 0 < width) (hnumber : number < 10 ^ width) :
    (zeroPadded width number).toList.length = width := by
  have hdigits : (Nat.toDigits 10 number).length ≤ width :=
    (Nat.length_toDigits_le_iff (by decide) hwidth).mpr hnumber
  have hrepr : number.repr.length = (Nat.toDigits 10 number).length := by
    simp [Nat.repr_eq_ofList_toDigits]
  rw [toList_zeroPadded, List.length_append, List.length_replicate, hrepr]
  omega

theorem isBlank_of_isDigit (h : c.isDigit = true) : isBlank c = false := by
  have hbounds : 48 ≤ c.toNat ∧ c.toNat ≤ 57 := by
    simpa [Char.isDigit, UInt32.le_iff_toNat_le] using h
  simp only [isBlank, Ranges.has, blankRanges, List.any_cons, List.any_nil, Bool.or_false,
    Bool.or_eq_false_iff, Bool.and_eq_false_imp, decide_eq_true_eq, decide_eq_false_iff_not]
  omega

/-- No digit comes next. -/
def NoDigit (rest : List Char) : Prop :=
  ∀ c ∈ rest.head?, c.isDigit = false

theorem NoDigit.takeWhile_take {rest : List Char} (h : NoDigit rest) (count : Nat) :
    (rest.take count).takeWhile Char.isDigit = [] := by
  cases rest with
  | nil => simp
  | cons c rest =>
      have hc : c.isDigit = false := h c rfl
      cases count with
      | zero => rfl
      | succ count => simp [hc]

theorem NoDigit.dropWhile {rest : List Char} (h : NoDigit rest) :
    rest.dropWhile Char.isDigit = rest := by
  cases rest with
  | nil => rfl
  | cons c rest => exact List.dropWhile_cons_of_neg (by simp [h c rfl])

end Text

namespace Timestamp

open Text

theorem digitsValue_zeroPadded (width number : Nat) :
    digitsValue (zeroPadded width number).toList = number := by
  change Nat.ofDigitChars 10 (zeroPadded width number).toList 0 = number
  rw [toList_zeroPadded, Nat.ofDigitChars_append, Nat.ofDigitChars_replicate_zero,
    Nat.mul_zero, Nat.ofDigitChars_ten_toDigits]

/-- Digits are read as far as they go, or as far as they may go. -/
theorem readDigits_append
    {most : Nat} {digits : List Char} (hdigits : ∀ c ∈ digits, c.isDigit = true)
    (hsome : digits ≠ []) (hmost : digits.length ≤ most) {rest : List Char}
    (hstop : (rest.take (most - digits.length)).takeWhile Char.isDigit = [])
    (hvalue : 2 * digitsValue digits < UInt64.size) :
    readDigits most (digits ++ rest) = .ok (digitsValue digits, rest) := by
  have htaken : ((digits ++ rest).take most).takeWhile Char.isDigit = digits := by
    rw [List.take_append, List.take_of_length_le hmost, List.takeWhile_append_of_pos hdigits,
      hstop, List.append_nil]
  unfold readDigits
  rw [htaken]
  cases digits with
  | nil => exact absurd rfl hsome
  | cons c digits =>
      change (if _ then _ else _) = _
      rw [if_pos hvalue, List.drop_left]

/-- A padded number is read back where its digits end, or where no more than them may be
read. -/
theorem readDigits_zeroPadded
    {most width number : Nat} {rest : List Char}
    (hmost : (zeroPadded width number).toList.length ≤ most)
    (hstop : NoDigit rest ∨ (zeroPadded width number).toList.length = most)
    (hvalue : 2 * number < UInt64.size) :
    readDigits most ((zeroPadded width number).toList ++ rest) = .ok (number, rest) := by
  have hdigits : ∀ c ∈ (zeroPadded width number).toList, c.isDigit = true :=
    fun _ => isDigit_of_mem_zeroPadded
  have hend : (rest.take (most - (zeroPadded width number).toList.length)).takeWhile
      Char.isDigit = [] := by
    rcases hstop with hrest | hall
    · exact hrest.takeWhile_take _
    · rw [hall, Nat.sub_self]
      rfl
  have hnumber := digitsValue_zeroPadded width number
  have hread := readDigits_append hdigits (zeroPadded_ne_nil width number) hmost hend
    (hnumber.symm ▸ hvalue)
  rwa [hnumber] at hread

end Timestamp

end ContainerBoard
