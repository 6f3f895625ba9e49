import ContainerBoard.Number.Binary
import Mathlib.Algebra.Order.Field.Power
import Mathlib.Data.Rat.Cast.Order
import Mathlib.Tactic.FieldSimp
import Mathlib.Tactic.Linarith
import Mathlib.Tactic.NormNum
import Mathlib.Tactic.Positivity
import Mathlib.Tactic.Ring

/-!
# Rounding to 53 bits

A quotient between one and the greatest numbers of the format is rounded to the nearest
number with a mantissa of 53 bits.  So the rounded number differs from the quotient by at
most `2 ^ -53` of it, and rounding does not fall below a natural number that a mantissa can
hold.
-/

namespace ContainerBoard

theorem two_mul_roundDiv_mul (num : Nat) {den : Nat} (hden : 0 < den) :
    2 * (roundDiv num den * den) ≤ 2 * num + den ∧
      2 * num ≤ 2 * (roundDiv num den * den) + den := by
  have hsum : num / den * den + num % den = num := Nat.div_add_mod' num den
  have hrest : num % den < den := Nat.mod_lt num hden
  have hnext : (num / den + 1) * den = num / den * den + den := Nat.succ_mul _ _
  simp only [roundDiv]
  repeat' split
  all_goals omega

/-- A quotient is rounded to a natural number by at most one half. -/
theorem abs_roundDiv_sub_le (num : Nat) {den : Nat} (hden : 0 < den) :
    |(roundDiv num den : ℚ) - num / den| ≤ 1 / 2 := by
  obtain ⟨hupper, hlower⟩ := two_mul_roundDiv_mul num hden
  have hpos : (0 : ℚ) < den := Nat.cast_pos.mpr hden
  have hquotient : (num : ℚ) / den * den = num := div_mul_cancel₀ _ hpos.ne'
  have hupper' : (2 * (roundDiv num den * den) : ℚ) ≤ 2 * num + den := by exact_mod_cast hupper
  have hlower' : (2 * num : ℚ) ≤ 2 * (roundDiv num den * den) + den := by exact_mod_cast hlower
  rw [abs_le]
  constructor
  · have h : 2 * ((num : ℚ) / den) ≤ 2 * roundDiv num den + 1 :=
      le_of_mul_le_mul_right (by linarith) hpos
    linarith
  · have h : 2 * (roundDiv num den : ℚ) ≤ 2 * ((num : ℚ) / den) + 1 :=
      le_of_mul_le_mul_right (by linarith) hpos
    linarith

theorem two_zpow_eq (e : ℤ) : (2 : ℚ) ^ e = 2 ^ e.toNat / 2 ^ (-e).toNat := by
  rw [← zpow_natCast, ← zpow_natCast, ← zpow_sub₀ two_ne_zero, Int.toNat_sub_toNat_neg]

theorem zpow_log2_le {n : Nat} (hn : 0 < n) : (2 : ℚ) ^ (n.log2 : ℤ) ≤ n := by
  rw [zpow_natCast]
  exact_mod_cast Nat.log2_self_le hn.ne'

theorem lt_zpow_log2 (n : Nat) : (n : ℚ) < 2 ^ ((n.log2 : ℤ) + 1) := by
  have h : n < 2 ^ (n.log2 + 1) := Nat.lt_log2_self
  exact_mod_cast h

namespace Binary

/-- The number as a fraction. -/
def value (x : Binary) : ℚ :=
  x.mantissa * 2 ^ x.exponent

theorem den_pos (x : Binary) : 0 < x.den :=
  Nat.pow_pos Nat.two_pos

theorem num_div_den (x : Binary) : (x.num : ℚ) / x.den = x.value := by
  rw [value, two_zpow_eq, ← mul_div_assoc, num, den]
  push_cast [Nat.pow_eq]
  rfl

theorem atLeast_iff {n : Nat} {x : Binary} : x.atLeast n = true ↔ (n : ℚ) ≤ x.value := by
  have hden : (0 : ℚ) < x.den := Nat.cast_pos.mpr x.den_pos
  rw [atLeast, decide_eq_true_eq, ← num_div_den, le_div_iff₀ hden]
  exact_mod_cast Iff.rfl

/-! ## The exponent of a quotient -/

/-- In units of `2 ^ e`, the whole part of the quotient has 53 bits. -/
def HasExponent (q : ℚ) (e : ℤ) : Prop :=
  2 ^ (e + 52) ≤ q ∧ q < 2 ^ (e + 53)

theorem inUnits_pos {num den : Nat} (hden : 0 < den) (e : ℤ) : 0 < (inUnits num den e).2 :=
  Nat.mul_pos hden (Nat.pow_pos Nat.two_pos)

theorem inUnits_ratio (num den : Nat) (e : ℤ) :
    ((inUnits num den e).1 : ℚ) / (inUnits num den e).2 = num / den / 2 ^ e := by
  rw [two_zpow_eq, div_div_div_eq, inUnits]
  push_cast [Nat.pow_eq]
  rfl

/-- The exponent at which a quotient has 53 or 54 bits, by the bits of its two parts. -/
def lowExponent (num den : Nat) : ℤ :=
  (num.log2 : ℤ) - (den.log2 : ℤ) - 53

theorem exponentOf_eq (num den : Nat) :
    let scaled := inUnits num den (lowExponent num den)
    exponentOf num den =
      max (if scaled.1 / scaled.2 < 2 * leastFull then lowExponent num den
        else lowExponent num den + 1) leastExponent :=
  rfl

theorem lowExponent_bounds {num den : Nat} (hnum : 0 < num) (hden : 0 < den) :
    (2 : ℚ) ^ (lowExponent num den + 52) ≤ num / den ∧
      (num : ℚ) / den < 2 ^ (lowExponent num den + 54) := by
  have hden_pos : (0 : ℚ) < den := Nat.cast_pos.mpr hden
  constructor
  · calc
      (2 : ℚ) ^ (lowExponent num den + 52) =
          2 ^ (num.log2 : ℤ) / 2 ^ ((den.log2 : ℤ) + 1) := by
        rw [← zpow_sub₀ two_ne_zero, lowExponent]
        congr 1
        omega
      _ ≤ num / den :=
        div_le_div₀ (Nat.cast_nonneg num) (zpow_log2_le hnum) hden_pos (lt_zpow_log2 den).le
  · calc
      (num : ℚ) / den < 2 ^ ((num.log2 : ℤ) + 1) / 2 ^ (den.log2 : ℤ) :=
        div_lt_div₀ (lt_zpow_log2 num) (zpow_log2_le hden) (by positivity) (by positivity)
      _ = 2 ^ (lowExponent num den + 54) := by
        rw [← zpow_sub₀ two_ne_zero, lowExponent]
        congr 1
        omega

theorem scaled_div_lt_iff (num : Nat) {den : Nat} (hden : 0 < den) (e : ℤ) :
    (inUnits num den e).1 / (inUnits num den e).2 < 2 * leastFull ↔
      (num : ℚ) / den < 2 ^ (e + 53) := by
  have hscaled : (0 : ℚ) < (inUnits num den e).2 := Nat.cast_pos.mpr (inUnits_pos hden e)
  have hunit : (0 : ℚ) < 2 ^ e := by positivity
  have hfull : ((2 * leastFull : ℕ) : ℚ) * 2 ^ e = 2 ^ (e + 53) := by
    rw [zpow_add₀ two_ne_zero, mul_comm]
    norm_num [leastFull]
  rw [Nat.div_lt_iff_lt_mul (inUnits_pos hden e), ← hfull, ← div_lt_iff₀ hunit, ← inUnits_ratio,
    div_lt_iff₀ hscaled]
  exact_mod_cast Iff.rfl

theorem num_pos_of_one_le {num den : Nat} (hden : 0 < den) (hone : (1 : ℚ) ≤ num / den) :
    0 < num := by
  rw [one_le_div (Nat.cast_pos.mpr hden)] at hone
  exact Nat.lt_of_lt_of_le hden (Nat.cast_le.mp hone)

/-- A quotient of at least one has 53 bits in units of its exponent. -/
theorem hasExponent_exponentOf
    {num den : Nat} (hden : 0 < den) (hone : (1 : ℚ) ≤ num / den) :
    HasExponent (num / den) (exponentOf num den) := by
  obtain ⟨hlow, hhigh⟩ := lowExponent_bounds (num_pos_of_one_le hden hone) hden
  let e := if (num : ℚ) / den < 2 ^ (lowExponent num den + 53) then lowExponent num den
    else lowExponent num den + 1
  have he : HasExponent (num / den) e := by
    by_cases hless : (num : ℚ) / den < 2 ^ (lowExponent num den + 53)
    · simp only [e, if_pos hless]
      exact ⟨hlow, hless⟩
    · simp only [e, if_neg hless]
      refine ⟨?_, ?_⟩
      · rw [add_assoc]
        exact not_lt.mp hless
      · rw [add_assoc]
        exact hhigh
  -- the least exponent of the format is far below
  have hpos : (2 : ℚ) ^ (0 : ℤ) < 2 ^ (e + 53) := by
    rw [zpow_zero]
    exact hone.trans_lt he.2
  have hexp : 0 < e + 53 := (zpow_lt_zpow_iff_right₀ one_lt_two).mp hpos
  have heq : exponentOf num den = e := by
    simp only [exponentOf_eq, scaled_div_lt_iff num hden]
    exact max_eq_left (by rw [leastExponent]; omega)
  rwa [heq]

/-! ## Rounded quotients -/

/-- The number is a quotient rounded to 53 bits: in units of the exponent of the quotient, it
is a whole number at most one half away. -/
def IsRounded (x : Binary) (q : ℚ) : Prop :=
  ∃ (e : ℤ) (m : ℕ), HasExponent q e ∧ x.value = m * 2 ^ e ∧ |(m : ℚ) - q / 2 ^ e| ≤ 1 / 2

/-- The number in units of `2 ^ e`, with a mantissa of 53 bits again if it has grown to 54. -/
def normalized (m : ℕ) (e : ℤ) : Binary :=
  if m = 2 * leastFull then ⟨leastFull, e + 1⟩ else ⟨m, e⟩

theorem value_normalized (m : ℕ) (e : ℤ) : (normalized m e).value = m * 2 ^ e := by
  by_cases hfull : m = 2 * leastFull
  · rw [normalized, if_pos hfull, hfull, value, zpow_add_one₀ two_ne_zero]
    push_cast
    ring
  · rw [normalized, if_neg hfull]
    rfl

theorem exponent_normalized_le (m : ℕ) (e : ℤ) : (normalized m e).exponent ≤ e + 1 := by
  by_cases hfull : m = 2 * leastFull
  · rw [normalized, if_pos hfull]
  · rw [normalized, if_neg hfull]
    exact (lt_add_one e).le

theorem ofRatio_eq {num den : Nat} (hnum : 0 < num) :
    let e := exponentOf num den
    let rounded := normalized (roundDiv (inUnits num den e).1 (inUnits num den e).2) e
    ofRatio num den = if greatestExponent < rounded.exponent then none else some rounded :=
  if_neg hnum.ne'

/-- A quotient that is neither below one nor too great has a rounded number. -/
theorem exists_isRounded_ofRatio
    {num den : Nat} (hden : 0 < den) (hone : (1 : ℚ) ≤ num / den)
    (hlt : (num : ℚ) / den < 2 ^ (1023 : ℤ)) :
    ∃ x, ofRatio num den = some x ∧ IsRounded x (num / den) := by
  let e := exponentOf num den
  let m := roundDiv (inUnits num den e).1 (inUnits num den e).2
  have hexp : HasExponent (num / den) e := hasExponent_exponentOf hden hone
  have he : e + 52 < 1023 :=
    (zpow_lt_zpow_iff_right₀ (one_lt_two : (1 : ℚ) < 2)).mp (hexp.1.trans_lt hlt)
  have hfits : ¬ greatestExponent < (normalized m e).exponent := by
    have hle := exponent_normalized_le m e
    rw [greatestExponent]
    omega
  have hnear : |(m : ℚ) - num / den / 2 ^ e| ≤ 1 / 2 := by
    rw [← inUnits_ratio]
    exact abs_roundDiv_sub_le _ (inUnits_pos hden e)
  refine ⟨normalized m e, ?_, e, m, hexp, value_normalized m e, hnear⟩
  exact (ofRatio_eq (num_pos_of_one_le hden hone)).trans (if_neg hfits)

theorem isRounded_ofNat {n : Nat} (hn : 0 < n) (hlt : (n : ℚ) < 2 ^ (1023 : ℤ)) :
    IsRounded (ofNat n) n := by
  have hratio : (n : ℚ) / (1 : ℕ) = n := by rw [Nat.cast_one, div_one]
  have hone : (1 : ℚ) ≤ n := Nat.one_le_cast.mpr hn
  rw [← hratio] at hone hlt
  obtain ⟨x, hx, hrounded⟩ := exists_isRounded_ofRatio Nat.one_pos hone hlt
  rw [hratio] at hrounded
  rwa [ofNat, hx, Option.getD_some]

theorem num_pos {x : Binary} (h : 0 < x.value) : 0 < x.num := by
  refine Nat.pos_of_ne_zero fun hzero => ?_
  rw [← num_div_den, hzero, Nat.cast_zero, zero_div] at h
  exact lt_irrefl 0 h

/-- The quotient of two numbers as one of natural numbers. -/
theorem ratio_div (x y : Binary) :
    ((x.num * y.den : ℕ) : ℚ) / (x.den * y.num : ℕ) = x.value / y.value := by
  rw [← num_div_den, ← num_div_den, div_div_div_eq]
  push_cast
  rfl

theorem isRounded_div
    {x y : Binary} (hy : 0 < y.value) (hone : 1 ≤ x.value / y.value)
    (hlt : x.value / y.value < 2 ^ (1023 : ℤ)) : IsRounded (x.div y) (x.value / y.value) := by
  have hden : 0 < x.den * y.num := Nat.mul_pos x.den_pos (num_pos hy)
  rw [← ratio_div] at hone hlt ⊢
  obtain ⟨z, hz, hrounded⟩ := exists_isRounded_ofRatio hden hone hlt
  rwa [div, hz, Option.getD_some]

namespace IsRounded

variable {x : Binary} {q : ℚ}

/-- Rounding changes a quotient by at most `2 ^ -53` of it. -/
theorem abs_value_sub_le (h : IsRounded x q) : |x.value - q| ≤ q / 2 ^ 53 := by
  obtain ⟨e, m, ⟨hlow, -⟩, hvalue, hnear⟩ := h
  have hunit : (0 : ℚ) < 2 ^ e := by positivity
  have hbits : (2 : ℚ) ^ e * 2 ^ 52 ≤ q := by
    rwa [zpow_add₀ two_ne_zero] at hlow
  calc
    |x.value - q| = |((m : ℚ) - q / 2 ^ e) * 2 ^ e| := by
      rw [hvalue, sub_mul, div_mul_cancel₀ _ hunit.ne']
    _ = |(m : ℚ) - q / 2 ^ e| * 2 ^ e := by rw [abs_mul, abs_of_pos hunit]
    _ ≤ 1 / 2 * 2 ^ e := mul_le_mul_of_nonneg_right hnear hunit.le
    _ ≤ q / 2 ^ 53 := by linarith

/-- Rounding does not fall below a natural number that a mantissa can hold. -/
theorem natCast_le (h : IsRounded x q) {n : Nat} (hn : n ≤ 2 ^ 53) (hq : (n : ℚ) ≤ q) :
    (n : ℚ) ≤ x.value := by
  obtain ⟨e, m, ⟨hlow, -⟩, hvalue, hnear⟩ := h
  have hunit : (0 : ℚ) < 2 ^ e := by positivity
  have hbelow : q / 2 ^ e < m + 1 := by
    have := (abs_le.mp hnear).1
    linarith
  rw [hvalue]
  rcases le_or_gt e 0 with he | he
  · -- the number is a whole number of units
    obtain ⟨k, rfl⟩ : ∃ k : ℕ, e = -k := ⟨(-e).toNat, by omega⟩
    rw [zpow_neg, zpow_natCast, div_inv_eq_mul] at hbelow
    have hlt : ((n * 2 ^ k : ℕ) : ℚ) < (m + 1 : ℕ) := by
      push_cast
      exact (mul_le_mul_of_nonneg_right hq (by positivity)).trans_lt hbelow
    have hle : n * 2 ^ k ≤ m := Nat.le_of_lt_succ (Nat.cast_lt.mp hlt)
    rw [zpow_neg, zpow_natCast, ← div_eq_mul_inv, le_div_iff₀ (by positivity)]
    exact_mod_cast hle
  · -- the number is below all that have this exponent
    rw [zpow_add₀ two_ne_zero, mul_comm, ← le_div_iff₀ hunit] at hlow
    have hlt : ((2 ^ 52 : ℕ) : ℚ) < (m + 1 : ℕ) := by
      push_cast
      exact hlow.trans_lt hbelow
    have hfull : 2 ^ 52 ≤ m := Nat.le_of_lt_succ (Nat.cast_lt.mp hlt)
    have htwo : (2 : ℚ) ^ (1 : ℤ) ≤ 2 ^ e := zpow_le_zpow_right₀ one_le_two he
    calc
      (n : ℚ) ≤ 2 ^ 52 * 2 ^ (1 : ℤ) := by exact_mod_cast hn
      _ ≤ m * 2 ^ e := by
        refine mul_le_mul ?_ htwo (by positivity) (Nat.cast_nonneg m)
        exact_mod_cast hfull

end IsRounded

end Binary

end ContainerBoard
