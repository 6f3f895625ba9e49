import ContainerBoard.ByteCount
import ContainerBoard.Proofs.Number.Binary
import Mathlib.Tactic.IntervalCases

/-!
# Units of byte counts

A byte count is divided by a thousand, with rounding, until it is below a thousand or has the
largest unit, and only then it is rounded to one place.  The divisions never choose another
unit than exact ones would.  But the last rounding comes after the choice: a count of at
least 999.95 of its unit is written as a thousand of it instead of one of the next.
-/

namespace ContainerBoard

namespace Binary

/-- The tenths of the number that are written. -/
def tenths (x : Binary) : Nat :=
  roundDiv (10 * x.num) x.den

theorem oneDecimal_eq (x : Binary) :
    x.oneDecimal = (x.tenths / 10).repr ++ "." ++ (x.tenths % 10).repr :=
  rfl

theorem abs_tenths_sub_le (x : Binary) : |(x.tenths : ℚ) - 10 * x.value| ≤ 1 / 2 := by
  have h := abs_roundDiv_sub_le (10 * x.num) x.den_pos
  rwa [Nat.cast_mul, mul_div_assoc, num_div_den] at h

theorem le_tenths {x : Binary} {n : Nat} (h : (n : ℚ) < 10 * x.value + 1 / 2) :
    n ≤ x.tenths := by
  have hnear := (abs_le.mp x.abs_tenths_sub_le).1
  have hlt : (n : ℚ) < (x.tenths + 1 : ℕ) := by
    push_cast
    linarith
  exact Nat.le_of_lt_succ (Nat.cast_lt.mp hlt)

theorem tenths_le {x : Binary} {n : Nat} (h : 10 * x.value < n + 1 / 2) : x.tenths ≤ n := by
  have hnear := (abs_le.mp x.abs_tenths_sub_le).2
  have hlt : (x.tenths : ℚ) < (n + 1 : ℕ) := by
    push_cast
    linarith
  exact Nat.le_of_lt_succ (Nat.cast_lt.mp hlt)

theorem value_ofNat_thousand : (ofNat 1000).value = 1000 := by
  have h : ofNat 1000 = ⟨1000 * 2 ^ 43, -43⟩ := by decide +kernel
  rw [h, value]
  norm_num

/-- No number of the format is 999.95, and rounding goes up from there. -/
theorem IsRounded.lt_value {x : Binary} {q : ℚ} (h : IsRounded x q) (hq : 19999 / 20 ≤ q) :
    19999 / 20 < x.value := by
  rcases le_or_gt 1000 q with hle | hlt
  · have hthousand : ((1000 : ℕ) : ℚ) ≤ x.value :=
      h.natCast_le (by norm_num) (by exact_mod_cast hle)
    push_cast at hthousand
    linarith
  · obtain ⟨e, m, ⟨hlow, hhigh⟩, hvalue, hnear⟩ := h
    have hbelow : (2 : ℚ) ^ (e + 52) < 2 ^ (10 : ℤ) := by
      calc
        (2 : ℚ) ^ (e + 52) ≤ q := hlow
        _ < 1000 := hlt
        _ ≤ 2 ^ (10 : ℤ) := by norm_num
    have habove : (2 : ℚ) ^ (9 : ℤ) < 2 ^ (e + 53) := by
      calc
        (2 : ℚ) ^ (9 : ℤ) ≤ 19999 / 20 := by norm_num
        _ ≤ q := hq
        _ < 2 ^ (e + 53) := hhigh
    have hlt10 : e + 52 < 10 := (zpow_lt_zpow_iff_right₀ one_lt_two).mp hbelow
    have hgt9 : 9 < e + 53 := (zpow_lt_zpow_iff_right₀ one_lt_two).mp habove
    obtain rfl : e = -43 := by omega
    have hclose : ((8795653217556890 : ℕ) : ℚ) < (m + 1 : ℕ) := by
      have := (abs_le.mp hnear).1
      norm_num at this ⊢
      linarith
    have hm : (8795653217556890 : ℚ) ≤ m := by
      exact_mod_cast Nat.le_of_lt_succ (Nat.cast_lt.mp hclose)
    rw [hvalue]
    calc
      (19999 / 20 : ℚ) < 8795653217556890 * 2 ^ (-43 : ℤ) := by norm_num
      _ ≤ m * 2 ^ (-43 : ℤ) := mul_le_mul_of_nonneg_right hm (by positivity)

end Binary

namespace ByteCount

/-- The number is the byte count after `k` divisions by a thousand. -/
structure Approximates (x : Binary) (bytes k : Nat) : Prop where
  natCast_le : ∀ n, n * 1000 ^ k ≤ bytes → n * 1000 ^ k ≤ 2 ^ 53 → (n : ℚ) ≤ x.value
  value_le : x.value ≤ bytes / 1000 ^ k * (1 + 1 / 2 ^ 53) ^ (k + 1)
  value_lt : x.value < 2 ^ 65
  lt_value : 0 < k → 19999 * 1000 ^ k ≤ 20 * bytes → 19999 * 1000 ^ k ≤ 20 * 2 ^ 53 →
    19999 / 20 < x.value

theorem approximates_ofNat {bytes : Nat} (hpos : 0 < bytes) (hlt : bytes < 2 ^ 64) :
    Approximates (.ofNat bytes) bytes 0 := by
  have hlt' : (bytes : ℚ) < 2 ^ (64 : ℤ) := by exact_mod_cast hlt
  have hrounded : (Binary.ofNat bytes).IsRounded bytes :=
    Binary.isRounded_ofNat hpos (hlt'.trans (zpow_lt_zpow_right₀ one_lt_two (by norm_num)))
  have hnear := (abs_le.mp hrounded.abs_value_sub_le).2
  refine ⟨?_, ?_, ?_, ?_⟩
  · intro n hn hbits
    rw [pow_zero, mul_one] at hn hbits
    exact hrounded.natCast_le hbits (Nat.cast_le.mpr hn)
  · rw [pow_zero, div_one, zero_add, pow_one]
    linarith
  · linarith
  · intro hzero
    exact absurd hzero (Nat.lt_irrefl 0)

namespace Approximates

variable {x : Binary} {bytes k : Nat}

/-- The next division. -/
theorem div (h : Approximates x bytes k) (hle : 1000 ≤ x.value) :
    Approximates (x.div (.ofNat 1000)) bytes (k + 1) := by
  have hone : 1 ≤ x.value / 1000 := by linarith
  have hless : x.value / 1000 < 2 ^ (65 : ℤ) := by
    have := h.value_lt
    norm_num at this ⊢
    linarith
  have hgreat : x.value / 1000 < 2 ^ (1023 : ℤ) :=
    hless.trans (zpow_lt_zpow_right₀ one_lt_two (by norm_num))
  have hpos : 0 < (Binary.ofNat 1000).value := by
    rw [Binary.value_ofNat_thousand]
    norm_num
  have hrounded : (x.div (.ofNat 1000)).IsRounded (x.value / 1000) := by
    rw [← Binary.value_ofNat_thousand] at hone hgreat ⊢
    exact Binary.isRounded_div hpos hone hgreat
  have hnear := (abs_le.mp hrounded.abs_value_sub_le).2
  refine ⟨?_, ?_, ?_, ?_⟩
  · intro n hn hbits
    have hassoc : 1000 * n * 1000 ^ k = n * 1000 ^ (k + 1) := by ring
    have hthousand : ((1000 * n : ℕ) : ℚ) ≤ x.value :=
      h.natCast_le (1000 * n) (hassoc ▸ hn) (hassoc ▸ hbits)
    refine hrounded.natCast_le ?_ ?_
    · exact (Nat.le_mul_of_pos_right n (by positivity)).trans hbits
    · push_cast at hthousand
      linarith
  · calc
      (x.div (.ofNat 1000)).value ≤ x.value * ((1 + 1 / 2 ^ 53) / 1000) := by linarith
      _ ≤ bytes / 1000 ^ k * (1 + 1 / 2 ^ 53) ^ (k + 1) * ((1 + 1 / 2 ^ 53) / 1000) :=
        mul_le_mul_of_nonneg_right h.value_le (by positivity)
      _ = bytes / 1000 ^ (k + 1) * (1 + 1 / 2 ^ 53) ^ (k + 1 + 1) := by
        field_simp
        ring
  · have := h.value_lt
    linarith
  · intro _ hbytes hbits
    refine hrounded.lt_value ?_
    have hscaled : 20 * (999950 * 1000 ^ k) = 19999 * 1000 ^ (k + 1) := by ring
    have hlarge : ((999950 : ℕ) : ℚ) ≤ x.value :=
      h.natCast_le 999950 (by omega) (by omega)
    push_cast at hlarge
    linarith

/-- Below a bound of at most a thousand units, the number is below the bound. -/
theorem value_lt_of_lt
    (h : Approximates x bytes k) (hk : k ≤ 3) {c : ℚ} (hc : c ≤ 1000)
    (hbytes : (bytes : ℚ) + 1 ≤ c * 1000 ^ k) : x.value < c := by
  have hpower : (0 : ℚ) < 1000 ^ k := by positivity
  -- rounding gains less than what is missing to the bound
  have hgain : (1 + 1 / 2 ^ 53 : ℚ) ^ (k + 1) ≤ 1 + 1 / 10 ^ 13 := by
    interval_cases k <;> norm_num
  have hmissing : (1 : ℚ) / 10 ^ 9 ≤ 1 / 1000 ^ k := by
    interval_cases k <;> norm_num
  have hexact : (bytes : ℚ) / 1000 ^ k ≤ c - 1 / 1000 ^ k := by
    rw [le_sub_iff_add_le, ← add_div, div_le_iff₀ hpower]
    exact hbytes
  calc
    x.value ≤ bytes / 1000 ^ k * (1 + 1 / 2 ^ 53) ^ (k + 1) := h.value_le
    _ ≤ bytes / 1000 ^ k * (1 + 1 / 10 ^ 13) :=
      mul_le_mul_of_nonneg_left hgain (by positivity)
    _ ≤ (c - 1 / 1000 ^ k) * (1 + 1 / 10 ^ 13) :=
      mul_le_mul_of_nonneg_right hexact (by positivity)
    _ < c := by linarith

/-- The rounded divisions choose the unit that exact ones would choose. -/
theorem thousand_le_value_iff (h : Approximates x bytes k) (hk : k ≤ 3) :
    1000 ≤ x.value ↔ 1000 ^ (k + 1) ≤ bytes := by
  rw [pow_succ']
  constructor
  · intro hle
    by_contra hless
    have hbytes : bytes + 1 ≤ 1000 * 1000 ^ k := not_le.mp hless
    exact absurd hle (not_le.mpr (h.value_lt_of_lt hk le_rfl (by exact_mod_cast hbytes)))
  · intro hbytes
    have hbits : 1000 * 1000 ^ k ≤ 2 ^ 53 := by
      interval_cases k <;> norm_num
    exact_mod_cast h.natCast_le 1000 hbytes hbits

/-- The written numeral is at least one, if the count fills the unit. -/
theorem ten_le_tenths (h : Approximates x bytes k) (hk : k ≤ 4) (hbytes : 1000 ^ k ≤ bytes) :
    10 ≤ x.tenths := by
  have hbits : 1 * 1000 ^ k ≤ 2 ^ 53 := by
    interval_cases k <;> norm_num
  have hone : ((1 : ℕ) : ℚ) ≤ x.value := h.natCast_le 1 (by rwa [one_mul]) hbits
  refine Binary.le_tenths ?_
  push_cast at hone ⊢
  linarith

/-- The written numeral is at most a thousand, if the count does not fill the next unit. -/
theorem tenths_le_of_lt
    (h : Approximates x bytes k) (hk : k ≤ 3) (hbytes : bytes < 1000 ^ (k + 1)) :
    x.tenths ≤ 10000 := by
  have hless : x.value < 1000 := by
    rw [← not_le, h.thousand_le_value_iff hk]
    exact not_le.mpr hbytes
  refine Binary.tenths_le ?_
  push_cast
  linarith

/-- The written numeral reaches a thousand from 999.95 units on. -/
theorem ten_thousand_le_tenths_iff (h : Approximates x bytes k) (hpos : 0 < k) (hk : k ≤ 3) :
    10000 ≤ x.tenths ↔ 19999 * 1000 ^ k ≤ 20 * bytes := by
  constructor
  · intro htenths
    by_contra hless
    -- both sides are multiples of twenty
    have hbytes : 20 * (bytes + 1) ≤ 19999 * 1000 ^ k := by
      interval_cases k <;> omega
    have hbytes' : (20 * (bytes + 1) : ℚ) ≤ 19999 * 1000 ^ k := by exact_mod_cast hbytes
    have hvalue : x.value < 19999 / 20 := h.value_lt_of_lt hk (by norm_num) (by linarith)
    have hle : x.tenths ≤ 9999 := by
      refine Binary.tenths_le ?_
      push_cast
      linarith
    omega
  · intro hbytes
    have hbits : 19999 * 1000 ^ k ≤ 20 * 2 ^ 53 := by
      interval_cases k <;> norm_num
    have hvalue := h.lt_value hpos hbytes hbits
    refine Binary.le_tenths ?_
    push_cast
    linarith

end Approximates

/-- The divisions go on as long as the count fills the next unit and there is one. -/
theorem exists_climb
    {bytes k : Nat} {x : Binary} (unit : String) (units : List String)
    (h : Approximates x bytes k) (hbytes : 1000 ^ k ≤ bytes) (hk : k + units.length ≤ 4) :
    ∃ (j : Nat) (y : Binary) (u : String),
      climb x unit units = (y, u) ∧ (unit :: units)[j]? = some u ∧
        Approximates y bytes (k + j) ∧ 1000 ^ (k + j) ≤ bytes ∧
        (j < units.length → bytes < 1000 ^ (k + j + 1)) := by
  induction units generalizing k x unit with
  | nil => exact ⟨0, x, unit, rfl, rfl, h, hbytes, fun hj => absurd hj (Nat.not_lt_zero 0)⟩
  | cons next more ih =>
      rw [List.length_cons] at hk
      have hunit := h.thousand_le_value_iff (by omega)
      have hat : x.atLeast 1000 = true ↔ 1000 ^ (k + 1) ≤ bytes := by
        rw [Binary.atLeast_iff, ← hunit, Nat.cast_ofNat]
      by_cases hfull : 1000 ^ (k + 1) ≤ bytes
      · obtain ⟨j, y, u, hclimb, hu, hy, hfills, hless⟩ :=
          ih next (h.div (hunit.mpr hfull)) hfull (by omega)
        have hsum : k + 1 + j = k + (j + 1) := by omega
        rw [hsum] at hy hfills hless
        refine ⟨j + 1, y, u, ?_, hu, hy, hfills, fun hj => hless (Nat.lt_of_succ_lt_succ hj)⟩
        rw [climb, if_pos (hat.mpr hfull), hclimb]
      · refine ⟨0, x, unit, ?_, rfl, h, hbytes, fun _ => not_le.mp hfull⟩
        rw [climb, if_neg (mt hat.mp hfull)]

/-- How a byte count is written.

* A count below a thousand is written exactly, in bytes.
* Any other count is written with one decimal place, in the largest unit that it fills.  The
  numeral is at least one.
* Below the largest unit the numeral is at most a thousand, and it is a thousand exactly if
  the count is at least 999.95 of the unit. -/
theorem numeral_reaches_thousand_iff {bytes : Nat} (hbytes : bytes < 2 ^ 64) :
    (bytes < 1000 → format bytes = bytes.repr ++ " B") ∧
      (1000 ≤ bytes → ∃ (k tenths : Nat) (unit : String),
        largerUnits[k]? = some unit ∧
          format bytes =
            (tenths / 10).repr ++ "." ++ (tenths % 10).repr ++ " " ++ unit ∧
          1000 ^ (k + 1) ≤ bytes ∧ 10 ≤ tenths ∧
          (unit ≠ "TB" →
            bytes < 1000 ^ (k + 2) ∧ tenths ≤ 10000 ∧
              (tenths = 10000 ↔ 19999 * 1000 ^ (k + 1) ≤ 20 * bytes))) := by
  constructor
  · intro hless
    exact if_pos hless
  · intro hmore
    have happroximates : Approximates (.ofNat bytes) bytes 0 :=
      approximates_ofNat (by omega) hbytes
    obtain ⟨j, x, unit, hclimb, hunit, hx, hfills, hnext⟩ :=
      exists_climb "B" largerUnits happroximates (by omega) (by decide)
    rw [Nat.zero_add] at hx hfills hnext
    have hj : j < 5 := (List.getElem?_eq_some_iff.mp hunit).1
    -- the count fills at least the first of the larger units
    obtain ⟨k, rfl⟩ : ∃ k, j = k + 1 := by
      refine Nat.exists_eq_succ_of_ne_zero ?_
      rintro rfl
      exact absurd (hnext (by decide)) (Nat.not_lt.mpr hmore)
    have hformat : format bytes = x.oneDecimal ++ " " ++ unit := by
      rw [format, if_neg (Nat.not_lt.mpr hmore), hclimb]
    refine ⟨k, x.tenths, unit, hunit, ?_, hfills, hx.ten_le_tenths (by omega) hfills, ?_⟩
    · rw [hformat, Binary.oneDecimal_eq]
    · intro hsmaller
      have hk : k < 3 := by
        refine Nat.lt_of_le_of_ne (by omega) ?_
        rintro rfl
        exact hsmaller (Option.some.inj hunit).symm
      have hless : bytes < 1000 ^ (k + 2) := hnext (Nat.succ_lt_succ hk)
      have hmost : x.tenths ≤ 10000 := hx.tenths_le_of_lt hk hless
      refine ⟨hless, hmost, ?_⟩
      rw [← hx.ten_thousand_le_tenths_iff (Nat.succ_pos k) hk]
      omega

/-- Just below a million bytes, the last rounding reaches a thousand kilobytes. -/
theorem thousand_kilobytes_written :
    999950 < 2 ^ 64 ∧ 1000 ≤ 999950 ∧ 999950 < 1000 ^ 2 ∧ format 999950 = "1000.0 kB" := by
  decide +kernel

/-- The count before that is written with a numeral below a thousand. -/
theorem last_numeral_below_thousand :
    999949 < 2 ^ 64 ∧ ∃ tenths : Nat,
      format 999949 = (tenths / 10).repr ++ "." ++ (tenths % 10).repr ++ " " ++ "kB" ∧
        10 ≤ tenths ∧ tenths < 10000 := by
  have hbytes : 999949 < 2 ^ 64 := by norm_num
  obtain ⟨-, hlarge⟩ := numeral_reaches_thousand_iff hbytes
  obtain ⟨k, tenths, unit, hunit, hformat, hfills, hleast, hmost⟩ := hlarge (by norm_num)
  -- the count fills a kilobyte, and not a megabyte
  obtain rfl : k = 0 := by
    by_contra hk
    have hpower : 1000 ^ 2 ≤ 1000 ^ (k + 1) :=
      Nat.pow_le_pow_right (by norm_num) (Nat.succ_le_succ (Nat.pos_of_ne_zero hk))
    omega
  obtain rfl : "kB" = unit := Option.some.inj hunit
  obtain ⟨-, hle, hthousand⟩ := hmost (by decide)
  have hne : tenths ≠ 10000 := fun heq => absurd (hthousand.mp heq) (by norm_num)
  exact ⟨hbytes, tenths, hformat, hleast, Nat.lt_of_le_of_ne hle hne⟩

end ByteCount

end ContainerBoard
