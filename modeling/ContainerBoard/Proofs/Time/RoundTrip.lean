import ContainerBoard.Proofs.Time.Digits

/-!
# Times are read back

Every time is written in UTC and read back from its text, part by part: each part of the
reader takes from the front what the writer has put there, and leaves the rest.
-/

namespace ContainerBoard

namespace Timestamp

open Text

variable {α β : Type}

theorem bind_of_ok
    {reading : Reading α} {next : α → Reading β} {s rest : List Char} {value : α}
    (h : reading s = .ok (value, rest)) : (reading >>= next) s = next value rest := by
  change (reading s >>= fun result => next result.1 result.2) = _
  rw [h]
  rfl

/-- Where no blank comes next, none is passed over. -/
theorem skipBlanks_of_head
    {s : List Char} (h : ∀ c ∈ s.head?, isBlank c = false) : skipBlanks s = .ok ((), s) := by
  have htrimmed : trimStart s = s := by
    cases s with
    | nil => rfl
    | cons c rest => exact List.dropWhile_cons_of_neg (by simp [h c rfl])
  change Except.ok ((), trimStart s) = _
  rw [htrimmed]

theorem skipBlanks_zeroPadded (width number : Nat) (rest : List Char) :
    skipBlanks ((zeroPadded width number).toList ++ rest) =
      .ok ((), (zeroPadded width number).toList ++ rest) := by
  obtain ⟨c, digits, hcons, hdigit⟩ := exists_zeroPadded_eq_cons width number
  rw [hcons]
  apply skipBlanks_of_head
  rintro d ⟨⟩
  exact isBlank_of_isDigit hdigit

theorem skipBlanks_mark {mark : Char} (hmark : isBlank mark = false) (rest : List Char) :
    skipBlanks (mark :: rest) = .ok ((), mark :: rest) := by
  apply skipBlanks_of_head
  rintro c ⟨⟩
  exact hmark

/-- Numbers of a time are far from the greatest that can be read. -/
theorem two_mul_lt_size {number : Nat} (h : number ≤ 1000000000) :
    2 * number < UInt64.size :=
  Nat.lt_of_le_of_lt (Nat.mul_le_mul_left 2 h) (by decide)

theorem readPart_zeroPadded
    {low high number : Nat} (hlow : low ≤ number) (hhigh : number ≤ high)
    (hnumber : number < 100) (rest : List Char) :
    readPart low high ((zeroPadded 2 number).toList ++ rest) = .ok (number, rest) := by
  have hlength : (zeroPadded 2 number).toList.length = 2 :=
    length_zeroPadded (by decide) hnumber
  have hread : readDigits 2 ((zeroPadded 2 number).toList ++ rest) = .ok (number, rest) := by
    apply readDigits_zeroPadded (Nat.le_of_eq hlength) (.inr hlength)
    apply two_mul_lt_size
    omega
  unfold readPart
  rw [bind_of_ok (skipBlanks_zeroPadded 2 number rest), bind_of_ok hread]
  simp only [hlow, hhigh, decide_true, Bool.and_self, if_true]
  rfl

theorem readMark_cons {mark : Char} (hmark : isBlank mark = false) (rest : List Char) :
    readMark mark (mark :: rest) = .ok ((), rest) := by
  have hread : readChar (mark :: rest) = .ok (mark, rest) := rfl
  unfold readMark
  rw [bind_of_ok (skipBlanks_mark hmark rest), bind_of_ok hread, if_pos rfl]
  rfl

/-! ## Years -/

/-- A year of four digits begins with none of the signs. -/
theorem readSignedYear_of_isDigit {c : Char} (hdigit : c.isDigit = true) (s : List Char) :
    readSignedYear (c :: s) =
      (readDigits 4 (c :: s)).map fun result => ((result.1 : Int), result.2) := by
  unfold readSignedYear
  split
  · rename_i hcons
    cases hcons
    cases hdigit
  · rename_i hcons
    cases hcons
    cases hdigit
  · rfl

theorem readAllDigits_zeroPadded
    {width number : Nat} {rest : List Char} (hrest : NoDigit rest)
    (hvalue : 2 * number < UInt64.size) :
    readAllDigits ((zeroPadded width number).toList ++ rest) = .ok (number, rest) := by
  have hmost : (zeroPadded width number).toList.length ≤
      ((zeroPadded width number).toList ++ rest).length := by
    rw [List.length_append]
    exact Nat.le_add_right _ _
  exact readDigits_zeroPadded hmost (.inl hrest) hvalue

theorem readSignedYear_minus (s : List Char) :
    readSignedYear ('-' :: s) =
      (readAllDigits s).map fun result => (-(result.1 : Int), result.2) :=
  rfl

theorem readSignedYear_plus (s : List Char) :
    readSignedYear ('+' :: s) =
      (readAllDigits s).map fun result => ((result.1 : Int), result.2) :=
  rfl

theorem readSignedYear_fourDigits {number : Nat} (h : number < 10000) (rest : List Char) :
    readSignedYear ((zeroPadded 4 number).toList ++ rest) = .ok ((number : Int), rest) := by
  have hlength : (zeroPadded 4 number).toList.length = 4 :=
    length_zeroPadded (by decide) h
  have hread : readDigits 4 ((zeroPadded 4 number).toList ++ rest) = .ok (number, rest) := by
    apply readDigits_zeroPadded (Nat.le_of_eq hlength) (.inr hlength)
    apply two_mul_lt_size
    omega
  obtain ⟨c, digits, hcons, hdigit⟩ := exists_zeroPadded_eq_cons 4 number
  rw [hcons, List.cons_append] at hread ⊢
  rw [readSignedYear_of_isDigit hdigit, hread]
  rfl

theorem readSignedYear_yearText
    {year : Int} (hyear : year.natAbs ≤ 1000000) {rest : List Char} (hrest : NoDigit rest) :
    readSignedYear ((yearText year).toList ++ rest) = .ok (year, rest) := by
  unfold yearText
  split
  · rename_i hplain
    simp only [Bool.and_eq_true, decide_eq_true_eq] at hplain
    have hnat : (year.toNat : Int) = year := Int.toNat_of_nonneg hplain.1
    rw [readSignedYear_fourDigits (by omega) rest, hnat]
  · have hvalue : 2 * year.natAbs < UInt64.size := two_mul_lt_size (by omega)
    have hread : readAllDigits ((zeroPadded 4 year.natAbs).toList ++ rest) =
        .ok (year.natAbs, rest) := readAllDigits_zeroPadded hrest hvalue
    rw [String.toList_append, List.append_assoc]
    split
    · have hnat : -(year.natAbs : Int) = year := by omega
      have hsign : "-".toList = ['-'] := rfl
      rw [hsign, List.singleton_append, readSignedYear_minus, hread]
      change Except.ok (-(year.natAbs : Int), rest) = _
      rw [hnat]
    · have hnat : (year.natAbs : Int) = year := by omega
      have hsign : "+".toList = ['+'] := rfl
      rw [hsign, List.singleton_append, readSignedYear_plus, hread]
      change Except.ok ((year.natAbs : Int), rest) = _
      rw [hnat]

/-- The year of every time is read back. -/
theorem readYear_yearText
    {year : Int} (hfirst : CivilDate.firstYear ≤ year) (hlast : year ≤ CivilDate.lastYear)
    {rest : List Char} (hrest : NoDigit rest) :
    readYear ((yearText year).toList ++ rest) = .ok (year, rest) := by
  have hbounds : -262143 ≤ year ∧ year ≤ 262142 := ⟨hfirst, hlast⟩
  have hblanks : skipBlanks ((yearText year).toList ++ rest) =
      .ok ((), (yearText year).toList ++ rest) := by
    unfold yearText
    split
    · exact skipBlanks_zeroPadded 4 year.toNat rest
    · rw [String.toList_append, List.append_assoc]
      split
      · exact skipBlanks_mark (by decide) _
      · exact skipBlanks_mark (by decide) _
  have hyear : year.natAbs ≤ 1000000 := by omega
  have hmin : Int32.minValue.toInt ≤ year := by
    have hvalue : Int32.minValue.toInt = -2147483648 := by decide
    omega
  have hmax : year ≤ Int32.maxValue.toInt := by
    have hvalue : Int32.maxValue.toInt = 2147483647 := by decide
    omega
  unfold readYear
  rw [bind_of_ok hblanks, bind_of_ok (readSignedYear_yearText hyear hrest)]
  simp only [hmin, hmax, decide_true, Bool.and_self, if_true]
  rfl

/-! ## Fractions -/

/-- How many digits the fraction of a second is written with. -/
structure FractionDigits (nano digits : Nat) : Prop where
  group : digits ∈ [0, 3, 6, 9]
  exact : 10 ^ (9 - digits) ∣ nano
  fewest : ∀ d ∈ [0, 3, 6, 9], 10 ^ (9 - d) ∣ nano → digits ≤ d

/-- A fraction is written with the fewest digits, in groups of three, that are exact. -/
theorem fractionText_eq {nano : Nat} (hnano : nano < 1000000000) :
    ∃ digits, FractionDigits nano digits ∧
      fractionText nano =
        if digits = 0 then "" else "." ++ zeroPadded digits (nano / 10 ^ (9 - digits)) := by
  unfold fractionText
  by_cases hnone : nano = 0
  · refine ⟨0, ⟨by simp, ?_, ?_⟩, by rw [if_pos hnone]; rfl⟩
    · rw [hnone]
      exact Nat.dvd_zero _
    · intro d _ _
      exact Nat.zero_le d
  · rw [if_neg hnone]
    by_cases hmilli : nano % 1000000 = 0
    · refine ⟨3, ⟨by simp, Nat.dvd_of_mod_eq_zero hmilli, ?_⟩, by rw [if_pos hmilli]; rfl⟩
      simp only [List.mem_cons, List.not_mem_nil, or_false]
      rintro d (rfl | rfl | rfl | rfl) hexact
      · have := Nat.mod_eq_zero_of_dvd hexact
        omega
      all_goals decide
    · rw [if_neg hmilli]
      by_cases hmicro : nano % 1000 = 0
      · refine ⟨6, ⟨by simp, Nat.dvd_of_mod_eq_zero hmicro, ?_⟩, by rw [if_pos hmicro]; rfl⟩
        simp only [List.mem_cons, List.not_mem_nil, or_false]
        rintro d (rfl | rfl | rfl | rfl) hexact
        · have := Nat.mod_eq_zero_of_dvd hexact
          omega
        · exact absurd (Nat.mod_eq_zero_of_dvd hexact) hmilli
        all_goals decide
      · refine ⟨9, ⟨by simp, Nat.one_dvd nano, ?_⟩, by rw [if_neg hmicro]; simp⟩
        simp only [List.mem_cons, List.not_mem_nil, or_false]
        rintro d (rfl | rfl | rfl | rfl) hexact
        · have := Nat.mod_eq_zero_of_dvd hexact
          omega
        · exact absurd (Nat.mod_eq_zero_of_dvd hexact) hmilli
        · exact absurd (Nat.mod_eq_zero_of_dvd hexact) hmicro
        · decide

theorem readFraction_point
    {digits number : Nat} (hsome : 0 < digits) (hmost : digits ≤ 9)
    (hnumber : number < 10 ^ digits) {rest : List Char} (hrest : NoDigit rest) :
    readFraction ('.' :: ((zeroPadded digits number).toList ++ rest)) =
      .ok (number * 10 ^ (9 - digits), rest) := by
  have hlength : (zeroPadded digits number).toList.length = digits :=
    length_zeroPadded hsome hnumber
  have hread : readDigits 9 ((zeroPadded digits number).toList ++ rest) =
      .ok (number, rest) := by
    apply readDigits_zeroPadded (Nat.le_trans (Nat.le_of_eq hlength) hmost) (.inl hrest)
    apply two_mul_lt_size
    exact Nat.le_trans (Nat.le_of_lt hnumber) (Nat.pow_le_pow_right (by decide) hmost)
  have htaken : ((zeroPadded digits number).toList ++ rest).length - rest.length = digits := by
    rw [List.length_append, hlength, Nat.add_sub_cancel]
  unfold readFraction
  simp only [hread, Except.map, htaken, hrest.dropWhile]
  rfl

/-- A fraction is read back in front of the mark of UTC. -/
theorem readFraction_fractionText {nano : Nat} (hnano : nano < 1000000000) :
    readFraction ((fractionText nano).toList ++ ['Z']) = .ok (nano, ['Z']) := by
  obtain ⟨digits, hdigits, htext⟩ := fractionText_eq hnano
  rw [htext]
  by_cases hnone : digits = 0
  · subst hnone
    have hzero : nano = 0 := Nat.eq_zero_of_dvd_of_lt hdigits.exact hnano
    rw [hzero]
    rfl
  · have hmost : digits ≤ 9 := hdigits.fewest 9 (by simp) (Nat.one_dvd nano)
    have hnumber : nano / 10 ^ (9 - digits) < 10 ^ digits := by
      apply Nat.div_lt_of_lt_mul
      rw [← Nat.pow_add, Nat.sub_add_cancel hmost]
      exact hnano
    have hpoint : ".".toList = ['.'] := rfl
    have hexact : nano / 10 ^ (9 - digits) * 10 ^ (9 - digits) = nano :=
      Nat.div_mul_cancel hdigits.exact
    rw [if_neg hnone, String.toList_append, hpoint, List.append_assoc, List.singleton_append,
      readFraction_point (Nat.pos_of_ne_zero hnone) hmost hnumber (by simp [NoDigit]), hexact]

/-! ## Whole times -/

/-- The bounds of the parts of a time. -/
theorem bounds (t : Timestamp) :
    (CivilDate.firstYear ≤ t.date.year ∧ t.date.year ≤ CivilDate.lastYear) ∧
      (1 ≤ t.date.month ∧ t.date.month ≤ 12) ∧ (1 ≤ t.date.day ∧ t.date.day ≤ 31) ∧
      t.hour ≤ 23 ∧ t.minute ≤ 59 ∧ t.second ≤ 60 ∧ t.nano < 1000000000 := by
  have hvalid := t.valid
  have hdays : CivilDate.daysInMonth t.date.year t.date.month ≤ 31 := by
    unfold CivilDate.daysInMonth
    split
    · split <;> decide
    · split <;> decide
  simp only [CivilDate.isValid, isClockTime, Bool.and_eq_true, decide_eq_true_eq] at hvalid
  omega

theorem readDate_text (t : Timestamp) (rest : List Char) :
    readDate ((yearText t.date.year).toList ++ '-' :: ((zeroPadded 2 t.date.month).toList ++
      '-' :: ((zeroPadded 2 t.date.day).toList ++ rest))) = .ok (t.date, rest) := by
  obtain ⟨⟨hfirst, hlast⟩, ⟨hmonth, hyear⟩, ⟨hday, hmost⟩, -⟩ := t.bounds
  unfold readDate
  rw [bind_of_ok (readYear_yearText hfirst hlast (by simp [NoDigit])),
    bind_of_ok (readMark_cons (by decide) _),
    bind_of_ok (readPart_zeroPadded hmonth hyear (by omega) _),
    bind_of_ok (readMark_cons (by decide) _),
    bind_of_ok (readPart_zeroPadded hday hmost (by omega) _)]
  rfl

theorem readDivider_cons (rest : List Char) : readDivider ('T' :: rest) = .ok ((), rest) :=
  rfl

/-- The parts of a time in UTC, as its text gives them. -/
def written (t : Timestamp) : Written :=
  { date := t.date, hour := t.hour, minute := t.minute, second := t.second, nano := t.nano,
    offset := 0 }

theorem toList_text (t : Timestamp) :
    t.text.toList =
      (yearText t.date.year).toList ++ '-' :: ((zeroPadded 2 t.date.month).toList ++
        '-' :: ((zeroPadded 2 t.date.day).toList ++ 'T' :: ((zeroPadded 2 t.hour).toList ++
          ':' :: ((zeroPadded 2 t.minute).toList ++ ':' :: ((zeroPadded 2 t.second).toList ++
            ((fractionText t.nano).toList ++ ['Z'])))))) := by
  simp [text, localText, clockText]

theorem readWritten_text (t : Timestamp) :
    readWritten t.text.toList = .ok (t.written, []) := by
  obtain ⟨-, -, -, hhour, hminute, hsecond, hnano⟩ := t.bounds
  have hoffset : readOffset ['Z'] = .ok (0, []) := rfl
  unfold readWritten
  rw [toList_text, bind_of_ok (readDate_text t _), bind_of_ok (readDivider_cons _),
    bind_of_ok (readPart_zeroPadded (Nat.zero_le _) hhour (by omega) _),
    bind_of_ok (readMark_cons (by decide) _),
    bind_of_ok (readPart_zeroPadded (Nat.zero_le _) hminute (by omega) _),
    bind_of_ok (readMark_cons (by decide) _),
    bind_of_ok (readPart_zeroPadded (Nat.zero_le _) hsecond (by omega) _),
    bind_of_ok (readFraction_fractionText hnano),
    bind_of_ok (skipBlanks_mark (by decide) []), bind_of_ok hoffset]
  rfl

theorem ofParts?_self (t : Timestamp) :
    ofParts? t.date t.hour t.minute t.second t.nano = some t :=
  dif_pos t.valid

/-- A time in UTC is told in UTC as it is. -/
theorem behind?_zero (t : Timestamp) :
    behind? 0 t.date t.hour t.minute t.second t.nano = some t := by
  obtain ⟨-, -, -, hhour, hminute, -⟩ := t.bounds
  have hsame : ¬ (60 * (t.hour : Int) + t.minute - 0 < 0) := by omega
  have hday : ¬ (1440 ≤ 60 * (t.hour : Int) + t.minute - 0) := by omega
  have hclockHour : (60 * (t.hour : Int) + t.minute - 0).toNat / 60 = t.hour := by omega
  have hclockMinute : (60 * (t.hour : Int) + t.minute - 0).toNat % 60 = t.minute := by omega
  simp only [behind?, hsame, hday, if_false, hclockHour, hclockMinute]
  exact ofParts?_self t

theorem ofWritten_written (t : Timestamp) : ofWritten t.written = .ok t := by
  have hvalid := t.valid
  rw [Bool.and_eq_true] at hvalid
  have hparts : behind? t.written.offset t.written.date t.written.hour t.written.minute
      t.written.second t.written.nano = some t := behind?_zero t
  have hdate : (!t.written.date.isValid || 1440 ≤ t.written.offset.natAbs) = false := by
    simp [written, hvalid.1]
  unfold ofWritten
  rw [hdate, if_neg Bool.false_ne_true, hparts]

/-- Every time is read back from its text. -/
theorem read_text (t : Timestamp) : read t.text = .ok t := by
  change (readWritten t.text.toList >>= fun result =>
    if isAllBlank result.2 then ofWritten result.1 else .error .tooLong) = _
  rw [readWritten_text]
  exact ofWritten_written t

example : (read "2016-12-31T23:59:60.005Z").toOption.map text =
    some "2016-12-31T23:59:60.005Z" := by
  decide

end Timestamp

end ContainerBoard
