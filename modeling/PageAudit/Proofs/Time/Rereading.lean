import Mathlib.Data.Fintype.Basic
import Mathlib.Tactic.FinCases
import PageAudit.Time.Rfc3339
import PageAudit.Proofs.Number.Digits

/-!
# A moment is read back from its text

For the years of four digits. Every part of the text has a fixed number of digits, which are read up
to the mark that follows; the offset is none, so the parts are put together as they were.
-/

namespace PageAudit

namespace Digit

/-- The digits of a number with zeros before them. -/
def padded (width n : Nat) : List Digit :=
  List.replicate (width - (ofNat n).length) 0 ++ ofNat n

theorem value_padded (width n : Nat) : value (padded width n) = n := by
  rw [padded, value_append, value_replicate_zero, value_ofNat, Nat.zero_mul, Nat.zero_add]

theorem length_padded {width n : Nat} (hwidth : 0 < width) (h : n < 10 ^ width) :
    (padded width n).length = width := by
  have hle := (length_ofNat_le_iff hwidth).mpr h
  rw [padded, List.length_append, List.length_replicate]
  omega

theorem padded_ne_nil (width n : Nat) : padded width n ≠ [] :=
  List.append_ne_nil_of_right_ne_nil _ (ofNat_ne_nil n)

theorem map_toChar_padded (width n : Nat) :
    (padded width n).map toChar = (Moment.padded width n).toList := by
  rw [padded, Moment.padded, String.toList_ofList, List.map_append, List.map_replicate,
    map_toChar_ofNat, length_ofNat]
  rfl

theorem isBlank_toChar (d : Digit) : Text.isBlank d.toChar = false := by
  revert d
  decide

end Digit

namespace Moment

/-- Whether the moment lies in a year that is written with four digits. -/
def InFourDigits (m : Moment) : Prop := 0 ≤ m.date.year ∧ m.date.year ≤ 9999

/-- The characters of a number with zeros before it, and what follows. -/
def spelled (width n : Nat) (rest : List Char) : List Char :=
  (Digit.padded width n).map Digit.toChar ++ rest

theorem exists_spelled (width n : Nat) (rest : List Char) :
    ∃ (d : Digit) (cs : List Char), spelled width n rest = d.toChar :: cs := by
  cases h : Digit.padded width n with
  | nil => exact absurd h (Digit.padded_ne_nil width n)
  | cons d ds => exact ⟨d, ds.map Digit.toChar ++ rest, by rw [spelled, h]; rfl⟩

theorem skipBlanks_spelled (width n : Nat) (rest : List Char) :
    skipBlanks (spelled width n rest) = spelled width n rest := by
  obtain ⟨d, cs, h⟩ := exists_spelled width n rest
  rw [h, skipBlanks, List.dropWhile_cons_of_neg (by simp [Digit.isBlank_toChar])]

section

variable {width n : Nat} (hwidth : 0 < width) (h : n < 10 ^ width)
include hwidth h

theorem readNumber_spelled (hsmall : n < 2 ^ 63) (rest : List Char) :
    readNumber (some width) (spelled width n rest) = .ok (n, rest) := by
  have hlength : ((Digit.padded width n).map Digit.toChar).length = width := by
    rw [List.length_map, Digit.length_padded hwidth h]
  have htake : (spelled width n rest).take width = (Digit.padded width n).map Digit.toChar ++ [] := by
    rw [spelled, List.take_append_of_le_length (by omega), List.take_of_length_le (by omega),
      List.append_nil]
  have hdrop : (spelled width n rest).drop (Digit.padded width n).length = rest := by
    rw [spelled, ← List.length_map Digit.toChar, List.drop_left]
  simp only [readNumber, htake, leadingDigits_append _ endsDigits_nil]
  rw [if_neg (by simpa using Digit.padded_ne_nil width n), Digit.value_padded,
    if_neg (Nat.not_le.mpr hsmall), hdrop]

end

theorem readField_spelled {low high n : Nat} (hlow : low ≤ n) (hhigh : n ≤ high) (h : n < 100)
    (rest : List Char) : readField low high (spelled 2 n rest) = .ok (n, rest) := by
  rw [readField, skipBlanks_spelled, readNumber_spelled (by decide) h (by omega)]
  simp [bind, Except.bind, hlow, hhigh]

theorem spelled_ne_cons {width n : Nat} {rest cs : List Char} {c : Char}
    (h : Digit.ofChar? c = none) : spelled width n rest ≠ c :: cs := by
  obtain ⟨d, ds, hspelled⟩ := exists_spelled width n rest
  rw [hspelled]
  rintro heq
  rw [← (List.cons.inj heq).1, Digit.ofChar?_toChar] at h
  cases h

theorem readYear_spelled {n : Nat} (h : n ≤ 9999) (rest : List Char) :
    readYear (spelled 4 n rest) = .ok ((n : Int), rest) := by
  have hread : readNumber (some 4) (spelled 4 n rest) = .ok (n, rest) :=
    readNumber_spelled (by decide) (by omega) (by omega) rest
  have hbind {α β : Type} (a : α) (f : α → Except TimeError β) :
      (Except.ok a >>= f) = f a := rfl
  rw [readYear, skipBlanks_spelled]
  split
  · next heq => exact absurd heq (spelled_ne_cons (by decide))
  · next heq => exact absurd heq (spelled_ne_cons (by decide))
  · -- the range is not evaluated: the bounds are too far away for that
    rw [hread, hbind]
    split
    next found =>
      cases found
      rw [pure_bind]
      beta_reduce
      split
      next found =>
        cases found
        rw [if_pos]
        rw [Bool.and_eq_true, decide_eq_true_iff, decide_eq_true_iff]
        omega

theorem readMark_cons {mark : Char} (h : Text.isBlank mark = false) (rest : List Char) :
    readMark mark (mark :: rest) = .ok rest := by
  rw [readMark, skipBlanks, List.dropWhile_cons_of_neg (by simp [h])]
  simp

/-! ## Fractions of a second -/

/-- Nine digits or fewer after a point are read as nanoseconds. -/
theorem readFraction_padded {width n : Nat} (hwidth : 0 < width) (hnine : width ≤ 9)
    (h : n < 10 ^ width) {rest : List Char} (hrest : EndsDigits rest) :
    readFraction ('.' :: spelled width n rest) = .ok (n * 10 ^ (9 - width), rest) := by
  have hlength : (Digit.padded width n).length = width := Digit.length_padded hwidth h
  have hleading : leadingDigits ((spelled width n rest).take 9) =
      (Digit.padded width n, rest.take (9 - width)) := by
    have hends : EndsDigits (rest.take (9 - width)) := by
      intro c hc
      refine hrest c ?_
      rw [List.head?_take] at hc
      split at hc
      · cases hc
      · exact hc
    rw [spelled, List.take_append, List.length_map, hlength,
      List.take_of_length_le (by rw [List.length_map]; omega), leadingDigits_append _ hends]
  have hsmall : n < 2 ^ 63 :=
    calc n < 10 ^ width := h
      _ ≤ 10 ^ 9 := Nat.pow_le_pow_right (by decide) hnine
      _ ≤ 2 ^ 63 := by decide
  have hdrop : (spelled width n rest).drop (Digit.padded width n).length = rest := by
    rw [spelled, ← List.length_map Digit.toChar, List.drop_left]
  have hread : readNumber (some 9) (spelled width n rest) = .ok (n, rest) := by
    simp only [readNumber, hleading]
    rw [if_neg (by simpa using Digit.padded_ne_nil width n), Digit.value_padded,
      if_neg (Nat.not_le.mpr hsmall), hdrop]
  have hcount : (spelled width n rest).length - rest.length = width := by
    rw [spelled, List.length_append, List.length_map, hlength]
    omega
  have hrest' : leadingDigits rest = ([], rest) := leadingDigits_append [] hrest
  simp only [readFraction, hread, bind, Except.bind, hleading, Digit.value_padded, hcount, hrest']

theorem readFraction_fractionText {nanos : Nat} (h : nanos < 10 ^ 9) (rest : List Char) :
    readFraction ((fractionText nanos).toList ++ 'Z' :: rest) = .ok (nanos, 'Z' :: rest) := by
  have hend : EndsDigits ('Z' :: rest) := by
    intro c hc
    cases hc
    decide
  have hspelled (width n : Nat) : ("." ++ padded width n).toList ++ 'Z' :: rest =
      '.' :: spelled width n ('Z' :: rest) := by
    rw [String.toList_append, ← Digit.map_toChar_padded]
    rfl
  unfold fractionText
  split
  · next hzero =>
      rw [hzero]
      rfl
  split
  · next hmillis =>
      rw [hspelled, readFraction_padded (by decide) (by decide) (by omega) hend]
      congr 2
      omega
  split
  · next hmicros =>
      rw [hspelled, readFraction_padded (by decide) (by decide) (by omega) hend]
      congr 2
      omega
  · rw [hspelled, readFraction_padded (by decide) (by decide) h hend]
    congr 2
    omega

/-! ## Moments -/

theorem daysIn_le (year : Int) (month : Nat) : daysIn year month ≤ 31 := by
  unfold daysIn
  split <;> (try split) <;> decide

theorem date_of?_self (d : Date) : Date.of? d.year d.month d.day = some d := by
  rw [Date.of?, dif_pos ⟨d.month_pos, d.month_le, d.day_pos, d.day_le⟩]

theorem shift_zero (m : Moment) (bound : (-0 : Int).natAbs < 1440) : m.shift (-0) bound = m := by
  have hsecond := m.second_lt
  unfold shift
  rw [dif_neg (by omega), dif_neg (by omega)]
  rw [Moment.mk.injEq]
  exact ⟨rfl, by omega, rfl⟩

/-- A leap second stands in the last second of a minute, and only there the clock shows 60. -/
theorem assemble_fields (m : Moment) (h : earliestYear ≤ m.date.year)
    (h' : m.date.year ≤ latestYear) :
    assemble m.date.year m.date.month m.date.day m.hour m.minute m.secondOfMinute m.nanoOfSecond 0 =
      .ok m := by
  obtain ⟨date, second, nano, hsecond, hnano, hleap⟩ := m
  have htotal : second / 3600 * 3600 + second / 60 % 60 * 60 +
      Nat.min (second % 60 + nano / 1000000000) 59 = second := by
    rw [show ∀ a b, Nat.min a b = min a b from fun _ _ => rfl]
    omega
  have hnanos : (second % 60 + nano / 1000000000 - 59) * 1000000000 + nano % 1000000000 = nano := by
    rcases Nat.lt_or_ge nano 1000000000 with hshort | hlong
    · have hminute : second % 60 < 60 := Nat.mod_lt _ (by decide)
      rw [Nat.div_eq_of_lt hshort, Nat.mod_eq_of_lt hshort,
        show second % 60 + 0 - 59 = 0 by omega, Nat.zero_mul, Nat.zero_add]
    · have hone : nano / 1000000000 = 1 := by omega
      rw [hleap hlong, hone]
      omega
  have hyear : (decide (date.year < earliestYear) || decide (latestYear < date.year)) = false := by
    rw [Bool.or_eq_false_iff, decide_eq_false_iff_not, decide_eq_false_iff_not]
    exact ⟨not_lt.mpr h, not_lt.mpr h'⟩
  simp only [assemble, hour, minute, secondOfMinute, nanoOfSecond, htotal, hnanos, date_of?_self,
    hyear, Bool.false_eq_true, if_false]
  rw [dif_pos ⟨hsecond, hnano, hleap⟩, dif_pos (by decide)]
  rw [shift_zero, if_neg (by simpa using hyear)]

theorem toList_text {m : Moment} (h : m.InFourDigits) :
    m.text.toList = spelled 4 m.date.year.natAbs ('-' :: spelled 2 m.date.month ('-' ::
      spelled 2 m.date.day ('T' :: spelled 2 m.hour (':' :: spelled 2 m.minute (':' ::
        spelled 2 m.secondOfMinute ((fractionText m.nanoOfSecond).toList ++ ['Z'])))))) := by
  simp [text, dateText, clockText, yearText, h.1, h.2, spelled, Digit.map_toChar_padded]

/-- A moment is read back from its text. -/
theorem ofText_text {m : Moment} (h : m.InFourDigits) : ofText m.text = .ok m := by
  have hearly := h.1
  have hlate := h.2
  have hmonth := m.date.month_pos
  have hmonth' := m.date.month_le
  have hday := m.date.day_pos
  have hday' : m.date.day ≤ 31 := m.date.day_le.trans (daysIn_le _ _)
  have hsecond := m.second_lt
  have hnano := m.nano_lt
  have hhour : m.hour ≤ 23 := by
    rw [hour]
    omega
  have hminute : m.minute ≤ 59 := by
    rw [minute]
    omega
  have hclock : m.secondOfMinute ≤ 60 := by
    rw [secondOfMinute]
    omega
  have hyear : (m.date.year.natAbs : Int) = m.date.year := by omega
  have hnanos : m.nanoOfSecond < 10 ^ 9 := Nat.mod_lt _ (by decide)
  have hdash : Text.isBlank '-' = false := by decide
  have hcolon : Text.isBlank ':' = false := by decide
  rw [ofText, toList_text h, readYear_spelled (by omega), hyear]
  simp only [bind, Except.bind, readMark_cons hdash, readMark_cons hcolon,
    readField_spelled hmonth hmonth' (show m.date.month < 100 by omega),
    readField_spelled hday hday' (show m.date.day < 100 by omega),
    readField_spelled (Nat.zero_le m.hour) hhour (show m.hour < 100 by omega),
    readField_spelled (Nat.zero_le m.minute) hminute (show m.minute < 100 by omega),
    readField_spelled (Nat.zero_le m.secondOfMinute) hclock (show m.secondOfMinute < 100 by omega),
    readFraction_fractionText hnanos []]
  exact assemble_fields m (le_trans (by decide) hearly) (le_trans hlate (by decide))

/-! ## Intervals -/

theorem dayNumber_natAbs_le {m : Moment} (h : m.InFourDigits) :
    m.date.dayNumber.natAbs ≤ 4000000 := by
  obtain ⟨hearly, hlate⟩ := h
  have hday : m.date.day ≤ 31 := m.date.day_le.trans (daysIn_le _ _)
  unfold Date.dayNumber
  dsimp only
  split <;> omega

/-- The milliseconds between two moments fit into a word. -/
theorem millisBetween_lt {start stop : Moment} (hstart : start.InFourDigits)
    (hstop : stop.InFourDigits) : millisBetween start stop < 2 ^ 64 := by
  have hdays := dayNumber_natAbs_le hstart
  have hdays' := dayNumber_natAbs_le hstop
  have hsecond := stop.second_lt
  have hnano := stop.nano_lt
  have hnanos : nanosBetween start stop ≤ 10 ^ 21 := by
    unfold nanosBetween
    dsimp only
    split
    · omega
    split <;> omega
  unfold millisBetween
  omega

end Moment

end PageAudit
