import PageAudit.Proofs.Text.Characters
import PageAudit.Proofs.Time.Calendar
import PageAudit.Time.Stamp

/-!
# Stamps tell milliseconds apart

A stamp has a day, a time and a fraction in it, each without an underscore and with a fixed number of
digits behind the year. So it gives back the millisecond that it was made of.
-/

namespace PageAudit

/-- If a text has a last separator, what is before it and what is behind it are given by the text. -/
theorem Text.append_cons_inj {xs xs' ys ys' : List Char} {c : Char} (h : c ∉ ys) (h' : c ∉ ys')
    (heq : xs ++ c :: ys = xs' ++ c :: ys') : xs = xs' ∧ ys = ys' := by
  have htake (zs zs' : List Char) (hzs : c ∉ zs) :
      (zs' ++ c :: zs).reverse.takeWhile (· != c) = zs.reverse := by
    rw [List.reverse_append, List.reverse_cons, List.append_assoc,
      List.takeWhile_append_of_pos fun d hd => bne_iff_ne.mpr (ne_of_mem_of_not_mem hd (by simpa))]
    simp
  have hys : ys = ys' := by
    rw [← List.reverse_inj, ← htake ys xs h, ← htake ys' xs' h', heq]
  subst hys
  exact ⟨List.append_cancel_right heq, rfl⟩

namespace Moment

/-! ## Numbers of a fixed width -/

theorem padded_inj {width m n : Nat} (h : padded width m = padded width n) : m = n := by
  have hchars := congrArg String.toList h
  rw [← Digit.map_toChar_padded, ← Digit.map_toChar_padded] at hchars
  have hinjective : Function.Injective Digit.toChar := fun d d' hd => by
    have hread := congrArg Digit.ofChar? hd
    rw [Digit.ofChar?_toChar, Digit.ofChar?_toChar] at hread
    exact Option.some.inj hread
  rw [← Digit.value_padded width m, List.map_injective_iff.mpr hinjective hchars,
    Digit.value_padded]

theorem length_padded {width n : Nat} (hwidth : 0 < width) (h : n < 10 ^ width) :
    (padded width n).toList.length = width := by
  rw [← Digit.map_toChar_padded, List.length_map, Digit.length_padded hwidth h]

/-- A number of a fixed width at the end of a text is given by the text. -/
theorem append_padded_inj {xs ys : String} {width m n : Nat} (hwidth : 0 < width)
    (hm : m < 10 ^ width) (hn : n < 10 ^ width)
    (h : xs ++ padded width m = ys ++ padded width n) : xs = ys ∧ m = n := by
  have hchars := congrArg String.toList h
  rw [String.toList_append, String.toList_append] at hchars
  obtain ⟨hxs, hnumbers⟩ := List.append_inj' hchars
    ((length_padded hwidth hm).trans (length_padded hwidth hn).symm)
  exact ⟨String.toList_inj.mp hxs, padded_inj (String.toList_inj.mp hnumbers)⟩

theorem padded_ne_append {width n : Nat} {mark : String} {c : Char} {s : String}
    (hmark : mark.toList = [c]) (hc : Digit.ofChar? c = none) : padded width n ≠ mark ++ s := by
  intro h
  have hchars := congrArg String.toList h
  rw [String.toList_append, hmark, List.singleton_append, ← Digit.map_toChar_padded,
    ← List.append_nil (List.map _ _)] at hchars
  exact spelled_ne_cons hc hchars

theorem yearText_cases (year : Int) :
    (0 ≤ year ∧ yearText year = padded 4 year.natAbs) ∨
      (0 ≤ year ∧ yearText year = "+" ++ padded 4 year.natAbs) ∨
      (year < 0 ∧ yearText year = "-" ++ padded 4 year.natAbs) := by
  unfold yearText
  split
  · next hfour =>
      rw [Bool.and_eq_true, decide_eq_true_iff, decide_eq_true_iff] at hfour
      exact .inl ⟨hfour.1, rfl⟩
  · split
    · next hnegative => exact .inr (.inr ⟨hnegative, rfl⟩)
    · next hlate => exact .inr (.inl ⟨Int.not_lt.mp hlate, rfl⟩)

/-- A year is given by its text, whether or not its sign is written. -/
theorem yearText_injective : Function.Injective yearText := by
  intro year year' h
  have hplus : Digit.ofChar? '+' = none := by decide
  have hminus : Digit.ofChar? '-' = none := by decide
  have hsigns (s s' : String) : "-" ++ s ≠ "+" ++ s' := fun heq => by
    simpa using congrArg (List.head? ∘ String.toList) heq
  rcases yearText_cases year with ⟨hy, htext⟩ | ⟨hy, htext⟩ | ⟨hy, htext⟩ <;>
    rcases yearText_cases year' with ⟨hy', htext'⟩ | ⟨hy', htext'⟩ | ⟨hy', htext'⟩ <;>
    rw [htext, htext'] at h
  · have hyears := padded_inj h
    omega
  · exact absurd h (padded_ne_append rfl hplus)
  · exact absurd h (padded_ne_append rfl hminus)
  · exact absurd h.symm (padded_ne_append rfl hplus)
  · have hyears := padded_inj ((String.append_right_inj _).mp h)
    omega
  · exact absurd h.symm (hsigns _ _)
  · exact absurd h.symm (padded_ne_append rfl hminus)
  · exact absurd h (hsigns _ _)
  · have hyears := padded_inj ((String.append_right_inj _).mp h)
    omega

/-! ## Stamps -/

/-- The parts of a stamp behind the year have the digits that they are given. -/
theorem fields_lt (m : Moment) : m.date.month < 10 ^ 2 ∧ m.date.day < 10 ^ 2 ∧ m.hour < 10 ^ 2 ∧
    m.minute < 10 ^ 2 ∧ m.secondOfMinute < 10 ^ 2 ∧ m.nanoOfSecond / 1000000 < 10 ^ 3 := by
  have hday := m.date.day_le.trans (daysIn_le _ _)
  have hmonth := m.date.month_le
  have hsecond := m.second_lt
  have hnano := m.nano_lt
  refine ⟨by omega, by omega, ?_, ?_, ?_, ?_⟩
  · rw [hour]
    omega
  · rw [minute]
    omega
  · rw [secondOfMinute]
    omega
  · rw [nanoOfSecond]
    omega

/-- What a stamp tells of a moment. -/
theorem stamp_inj {m m' : Moment} (h : m.stamp = m'.stamp) :
    m.date = m'.date ∧ m.hour = m'.hour ∧ m.minute = m'.minute ∧
      m.secondOfMinute = m'.secondOfMinute ∧
      m.nanoOfSecond / 1000000 = m'.nanoOfSecond / 1000000 := by
  obtain ⟨hmonth, hday, hhour, hminute, hsecond, hmilli⟩ := m.fields_lt
  obtain ⟨hmonth', hday', hhour', hminute', hsecond', hmilli'⟩ := m'.fields_lt
  have hmarks {xs xs' : String} (h : xs ++ "_" = xs' ++ "_") : xs = xs' :=
    (String.append_left_inj _).mp h
  unfold stamp at h
  obtain ⟨h, hmillis⟩ := append_padded_inj (by decide) hmilli hmilli' h
  obtain ⟨h, hseconds⟩ := append_padded_inj (by decide) hsecond hsecond' (hmarks h)
  obtain ⟨h, hminutes⟩ := append_padded_inj (by decide) hminute hminute' h
  obtain ⟨h, hhours⟩ := append_padded_inj (by decide) hhour hhour' h
  obtain ⟨h, hdays⟩ := append_padded_inj (by decide) hday hday' (hmarks h)
  obtain ⟨h, hmonths⟩ := append_padded_inj (by decide) hmonth hmonth' h
  have hyears := yearText_injective h
  refine ⟨?_, hhours, hminutes, hseconds, hmillis⟩
  have hdate := date_of?_self m.date
  rw [hyears, hmonths, hdays, date_of?_self] at hdate
  exact (Option.some.inj hdate).symm

/-- The stamps of a clock are the same within a millisecond, and only then. -/
theorem stamp_ofNanos_eq_iff {a b : Nat} :
    (ofNanos a).stamp = (ofNanos b).stamp ↔ a / 1000000 = b / 1000000 := by
  constructor
  · intro h
    obtain ⟨hdate, hhour, hminute, hsecond, hmilli⟩ := stamp_inj h
    have hdays : a / 1000000000 / 86400 + 719468 = b / 1000000000 / 86400 + 719468 :=
      Date.ofDayNumber_injective hdate
    simp only [ofNanos, hour, minute, secondOfMinute, nanoOfSecond] at hhour hminute hsecond hmilli
    omega
  · intro h
    have hseconds : a / 1000000000 = b / 1000000000 := by omega
    have hmilli : a % 1000000000 % 1000000000 / 1000000 = b % 1000000000 % 1000000000 / 1000000 := by
      omega
    have hwhole (n : Nat) : n % 1000000000 / 1000000000 = 0 :=
      Nat.div_eq_of_lt (Nat.mod_lt _ (by decide))
    simp only [stamp, ofNanos, hour, minute, secondOfMinute, nanoOfSecond, hseconds, hmilli, hwhole]

end Moment

end PageAudit
