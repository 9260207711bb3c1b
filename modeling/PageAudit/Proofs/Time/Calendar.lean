import Mathlib.Order.Monotone.Basic
import Mathlib.Tactic.ByContra
import Mathlib.Tactic.IntervalCases
import Mathlib.Tactic.Ring
import PageAudit.Time.Date

/-!
# Days are numbered one by one

The day that has a number has no other, so two numbers never give the same day. Days are counted in
eras of four hundred years, and in an era in years that begin in March.
-/

namespace PageAudit.Date

/-! ## Years of an era -/

/-- The number of days of an era before a year. -/
def yearStart (year : Nat) : Nat := 365 * year + year / 4 - year / 100 + year / 400

/-- The number of days of an era before a day, less the leap days among them. -/
def regularDays (day : Nat) : Nat := day - day / 1460 + day / 36524 - day / 146096

theorem regularDays_mono {a b : Nat} (h : a ≤ b) (hb : b < 146097) :
    regularDays a ≤ regularDays b := by
  unfold regularDays
  omega

theorem regularDays_yearStart : ∀ year < 400, 365 * year ≤ regularDays (yearStart year) ∧
    regularDays (yearStart (year + 1) - 1) < 365 * (year + 1) := by
  decide +kernel

/-- The year in which a day of an era lies. -/
theorem yearStart_le {day : Nat} (h : day < 146097) :
    regularDays day / 365 < 400 ∧ yearStart (regularDays day / 365) ≤ day ∧
      day < yearStart (regularDays day / 365 + 1) := by
  have hyear : regularDays day / 365 < 400 := by
    unfold regularDays
    omega
  refine ⟨hyear, ?_, ?_⟩
  · by_contra hlate
    have hpos : regularDays day / 365 ≠ 0 := by
      intro hzero
      rw [hzero] at hlate
      exact hlate (Nat.zero_le day)
    have hbefore := (regularDays_yearStart (regularDays day / 365 - 1) (by omega)).2
    rw [Nat.sub_add_cancel (by omega)] at hbefore
    have hmono : regularDays day ≤ regularDays (yearStart (regularDays day / 365) - 1) := by
      refine regularDays_mono (by omega) ?_
      unfold yearStart
      omega
    omega
  · by_contra hearly
    by_cases hlast : regularDays day / 365 + 1 = 400
    · rw [hlast] at hearly
      exact hearly h
    · have hafter := (regularDays_yearStart (regularDays day / 365 + 1) (by omega)).1
      have hmono := regularDays_mono (Nat.le_of_not_lt hearly) h
      omega

/-! ## Leap days -/

theorem isLeapYear_iff (year : Int) :
    isLeapYear year = true ↔ year % 4 = 0 ∧ (year % 100 ≠ 0 ∨ year % 400 = 0) := by
  simp [isLeapYear]

theorem isLeapYear_add (year era : Int) : isLeapYear (year + era * 400) = isLeapYear year := by
  rw [Bool.eq_iff_iff, isLeapYear_iff, isLeapYear_iff]
  omega

/-- A year from March has a day more if there is a leap day at its end. -/
theorem yearStart_succ : ∀ year < 400, yearStart (year + 1) =
    yearStart year + if isLeapYear ((year : Int) + 1) then 366 else 365 := by
  decide +kernel

/-! ## Days of a year -/

/-- The day of the month, for months that are counted from March. -/
theorem day_le_daysIn {year : Int} {day : Nat} (hday : day ≤ 365)
    (hleap : day = 365 → isLeapYear year = true) :
    day - (153 * ((5 * day + 2) / 153) + 2) / 5 + 1 ≤ daysIn year
      (if (5 * day + 2) / 153 < 10 then (5 * day + 2) / 153 + 3 else (5 * day + 2) / 153 - 9) := by
  generalize hmonth : (5 * day + 2) / 153 = month
  have hmonth' : month ≤ 11 := by omega
  rcases Nat.eq_or_lt_of_le hmonth' with rfl | hbefore
  · simp only [daysIn, Nat.reduceLT, Nat.reduceSub, if_false, if_true]
    split
    · omega
    · next hregular =>
        have hshort : day ≠ 365 := fun h => hregular (hleap h)
        omega
  · interval_cases month
    all_goals
      simp [daysIn]
      omega

/-- A day of a year from March is found again by its number. -/
theorem dayNumber_of_march {year day : Nat} (hyear : year < 400)
    (hday : yearStart year + day < yearStart (year + 1)) (era : Nat) :
    let months := (5 * day + 2) / 153
    let month := if months < 10 then months + 3 else months - 9
    ((of? (year + era * 400 + (if month ≤ 2 then 1 else 0) : Nat) month
        (day - (153 * months + 2) / 5 + 1)).getD epoch).dayNumber =
      146097 * era + yearStart year + day := by
  intro months month
  have hsucc := yearStart_succ year hyear
  have hlong : day ≤ 365 ∧ (day = 365 → isLeapYear ((year : Int) + 1) = true) := by
    split at hsucc
    · next hleap => exact ⟨by omega, fun _ => hleap⟩
    · exact ⟨by omega, fun h => absurd h (by omega)⟩
  clear hsucc
  have hmonths : months ≤ 11 := by omega
  have hmonth : 1 ≤ month ∧ month ≤ 12 ∧ (month + 9) % 12 = months ∧ (month ≤ 2 ↔ 10 ≤ months) := by
    dsimp only [month]
    split <;> omega
  have hlength : day - (153 * months + 2) / 5 + 1 ≤
      daysIn ((year + era * 400 + (if month ≤ 2 then 1 else 0) : Nat) : Int) month := by
    refine day_le_daysIn hlong.1 fun h => ?_
    have hwinter : month ≤ 2 := hmonth.2.2.2.mpr (by omega)
    have hleap := hlong.2 h
    rw [← isLeapYear_add _ era] at hleap
    rw [if_pos hwinter]
    convert hleap using 2
    push_cast
    ring
  rw [of?, dif_pos ⟨hmonth.1, hmonth.2.1, Nat.le_add_left .., hlength⟩, Option.getD_some]
  simp only [dayNumber, hmonth.2.2.1]
  unfold yearStart
  have hfirst : (153 * months + 2) / 5 ≤ day := by omega
  by_cases hwinter : month ≤ 2
  · rw [if_pos hwinter, if_pos hwinter]
    omega
  · rw [if_neg hwinter, if_neg hwinter]
    omega

/-! ## Numbers of days -/

theorem dayNumber_ofDayNumber (n : Nat) : (ofDayNumber n).dayNumber = n := by
  have hday : n % 146097 < 146097 := Nat.mod_lt _ (by decide)
  obtain ⟨hyear, hstart, hend⟩ := yearStart_le hday
  unfold ofDayNumber
  dsimp only
  rw [← regularDays]
  generalize regularDays (n % 146097) / 365 = year at *
  have hstart' : 365 * year + year / 4 - year / 100 = yearStart year := by
    unfold yearStart
    omega
  rw [hstart']
  have hinYear : yearStart year + (n % 146097 - yearStart year) < yearStart (year + 1) := by omega
  refine (dayNumber_of_march hyear hinYear (n / 146097)).trans ?_
  omega

theorem ofDayNumber_injective : Function.Injective ofDayNumber := fun m n h => by
  have hnumbers := congrArg dayNumber h
  rw [dayNumber_ofDayNumber, dayNumber_ofDayNumber] at hnumbers
  exact Int.ofNat.inj hnumbers

end PageAudit.Date
