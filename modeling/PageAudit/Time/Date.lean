/-!
Days of the proleptic Gregorian calendar.
-/

namespace PageAudit

def isLeapYear (year : Int) : Bool := year % 4 == 0 && (year % 100 != 0 || year % 400 == 0)

def daysIn (year : Int) (month : Nat) : Nat :=
  if month = 2 then (if isLeapYear year then 29 else 28)
  else if month = 4 || month = 6 || month = 9 || month = 11 then 30
  else 31

theorem daysIn_pos (year : Int) (month : Nat) : 1 ≤ daysIn year month := by
  unfold daysIn; split <;> (try split) <;> decide

structure Date where
  year : Int
  month : Nat
  day : Nat
  month_pos : 1 ≤ month
  month_le : month ≤ 12
  day_pos : 1 ≤ day
  day_le : day ≤ daysIn year month
  deriving DecidableEq

namespace Date

def of? (year : Int) (month day : Nat) : Option Date :=
  if h : 1 ≤ month ∧ month ≤ 12 ∧ 1 ≤ day ∧ day ≤ daysIn year month then
    some ⟨year, month, day, h.1, h.2.1, h.2.2.1, h.2.2.2⟩
  else none

def epoch : Date := ⟨1970, 1, 1, by decide, by decide, by decide, by decide⟩

instance : Inhabited Date := ⟨epoch⟩

def next (d : Date) : Date :=
  if h : d.day < daysIn d.year d.month then
    ⟨d.year, d.month, d.day + 1, d.month_pos, d.month_le, by omega, h⟩
  else if h : d.month < 12 then
    ⟨d.year, d.month + 1, 1, by omega, h, by decide, daysIn_pos ..⟩
  else ⟨d.year + 1, 1, 1, by decide, by decide, by decide, daysIn_pos ..⟩

def previous (d : Date) : Date :=
  if h : 1 < d.day then
    ⟨d.year, d.month, d.day - 1, d.month_pos, d.month_le, by omega, by have := d.day_le; omega⟩
  else if h : 1 < d.month then
    ⟨d.year, d.month - 1, daysIn d.year (d.month - 1), by omega, by have := d.month_le; omega,
      daysIn_pos .., Nat.le_refl _⟩
  else ⟨d.year - 1, 12, 31, by decide, by decide, by decide, by simp [daysIn]⟩

/-- How many days lie between the first of March of the year 0 and the day; negative before it. The
years are counted from March, so that a leap day ends its year. -/
def dayNumber (d : Date) : Int :=
  let years := if d.month ≤ 2 then d.year - 1 else d.year
  let months := (d.month + 9) % 12
  years * 365 + years / 4 - years / 100 + years / 400 + (153 * months + 2) / 5 + d.day - 1

/-- The day that lies `n` days after the first of March of the year 0. -/
def ofDayNumber (n : Nat) : Date :=
  let era := n / 146097
  let day := n % 146097
  let years := (day - day / 1460 + day / 36524 - day / 146096) / 365
  let dayOfYear := day - (365 * years + years / 4 - years / 100)
  let months := (5 * dayOfYear + 2) / 153
  let month := if months < 10 then months + 3 else months - 9
  let year := years + era * 400 + (if month ≤ 2 then 1 else 0)
  (of? year month (dayOfYear - (153 * months + 2) / 5 + 1)).getD epoch

end Date

end PageAudit
