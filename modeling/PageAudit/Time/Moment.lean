import PageAudit.Time.Date

/-!
Moments in universal time, with the leap seconds that some minutes have.
-/

namespace PageAudit

/-- A moment: a day, the second of the day and the nanosecond in it. A leap second is the second half
of a last second of a minute that is two seconds long. -/
structure Moment where
  date : Date
  second : Nat
  nano : Nat
  second_lt : second < 86400
  nano_lt : nano < 2000000000
  leap : 1000000000 ≤ nano → second % 60 = 59
  deriving DecidableEq

namespace Moment

def epoch : Moment := ⟨.epoch, 0, 0, by decide, by decide, by decide⟩

instance : Inhabited Moment := ⟨epoch⟩

def ofNanos (nanos : Nat) : Moment :=
  let seconds := nanos / 1000000000
  ⟨.ofDayNumber (seconds / 86400 + 719468), seconds % 86400, nanos % 1000000000,
    Nat.mod_lt _ (by decide), by omega, by omega⟩

def hour (m : Moment) : Nat := m.second / 3600
def minute (m : Moment) : Nat := m.second / 60 % 60

/-- The second of the minute, 60 in a leap second. -/
def secondOfMinute (m : Moment) : Nat := m.second % 60 + m.nano / 1000000000

def nanoOfSecond (m : Moment) : Nat := m.nano % 1000000000

/-- The moment `minutes` after, for less than a day in either direction. -/
def shift (m : Moment) (minutes : Int) (bound : minutes.natAbs < 1440) : Moment :=
  let s : Int := m.second + minutes * 60
  have hs := m.second_lt
  have hm := m.leap
  if h₁ : s < 0 then
    ⟨m.date.previous, (s + 86400).toNat, m.nano, by omega, m.nano_lt,
      fun h => by have := hm h; omega⟩
  else if h₂ : 86400 ≤ s then
    ⟨m.date.next, (s - 86400).toNat, m.nano, by omega, m.nano_lt,
      fun h => by have := hm h; omega⟩
  else ⟨m.date, s.toNat, m.nano, by omega, m.nano_lt, fun h => by have := hm h; omega⟩

/-- The nanoseconds from `start` to `stop`, negative if `stop` is earlier. A leap second counts when
the time of day of the other moment lies beyond it. -/
def nanosBetween (start stop : Moment) : Int :=
  let days := stop.date.dayNumber - start.date.dayNumber
  let seconds : Int := (stop.second : Int) - start.second
  let leaps : Int :=
    if start.second < stop.second && 1000000000 ≤ start.nano then 1
    else if stop.second < start.second && 1000000000 ≤ stop.nano then -1
    else 0
  (days * 86400 + seconds + leaps) * 1000000000 + ((stop.nano : Int) - start.nano)

/-- The whole milliseconds from `start` to `stop`, none if `stop` is earlier. -/
def millisBetween (start stop : Moment) : Nat := (nanosBetween start stop).toNat / 1000000

end Moment

end PageAudit
