import PageAudit.Time.Rfc3339

/-!
Moments in the names of files, and in the records that are kept with them.
-/

namespace PageAudit.Moment

/-- The moment to the millisecond, with nothing but digits and underscores in it for the years of
four digits. -/
def stamp (m : Moment) : String :=
  yearText m.date.year ++ padded 2 m.date.month ++ padded 2 m.date.day ++ "_" ++
    padded 2 m.hour ++ padded 2 m.minute ++ padded 2 m.secondOfMinute ++ "_" ++
    padded 3 (m.nanoOfSecond / 1000000)

def offsetText (m : Moment) : String :=
  m.dateText ++ "T" ++ m.clockText ++ fractionText m.nanoOfSecond ++ "+00:00"

end PageAudit.Moment
