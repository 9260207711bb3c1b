import PageAudit.Time.Moment
import PageAudit.Number.Parse
import PageAudit.Text.Blank

/-!
Moments as texts. They are written in universal time, with as many groups of three decimals as they
need. They are read more liberally: blanks may stand between the parts, the parts may have fewer
digits, and the offset from universal time is taken off.
-/

namespace PageAudit

inductive TimeError where
  | tooShort
  | invalid
  | outOfRange
  | impossible
  | trailing
  deriving DecidableEq

def TimeError.message : TimeError → String
  | tooShort => "premature end of input"
  | invalid => "input contains invalid characters"
  | outOfRange => "input is out of range"
  | impossible => "no possible date and time matching input"
  | trailing => "trailing input"

namespace Moment

/-! ## Writing -/

def padded (width n : Nat) : String :=
  let ds := Nat.toDigits 10 n
  String.ofList (List.replicate (width - ds.length) '0' ++ ds)

/-- The year with four digits; beyond the four-digit years the sign is written too. -/
def yearText (year : Int) : String :=
  if 0 ≤ year && year ≤ 9999 then padded 4 year.natAbs
  else (if year < 0 then "-" else "+") ++ padded 4 year.natAbs

/-- The fraction of the second in groups of three decimals; none for a whole second. -/
def fractionText (nanos : Nat) : String :=
  if nanos = 0 then ""
  else if nanos % 1000000 = 0 then "." ++ padded 3 (nanos / 1000000)
  else if nanos % 1000 = 0 then "." ++ padded 6 (nanos / 1000)
  else "." ++ padded 9 nanos

def dateText (m : Moment) : String :=
  yearText m.date.year ++ "-" ++ padded 2 m.date.month ++ "-" ++ padded 2 m.date.day

def clockText (m : Moment) : String :=
  padded 2 m.hour ++ ":" ++ padded 2 m.minute ++ ":" ++ padded 2 m.secondOfMinute

def text (m : Moment) : String :=
  m.dateText ++ "T" ++ m.clockText ++ fractionText m.nanoOfSecond ++ "Z"

def displayText (m : Moment) : String := m.dateText ++ " " ++ m.clockText ++ " UTC"

/-! ## Reading -/

def skipBlanks (cs : List Char) : List Char := cs.dropWhile Text.isBlank

/-- Reads digits, at least one and at most `width` of them if a width is given. -/
def readNumber (width : Option Nat) (cs : List Char) :
    Except TimeError (Nat × List Char) :=
  let (ds, _) := leadingDigits (match width with | none => cs | some w => cs.take w)
  if ds.isEmpty then .error (if cs.isEmpty then .tooShort else .invalid)
  else if 2 ^ 63 ≤ Digit.value ds then .error .outOfRange
  else .ok (Digit.value ds, cs.drop ds.length)

def readField (low high : Nat) (cs : List Char) :
    Except TimeError (Nat × List Char) := do
  let (n, rest) ← readNumber (some 2) (skipBlanks cs)
  if low ≤ n && n ≤ high then .ok (n, rest) else .error .outOfRange

/-- Reads a year: four digits, or a sign and any number of digits. -/
def readYear (cs : List Char) : Except TimeError (Int × List Char) := do
  let (year, rest) ← match skipBlanks cs with
    | '-' :: rest => do let (n, rest) ← readNumber none rest; pure (-(n : Int), rest)
    | '+' :: rest => do let (n, rest) ← readNumber none rest; pure ((n : Int), rest)
    | rest => do let (n, rest) ← readNumber (some 4) rest; pure ((n : Int), rest)
  if -(2 ^ 31) ≤ year && year < 2 ^ 31 then .ok (year, rest) else .error .outOfRange

def readMark (mark : Char) (cs : List Char) : Except TimeError (List Char) :=
  match skipBlanks cs with
  | [] => .error .tooShort
  | c :: rest => if c = mark then .ok rest else .error .invalid

/-- Reads the fraction of the second, of which nine digits count. -/
def readFraction : List Char → Except TimeError (Nat × List Char)
  | '.' :: cs => do
    let (_, rest) ← readNumber (some 9) cs
    let count := cs.length - rest.length
    .ok (Digit.value (leadingDigits (cs.take 9)).1 * 10 ^ (9 - count), (leadingDigits rest).2)
  | cs => .ok (0, cs)

def readPair (most : Nat) : List Char → Except TimeError (Nat × List Char)
  | a :: b :: rest =>
    match Digit.ofChar? a, Digit.ofChar? b with
    | some a, some b =>
      if a.val ≤ most then .ok (a.val * 10 + b.val, rest) else .error .outOfRange
    | _, _ => .error .invalid
  | [c] => .error (if c.utf8Size = 1 then .tooShort else .invalid)
  | [] => .error .tooShort

def readOffset (cs : List Char) : Except TimeError (Int × List Char) :=
  match cs with
  | [] => .error .tooShort
  | c :: rest =>
    if c = 'Z' || c = 'z' then .ok (0, rest)
    else if (cs.take 3).map Char.toLower = ['u', 't', 'c'] then .ok (0, cs.drop 3)
    else if c = '+' || c = '-' || c = '−' then do
      let (hours, rest) ← readPair 9 rest
      let (minutes, rest) ← readPair 5 (rest.dropWhile fun c => c == ':' || Text.isBlank c)
      let offset : Int := hours * 60 + minutes
      .ok (if c = '+' then offset else -offset, rest)
    else .error .invalid

/-- The years that a moment can lie in. -/
def earliestYear : Int := -262143
def latestYear : Int := 262142

/-- The moment with the given fields, a number of minutes ahead of universal time. -/
def assemble (year : Int) (month day hour minute second nanos : Nat) (offset : Int) :
    Except TimeError Moment :=
  if year < earliestYear || latestYear < year then .error .outOfRange
  else match Date.of? year month day with
  | none => .error .outOfRange
  | some date =>
    let total := hour * 3600 + minute * 60 + Nat.min second 59
    let nano := (second - 59) * 1000000000 + nanos
    if h : total < 86400 ∧ nano < 2000000000 ∧ (1000000000 ≤ nano → total % 60 = 59) then
      if b : (-offset).natAbs < 1440 then
        let m := shift ⟨date, total, nano, h.1, h.2.1, h.2.2⟩ (-offset) b
        if m.date.year < earliestYear || latestYear < m.date.year then .error .impossible
        else .ok m
      else .error .outOfRange
    else .error .outOfRange

def ofText (s : String) : Except TimeError Moment := do
  let (year, cs) ← readYear s.toList
  let cs ← readMark '-' cs
  let (month, cs) ← readField 1 12 cs
  let cs ← readMark '-' cs
  let (day, cs) ← readField 1 31 cs
  let cs ← match cs with
    | [] => .error TimeError.tooShort
    | c :: rest =>
      if c = 'T' || c = 't' || c = ' ' then .ok rest else .error TimeError.invalid
  let (hour, cs) ← readField 0 23 cs
  let cs ← readMark ':' cs
  let (minute, cs) ← readField 0 59 cs
  let cs ← readMark ':' cs
  let (second, cs) ← readField 0 60 cs
  let (nanos, cs) ← readFraction cs
  let (offset, cs) ← readOffset (skipBlanks cs)
  if !(skipBlanks cs).isEmpty then .error .trailing
  else assemble year month day hour minute second nanos offset

end Moment

end PageAudit
