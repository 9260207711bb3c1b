/-!
Lengths of time in nanoseconds, and how messages write them.
-/

namespace PageAudit

structure Span where
  nanos : Nat
  deriving DecidableEq, Inhabited

namespace Span

def zero : Span := ⟨0⟩
def ofMillis (n : Nat) : Span := ⟨n * 1000000⟩
def ofSeconds (n : Nat) : Span := ⟨n * 1000000000⟩

def millis (s : Span) : Nat := s.nanos / 1000000

instance : Add Span := ⟨fun a b => ⟨a.nanos + b.nanos⟩⟩

/-- The span in whole milliseconds, where one that has begun counts as a whole one. -/
def roundedUp (s : Span) : Span := ⟨s.nanos + (1000000 - s.nanos % 1000000) % 1000000⟩

def min (a b : Span) : Span := if a.nanos ≤ b.nanos then a else b

/-- A number of units of which each has `per` parts, in decimal notation without final zeros. -/
def decimal (parts per : Nat) : String :=
  let places := (toString per).length - 1
  let rest := (toString (parts % per)).toList
  let fraction := List.replicate (places - rest.length) '0' ++ rest
  let fraction := (fraction.reverse.dropWhile (· == '0')).reverse
  toString (parts / per) ++ (if fraction.isEmpty then "" else "." ++ String.ofList fraction)

/-- The span in the largest unit, from seconds down to nanoseconds, of which it holds at least one. -/
def text (s : Span) : String :=
  if 1000000000 ≤ s.nanos then decimal s.nanos 1000000000 ++ "s"
  else if 1000000 ≤ s.nanos then decimal s.nanos 1000000 ++ "ms"
  else if 1000 ≤ s.nanos then decimal s.nanos 1000 ++ "µs"
  else toString s.nanos ++ "ns"

end Span

end PageAudit
