import PageAudit.Audit.Suite
import PageAudit.Proofs.Audit.Validation

/-!
# Going on and stopping

The pages of a suite are attempted one after another whatever comes of them (`attempts`). A policy
that goes on records every attempt; one that stops records the attempts up to the first failure.
Apart from the time, nothing else distinguishes the two runs.
-/

namespace PageAudit

/-- The result without what depends on the time. -/
def PageResult.untimed (x : PageResult) : PageResult :=
  { x with durationMs := 0, timestamp := .epoch }

end PageAudit

namespace PageAudit.Audit

open Capture (Target)
open Recognition (Recognizer)

variable {W : Type} {s s' : State W}

abbrev Attempt := Except Failure PageResult

namespace Attempt

/-- Whether the page could not be validated. A page that has merely not passed is no failure. -/
def isFailure : Attempt → Bool
  | .ok _ => false
  | .error _ => true

def result : Attempt → PageResult
  | .ok x => x
  | .error failure => failure.result

def untimed : Attempt → Attempt
  | .ok x => .ok x.untimed
  | .error failure => .error { failure with result := failure.result.untimed }

end Attempt

/-- The attempts to validate pages in turn, each with evidence of its own. -/
def attempts (eq : Equipment W) (o : Options) : List Page → State W → List Attempt
  | [], _ => []
  | page :: rest, s =>
    (validate eq o page s.forget).1 :: attempts eq o rest (validate eq o page s.forget).2

/-! ## What the policies record -/

/-- The states agree on everything but the time. -/
structure State.Alike (s s' : State W) : Prop where
  evidence : s.evidence = s'.evidence
  world : s.world = s'.world

section Clocks

variable (t : Target W) (r : Recognizer W) (clock clock' : W → Span → Nat) (o : Options)

end Clocks

section Untimed

variable {xs ys : List Attempt}

end Untimed

/-! ## Two runs of a suite -/

end PageAudit.Audit
