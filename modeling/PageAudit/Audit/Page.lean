import PageAudit.Audit.Evidence
import PageAudit.Check.Evaluate
import PageAudit.Registry.Page
import PageAudit.Report.PageResult
import PageAudit.Settings.Environment

/-!
Validating one page: it is opened, captured, recognized and checked. A page that cannot be captured
or recognized has a result too, which says why. There is none only if the program crashes.
-/

namespace PageAudit.Audit

open Capture (Extent Target)
open Recognition (Recognizer)

structure Options where
  extent : Extent
  /-- Whether it is enough that a page can be captured. -/
  skipServiceCheck : Bool
  tolerance : Double
  limits : Limits
  deriving DecidableEq

def Limits.ofSettings (s : Settings) : Limits := ⟨s.timeout, false⟩

def Options.ofSettings (s : Settings) : Options :=
  ⟨.full, s.skipServiceCheck, s.tolerance, .ofSettings s⟩

structure Equipment (W : Type) where
  target : Target W
  recognizer : Recognizer W
  /-- The nanoseconds since the start of 1970, given the time spent on recognitions and pauses. -/
  clock : W → Span → Nat

structure Failure where
  result : PageResult
  error : Error

def Failure.message (f : Failure) : String :=
  "page '" ++ f.result.pageName ++ "' failed: " ++ f.error.message

variable {W : Type}

def Equipment.now (eq : Equipment W) (s : State W) : Nat := eq.clock s.world s.elapsed

/-- Opens, captures, recognizes and checks a page. The answer is the picture with the outcomes. -/
def inspect (eq : Equipment W) (o : Options) (page : Page) (s : State W) :
    Except Error (String × List Check.Outcome) × State W :=
  match eq.target.navigate page.route s.world with
  | (.error e, w) => (.error (.capture e), { s with world := w })
  | (.ok (), w) =>
    match capture eq.target o.extent { s with world := w } with
    | (.error e, s) => (.error (.capture e), s)
    | (.ok artifact, s) =>
      if o.skipServiceCheck then (.ok (artifact, []), s)
      else match recognize eq.recognizer o.limits artifact s with
      | (.error e, s) => (.error (.recognition e), s)
      | (.ok r, s) => (.ok (artifact, Check.evaluate r (page.checks o.tolerance)), s)

def validate (eq : Equipment W) (o : Options) (page : Page) (s : State W) :
    Except Failure PageResult × State W :=
  let (outcome, s') := inspect eq o page s
  let durationMs := (eq.now s' - eq.now s) / 1000000
  let timestamp := Moment.ofNanos (eq.now s')
  match outcome with
  | .ok (artifact, checks) =>
    (.ok { pageName := page.name, route := page.route, passed := Check.allPassed checks,
           checks := checks, screenshot := some artifact, error := none,
           durationMs := durationMs, timestamp := timestamp }, s')
  | .error e =>
    (.error { result := { pageName := page.name, route := page.route, passed := false,
                          checks := [], screenshot := s'.evidence.artifact,
                          error := some e.message, durationMs := durationMs,
                          timestamp := timestamp },
              error := e }, s')

/-- Whether the program crashes on a page: while it makes its picture, or while it counts the rows of the
tables that were recognized on it. -/
def crashesOn (eq : Equipment W) (o : Options) (page : Page) (s : State W) : Bool :=
  match inspect eq o page s with
  | (.error e, _) => e.isCrash
  | (.ok _, s') =>
    s'.evidence.result.any fun r => (Check.evaluate? r (page.checks o.tolerance)).isNone

/-- What comes of a page; there is no outcome if the program crashes on it. -/
def validate? (eq : Equipment W) (o : Options) (page : Page) (s : State W) :
    Option (Except Failure PageResult) × State W :=
  let (outcome, s') := validate eq o page s
  (if crashesOn eq o page s then none else some outcome, s')

end PageAudit.Audit
