import PageAudit.Capture.Target
import PageAudit.Matching
import PageAudit.Recognition.Recognizer

/-!
Evidence about the page that a target shows: its last picture and what was recognized on it. A new
picture makes the earlier recognition void, and a recognition that takes too long counts as an error.
Errors of the recognizer become results of failure, unless they are wanted as errors.

Time is told by a clock that moves in whole milliseconds: whatever takes time ends with the
millisecond in which it is over.
-/

namespace PageAudit.Audit

open Capture (Extent Target)
open Recognition (Recognizer Result)

structure Evidence where
  artifact : Option String
  result : Option Result
  deriving DecidableEq

namespace Evidence

def none : Evidence := ⟨.none, .none⟩

instance : Inhabited Evidence := ⟨none⟩

def ofArtifact (artifact : String) : Evidence := ⟨some artifact, .none⟩

def withResult (e : Evidence) (result : Result) : Evidence := { e with result := some result }

/-- Whether the text was recognized. Without a recognition, or after a failed one, no text was. -/
def containsText (e : Evidence) (text : String) (tolerance : Double) : Bool :=
  match e.result with
  | some r => !r.isFailed && Matching.isMatch r.rawText text .partially tolerance
  | .none => false

end Evidence

structure Limits where
  timeout : Span
  /-- Whether errors are wanted as errors. -/
  raise : Bool
  deriving DecidableEq

inductive Error where
  | capture (cause : Capture.Error)
  | recognition (cause : Recognition.Error)

def Error.message : Error → String
  | capture cause => cause.message
  | recognition cause => cause.message

/-- Whether it is no error that the program could go on with. -/
def Error.isCrash : Error → Bool
  | capture .outOfRange => true
  | _ => false

/-- The state of an audit: the evidence, the time spent on recognitions and pauses, and the world. -/
structure State (W : Type) where
  evidence : Evidence
  elapsed : Span
  world : W

variable {W : Type}

namespace State

def start (world : W) : State W := ⟨.none, .zero, world⟩

def forget (s : State W) : State W := { s with evidence := .none }

def pause (s : State W) (span : Span) : State W :=
  { s with elapsed := s.elapsed + span.roundedUp }

end State

/-! ## Single steps -/

def capture (t : Target W) (extent : Extent) (s : State W) :
    Except Capture.Error String × State W :=
  match t.capture extent s.world with
  | (.error e, w) => (.error e, { s with world := w })
  | (.ok artifact, w) =>
    (.ok artifact, { s with evidence := Evidence.ofArtifact artifact, world := w })

/-- The outcome of a recognition within its time; one that ends together with its time has made it. -/
def outcomeWithin (timeout : Span) (reply : Recognition.Reply) :
    Except Recognition.Error Result :=
  if reply.delay.roundedUp.nanos ≤ timeout.roundedUp.nanos then reply.outcome
  else .error (.timeout timeout)

def timeWithin (timeout : Span) (reply : Recognition.Reply) : Span :=
  reply.delay.roundedUp.min timeout.roundedUp

def recognize (r : Recognizer W) (limits : Limits) (artifact : String) (s : State W) :
    Except Recognition.Error Result × State W :=
  let (reply, w) := r.recognize artifact s.world
  let s : State W := ⟨s.evidence, s.elapsed + timeWithin limits.timeout reply, w⟩
  match outcomeWithin limits.timeout reply with
  | .ok result => (.ok result, { s with evidence := s.evidence.withResult result })
  | .error e =>
    if limits.raise then (.error e, s)
    else
      let result := Result.failed e.message
      (.ok result, { s with evidence := s.evidence.withResult result })

def recognizeLast (r : Recognizer W) (limits : Limits) (s : State W) :
    Except Recognition.Error Result × State W :=
  match s.evidence.artifact with
  | none => (.error .noCapture, s)
  | some artifact => recognize r limits artifact s

def captureAndRecognize (t : Target W) (r : Recognizer W) (limits : Limits) (extent : Extent)
    (s : State W) : Except Error Result × State W :=
  match capture t extent s with
  | (.error e, s) => (.error (.capture e), s)
  | (.ok artifact, s) =>
    match recognize r limits artifact s with
    | (.error e, s) => (.error (.recognition e), s)
    | (.ok result, s) => (.ok result, s)

/-! ## Waiting -/

def waitAtMost (t : Target W) (r : Recognizer W) (limits : Limits) (text : String)
    (tolerance : Double) (interval : Span) : Nat → State W → Except Error Bool × State W
  | 0, s => (.ok false, s)
  | count + 1, s =>
    match captureAndRecognize t r limits .viewport s with
    | (.error e, s) => (.error e, s)
    | (.ok _, s) =>
      if s.evidence.containsText text tolerance then (.ok true, s)
      else
        waitAtMost t r limits text tolerance interval count
          (if count = 0 then s else s.pause interval)

/-- Waits for a text. There is always a first attempt. -/
def waitForText (t : Target W) (r : Recognizer W) (limits : Limits) (text : String)
    (tolerance : Double) (attempts : Nat) (interval : Span) (s : State W) :
    Except Error Bool × State W :=
  waitAtMost t r limits text tolerance interval (max attempts 1) s

end PageAudit.Audit
