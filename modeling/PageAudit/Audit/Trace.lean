import PageAudit.Audit.Page

/-!
Keeping a record of what an audit asks of its target and of its recognizer.
-/

namespace PageAudit.Audit

open Capture (Extent Target)
open Recognition (Recognizer)

inductive Call where
  | navigate (route : String)
  | capture (extent : Extent)
  deriving DecidableEq

/-- A world with a record of the calls to the target and of the pictures given to the recognizer. -/
structure Traced (W : Type) where
  world : W
  calls : List Call
  recognized : List String

variable {W : Type}

namespace Traced

def start (world : W) : Traced W := ⟨world, [], []⟩

end Traced

def traceTarget (t : Target W) : Target (Traced W) where
  source := t.source
  navigate := fun route w =>
    let (outcome, world) := t.navigate route w.world
    (outcome, ⟨world, w.calls ++ [.navigate route], w.recognized⟩)
  capture := fun extent w =>
    let (outcome, world) := t.capture extent w.world
    (outcome, ⟨world, w.calls ++ [.capture extent], w.recognized⟩)

def traceRecognizer (r : Recognizer W) : Recognizer (Traced W) where
  recognize := fun artifact w =>
    let (reply, world) := r.recognize artifact w.world
    (reply, ⟨world, w.calls, w.recognized ++ [artifact]⟩)

def Equipment.traced (eq : Equipment W) : Equipment (Traced W) :=
  ⟨traceTarget eq.target, traceRecognizer eq.recognizer, fun w => eq.clock w.world⟩

end PageAudit.Audit
