import PageAudit.Audit.Trace
import PageAudit.Proofs.Audit.Mirrors

/-!
# Logs

A log keeps what a target and a recognizer are asked together with what they answer, in the order in
which they are asked. Equipment that keeps a log mirrors the equipment that keeps none, and a trace is
what remains of the log without the answers.
-/

namespace PageAudit.Audit

open Capture (Extent Target)
open Recognition (Recognizer Reply)

variable {W : Type}

inductive Event where
  | navigate (route : String) (answer : Except Capture.Error Unit)
  | capture (extent : Extent) (answer : Except Capture.Error String)
  | recognize (artifact : String) (reply : Reply)

namespace Event

/-- The call to the target, if the event is one. -/
def call : Event → Option Call
  | navigate route _ => some (.navigate route)
  | capture extent _ => some (.capture extent)
  | recognize _ _ => none

/-- The picture that is given to the recognizer, if the event is a recognition. -/
def recognized : Event → Option String
  | recognize artifact _ => some artifact
  | _ => none

/-- The picture that the event brings. -/
def picture : Event → Option String
  | capture _ (.ok artifact) => some artifact
  | _ => none

end Event

structure Logged (W : Type) where
  world : W
  events : List Event

def Logged.trace (v : Logged W) : Traced W :=
  ⟨v.world, v.events.filterMap Event.call, v.events.filterMap Event.recognized⟩

def logTarget (t : Target W) : Target (Logged W) where
  source := t.source
  navigate := fun route v =>
    let (answer, world) := t.navigate route v.world
    (answer, ⟨world, v.events ++ [.navigate route answer]⟩)
  capture := fun extent v =>
    let (answer, world) := t.capture extent v.world
    (answer, ⟨world, v.events ++ [.capture extent answer]⟩)

def logRecognizer (r : Recognizer W) : Recognizer (Logged W) where
  recognize := fun artifact v =>
    let (reply, world) := r.recognize artifact v.world
    (reply, ⟨world, v.events ++ [.recognize artifact reply]⟩)

def Equipment.logged (eq : Equipment W) : Equipment (Logged W) :=
  ⟨logTarget eq.target, logRecognizer eq.recognizer, fun v => eq.clock v.world⟩

theorem logTarget_capture (t : Target W) (extent : Extent) (v : Logged W) :
    (logTarget t).capture extent v = ((t.capture extent v.world).1,
      ⟨(t.capture extent v.world).2, v.events ++ [.capture extent (t.capture extent v.world).1]⟩) :=
  rfl

theorem logRecognizer_recognize (r : Recognizer W) (artifact : String) (v : Logged W) :
    (logRecognizer r).recognize artifact v = ((r.recognize artifact v.world).1,
      ⟨(r.recognize artifact v.world).2,
        v.events ++ [.recognize artifact (r.recognize artifact v.world).1]⟩) :=
  rfl

theorem logged_mirrors (t : Target W) (r : Recognizer W) :
    Mirrors Logged.world (logTarget t) (logRecognizer r) t r :=
  ⟨fun _ _ => rfl, fun _ _ => rfl, fun _ _ => rfl⟩

/-- A trace is a log without answers. -/
theorem logged_mirrors_traced (t : Target W) (r : Recognizer W) :
    Mirrors Logged.trace (logTarget t) (logRecognizer r) (traceTarget t) (traceRecognizer r) where
  navigate route v := by simp [logTarget, traceTarget, Logged.trace, Event.call, Event.recognized]
  capture extent v := by simp [logTarget, traceTarget, Logged.trace, Event.call, Event.recognized]
  recognize artifact v := by
    simp [logRecognizer, traceRecognizer, Logged.trace, Event.call, Event.recognized]

/-! ## What the steps add to a log -/

variable {t : Target W} {r : Recognizer W} {s s' : State (Logged W)}

theorem events_of_navigate {route : String} {answer : Except Capture.Error Unit} {v v' : Logged W}
    (h : (logTarget t).navigate route v = (answer, v')) :
    v'.events = v.events ++ [.navigate route answer] := by
  injection h with hanswer hworld
  rw [← hanswer, ← hworld]

theorem events_of_capture {extent : Extent} {answer : Except Capture.Error String}
    (h : capture (logTarget t) extent s = (answer, s')) :
    s'.world.events = s.world.events ++ [.capture extent answer] := by
  rw [capture_eq, Prod.mk.injEq] at h
  obtain ⟨rfl, rfl⟩ := h
  rfl

theorem events_of_recognize {limits : Limits} {artifact : String}
    {outcome : Except Recognition.Error Recognition.Result}
    (h : recognize (logRecognizer r) limits artifact s = (outcome, s')) :
    ∃ reply, s'.world.events = s.world.events ++ [.recognize artifact reply] := by
  rw [recognize_eq, Prod.mk.injEq] at h
  obtain ⟨-, rfl⟩ := h
  exact ⟨(r.recognize artifact s.world.world).1, rfl⟩

end PageAudit.Audit
