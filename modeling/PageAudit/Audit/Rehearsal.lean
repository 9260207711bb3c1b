import PageAudit.Audit.Trace

/-!
Audits without a machine: a target and a recognizer that answer from scripts. A route may have
answers of its own; the others take theirs from the common scripts.
-/

namespace PageAudit.Audit

/-- Answers that are given in turn, the last of them again and again. -/
structure Script (α : Type) where
  answers : List α
  used : Nat

namespace Script

variable {α : Type}

def ofList (answers : List α) : Script α := ⟨answers, 0⟩

def next (s : Script α) : Option α × Script α :=
  (s.answers[min s.used (s.answers.length - 1)]?, ⟨s.answers, s.used + 1⟩)

end Script

structure Cue where
  navigation : Except Capture.Error Unit
  /-- The path of the picture, if it is not a numbered one. -/
  capture : Except Capture.Error (Option String)
  reply : Option Recognition.Reply

structure Rehearsal where
  replies : Script Recognition.Reply
  captures : Script (Except Capture.Error (Option String))
  navigations : Script (Except Capture.Error Unit)
  routes : List (String × Cue)
  current : String

namespace Rehearsal

def cue? (w : Rehearsal) : Option Cue := w.routes.lookup w.current

/-- The reply that belongs to the picture of a route; the last route that gives the picture wins. -/
def replyAt? (w : Rehearsal) (path : String) : Option Recognition.Reply :=
  w.routes.reverse.findSome? fun (_, cue) =>
    match cue.capture with
    | .ok (some p) => if p = path then cue.reply else none
    | _ => none

/-- Pictures without a path of their own are numbered in the order of the captures. -/
def target : Capture.Target Rehearsal where
  source := "mock"
  navigate := fun route w =>
    let w := { w with current := route }
    match w.cue? with
    | some cue => (cue.navigation, w)
    | none =>
      let (answer, rest) := w.navigations.next
      (answer.getD (.ok ()), { w with navigations := rest })
  capture := fun _ w =>
    let (answer, rest) := w.captures.next
    let w := { w with captures := rest }
    let answer := ((w.cue?.map Cue.capture).or answer).getD (.ok none)
    (answer.map (·.getD ("/shots/" ++ toString rest.used ++ ".png")), w)

def recognizer : Recognition.Recognizer Rehearsal where
  recognize := fun path w =>
    match w.replyAt? path with
    | some r => (r, w)
    | none =>
      let (answer, rest) := w.replies.next
      (answer.getD ⟨.ok default, .zero⟩, { w with replies := rest })

/-- Time stands still apart from what the replies take. -/
def equipment : Equipment (Traced Rehearsal) :=
  Equipment.traced ⟨target, recognizer, fun _ spent => spent.nanos⟩

end Rehearsal

end PageAudit.Audit
