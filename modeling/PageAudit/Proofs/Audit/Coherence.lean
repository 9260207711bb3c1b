import PageAudit.Proofs.Audit.Operations

/-!
# Evidence agrees with what was seen

A history keeps every answer of the target and of the recognizer. Whatever is done, in whatever
order and wherever it fails, the evidence is the last picture of the history together with what the
last recognition of that picture returned.
-/

namespace PageAudit.Audit

open Capture (Target)
open Recognition (Recognizer Reply Result)

variable {W : Type} {t : Target W} {r : Recognizer W} {limits : Limits}

/-! ## Histories -/

inductive Observation where
  | capture (answer : Except Capture.Error String)
  | recognition (artifact : String) (reply : Reply)

namespace Observation

def picture : Observation → Option String
  | capture (.ok artifact) => some artifact
  | _ => none

/-- What a recognition returned, unless it threw an error. -/
def result (limits : Limits) : Observation → Option Result
  | capture _ => none
  | recognition _ reply => (returned limits reply).toOption

end Observation

/-- The last picture of a history, which has the latest first. -/
def lastPicture (history : List Observation) : Option String :=
  history.findSome? Observation.picture

def sinceLastPicture (history : List Observation) : List Observation :=
  history.takeWhile (·.picture.isNone)

/-- The evidence is what the history tells of the last picture. -/
structure Coherent (limits : Limits) (history : List Observation) (e : Evidence) : Prop where
  artifact : e.artifact = lastPicture history
  /-- Nothing but the last picture has been recognized since it was taken. -/
  own (artifact : String) (reply : Reply) :
    .recognition artifact reply ∈ sinceLastPicture history → e.artifact = some artifact
  result : e.result = (sinceLastPicture history).findSome? (Observation.result limits)

section Recalling

variable {history : List Observation} {e : Evidence}

theorem result_afterCapture
    (h : e.result = (sinceLastPicture history).findSome? (Observation.result limits))
    (answer : Except Capture.Error String) :
    (e.afterCapture answer).result =
      (sinceLastPicture (.capture answer :: history)).findSome? (Observation.result limits) := by
  cases answer with
  | ok artifact => rfl
  | error cause => exact h

theorem result_afterRecognition
    (h : e.result = (sinceLastPicture history).findSome? (Observation.result limits))
    (artifact : String) (reply : Reply) :
    (e.afterRecognition (returned limits reply)).result =
      (sinceLastPicture (.recognition artifact reply :: history)).findSome?
        (Observation.result limits) := by
  have hsince : sinceLastPicture (.recognition artifact reply :: history) =
      .recognition artifact reply :: sinceLastPicture history := rfl
  rw [hsince, List.findSome?_cons, Observation.result]
  cases returned limits reply with
  | ok x => rfl
  | error cause => exact h

end Recalling

theorem coherent_nil (limits : Limits) : Coherent limits [] .none :=
  ⟨rfl, fun _ _ h => absurd h List.not_mem_nil, rfl⟩

theorem Coherent.capture {history : List Observation} {e : Evidence}
    (h : Coherent limits history e) (answer : Except Capture.Error String) :
    Coherent limits (.capture answer :: history) (e.afterCapture answer) := by
  refine ⟨?_, ?_, result_afterCapture h.result answer⟩
  · cases answer with
    | ok artifact => rfl
    | error cause => exact h.artifact
  · intro artifact reply hmem
    cases answer with
    | ok _ => exact absurd hmem List.not_mem_nil
    | error cause => exact h.own artifact reply ((List.mem_cons.mp hmem).resolve_left (by simp))

theorem Coherent.recognize {history : List Observation} {e : Evidence}
    (h : Coherent limits history e) {artifact : String} (hartifact : e.artifact = some artifact)
    (reply : Reply) :
    Coherent limits (.recognition artifact reply :: history)
      (e.afterRecognition (returned limits reply)) := by
  have hsame : (e.afterRecognition (returned limits reply)).artifact = e.artifact := by
    cases returned limits reply <;> rfl
  refine ⟨hsame.trans h.artifact, fun artifact' reply' hmem => ?_,
    result_afterRecognition h.result artifact reply⟩
  rw [hsame]
  rcases List.mem_cons.mp hmem with heq | hmem
  · injection heq with heq
    rw [heq, hartifact]
  · exact h.own artifact' reply' hmem

/-! ## Watching -/

structure Watched (W : Type) where
  world : W
  history : List Observation

def watchTarget (t : Target W) : Target (Watched W) where
  source := t.source
  navigate := fun route v =>
    let (answer, world) := t.navigate route v.world
    (answer, ⟨world, v.history⟩)
  capture := fun extent v =>
    let (answer, world) := t.capture extent v.world
    (answer, ⟨world, .capture answer :: v.history⟩)

def watchRecognizer (r : Recognizer W) : Recognizer (Watched W) where
  recognize := fun artifact v =>
    let (reply, world) := r.recognize artifact v.world
    (reply, ⟨world, .recognition artifact reply :: v.history⟩)

theorem watched_mirrors (t : Target W) (r : Recognizer W) :
    Mirrors Watched.world (watchTarget t) (watchRecognizer r) t r :=
  ⟨fun _ _ => rfl, fun _ _ => rfl, fun _ _ => rfl⟩

abbrev Attested (limits : Limits) (s : State (Watched W)) : Prop :=
  Coherent limits s.world.history s.evidence

theorem attested_kept (t : Target W) (r : Recognizer W) (limits : Limits) :
    Kept (watchTarget t) (watchRecognizer r) limits (Attested limits) where
  capture extent s h := by
    rw [capture_eq]
    exact h.capture _
  recognize hartifact h := by
    rw [recognize_eq]
    exact h.recognize hartifact _
  pause _ _ h := h

/-- After any operations, and at every moment of the next one, the evidence agrees with the history
of the run that is watched, which differs in nothing from the run that is not. An operation that
throws an error has taken some steps to their end, and left the evidence as it was after those. -/
theorem evidence_coherent (t : Target W) (r : Recognizer W) (limits : Limits)
    (ops : List Operation) (w : W) :
    let s := performAll t r limits ops (.start w)
    let watched :=
      performAll (watchTarget t) (watchRecognizer r) limits ops (.start ⟨w, []⟩)
    watched.map Watched.world = s ∧
      (∀ v, Steps (watchTarget t) (watchRecognizer r) limits watched v →
        Coherent limits v.world.history v.evidence) ∧
      ∀ op : Operation, match op.perform t r limits s with
        | (none, s') => Steps t r limits s s'
        | (some e, s') => ∃ s₁, Steps t r limits s s₁ ∧ Throws t r limits s₁ e s' ∧
            s'.evidence = s₁.evidence := by
  intro s watched
  have hwatched : Attested limits watched := 
    (attested_kept t r limits).performAll ops (coherent_nil limits)
  refine ⟨(watched_mirrors t r).performAll_map limits ops _,
    fun v hv => (attested_kept t r limits).steps hv hwatched, ?_⟩
  intro op
  have hends := op.perform_ends t r limits s
  rcases hop : op.perform t r limits s with ⟨_ | e, s'⟩
  · rw [hop] at hends
    cases hends with
    | done hsteps => exact hsteps
  · rw [hop] at hends
    cases hends with
    | thrown hsteps hthrows => exact ⟨_, hsteps, hthrows, hthrows.evidence⟩

end PageAudit.Audit
