import PageAudit.Proofs.Audit.Mirrors
import Mathlib.Logic.Relation

/-!
# What can be done with evidence

All that is done with evidence is made of steps: captures, recognitions of the last picture, and
pauses. An operation takes steps that come to their end and at most one last step that throws an
error, which leaves the evidence as it was.
-/

namespace PageAudit.Audit

open Capture (Extent Target)
open Recognition (Recognizer)

variable {V W : Type} {t : Target W} {r : Recognizer W} {limits : Limits} {s s' : State W}

/-! ## Operations -/

inductive Operation where
  | capture (extent : Extent)
  /-- Recognizes the last picture, if there is one. -/
  | recognize
  | recognizeLast
  | captureAndRecognize (extent : Extent)
  | waitForText (text : String) (tolerance : Double) (attempts : Nat) (interval : Span)

def thrown {ε α : Type} (cause : ε → Error) : Except ε α → Option Error
  | .ok _ => none
  | .error e => some (cause e)

/-- What comes of an operation: the error that it throws, and the state after it. -/
def Operation.perform (t : Target W) (r : Recognizer W) (limits : Limits) (s : State W) :
    Operation → Option Error × State W
  | capture extent => Prod.map (thrown .capture) id (Audit.capture t extent s)
  | recognize =>
    match s.evidence.artifact with
    | none => (none, s)
    | some artifact => Prod.map (thrown .recognition) id (Audit.recognize r limits artifact s)
  | recognizeLast => Prod.map (thrown .recognition) id (Audit.recognizeLast r limits s)
  | captureAndRecognize extent =>
    Prod.map (thrown id) id (Audit.captureAndRecognize t r limits extent s)
  | waitForText text tolerance attempts interval =>
    Prod.map (thrown id) id (Audit.waitForText t r limits text tolerance attempts interval s)

/-- The state after operations, whether or not they throw errors. -/
def performAll (t : Target W) (r : Recognizer W) (limits : Limits) (ops : List Operation)
    (s : State W) : State W :=
  ops.foldl (fun s op => (op.perform t r limits s).2) s

section Mirrors

variable {f : V → W} {t' : Target V} {r' : Recognizer V}

theorem Mirrors.perform_map (m : Mirrors f t' r' t r) (limits : Limits) (op : Operation)
    (s : State V) :
    Prod.map id (State.map f) (op.perform t' r' limits s) = op.perform t r limits (s.map f) := by
  cases op with
  | capture extent =>
      simp only [Operation.perform]
      rw [← m.capture_map]
      rfl
  | recognize =>
      have hartifact : (s.map f).evidence.artifact = s.evidence.artifact := rfl
      simp only [Operation.perform, hartifact]
      cases s.evidence.artifact with
      | none => rfl
      | some artifact =>
          simp only
          rw [← m.recognize_map]
          rfl
  | recognizeLast =>
      simp only [Operation.perform]
      rw [← m.recognizeLast_map]
      rfl
  | captureAndRecognize extent =>
      simp only [Operation.perform]
      rw [← m.captureAndRecognize_map]
      rfl
  | waitForText text tolerance attempts interval =>
      simp only [Operation.perform, Audit.waitForText]
      rw [← m.waitAtMost_map]
      rfl

theorem Mirrors.performAll_map (m : Mirrors f t' r' t r) (limits : Limits) (ops : List Operation)
    (s : State V) :
    (performAll t' r' limits ops s).map f = performAll t r limits ops (s.map f) := by
  induction ops generalizing s with
  | nil => rfl
  | cons op ops ih =>
      have hfirst := congrArg Prod.snd (m.perform_map limits op s)
      simp only [Prod.map_snd] at hfirst
      simp only [performAll, List.foldl_cons] at ih ⊢
      rw [ih, hfirst]

end Mirrors

/-! ## Steps -/

/-- A step that comes to its end. -/
inductive Step (t : Target W) (r : Recognizer W) (limits : Limits) : State W → State W → Prop where
  | capture {s s' : State W} {extent : Extent} {artifact : String} :
      capture t extent s = (.ok artifact, s') → Step t r limits s s'
  | recognize {s s' : State W} {artifact : String} {x : Recognition.Result} :
      s.evidence.artifact = some artifact → recognize r limits artifact s = (.ok x, s') →
      Step t r limits s s'
  | pause {s : State W} {interval : Span} : Step t r limits s (s.pause interval)

/-- A step that throws an error. -/
inductive Throws (t : Target W) (r : Recognizer W) (limits : Limits) :
    State W → Error → State W → Prop where
  | capture {s s' : State W} {extent : Extent} {e : Capture.Error} :
      capture t extent s = (.error e, s') → Throws t r limits s (.capture e) s'
  | recognize {s s' : State W} {artifact : String} {e : Recognition.Error} :
      s.evidence.artifact = some artifact → recognize r limits artifact s = (.error e, s') →
      Throws t r limits s (.recognition e) s'
  | noCapture {s : State W} :
      s.evidence.artifact = none → Throws t r limits s (.recognition .noCapture) s

abbrev Steps (t : Target W) (r : Recognizer W) (limits : Limits) : State W → State W → Prop :=
  Relation.ReflTransGen (Step t r limits)

theorem Throws.evidence {e : Error} (h : Throws t r limits s e s') : s'.evidence = s.evidence := by
  cases h with
  | capture h =>
      rw [capture_eq, Prod.mk.injEq] at h
      obtain ⟨houtcome, rfl⟩ := h
      simp only [houtcome, Evidence.afterCapture]
  | recognize hartifact h =>
      rw [recognize_eq, Prod.mk.injEq] at h
      obtain ⟨houtcome, rfl⟩ := h
      simp only [houtcome, Evidence.afterRecognition]
  | noCapture => rfl

/-! ## Operations are made of steps -/

/-- How what was begun ends: by steps that come to their end, and after them perhaps by an error. -/
inductive Ends (t : Target W) (r : Recognizer W) (limits : Limits) (s : State W) :
    Option Error → State W → Prop where
  | done {s' : State W} : Steps t r limits s s' → Ends t r limits s none s'
  | thrown {s₁ s' : State W} {e : Error} : Steps t r limits s s₁ → Throws t r limits s₁ e s' →
      Ends t r limits s (some e) s'

/-- What begins after steps ends as if it had begun before them. -/
theorem Ends.after {s₁ : State W} {error : Option Error} (h : Ends t r limits s₁ error s')
    (hsteps : Steps t r limits s s₁) : Ends t r limits s error s' := by
  cases h with
  | done h => exact .done (hsteps.trans h)
  | thrown h hthrows => exact .thrown (hsteps.trans h) hthrows

variable (t r limits)

theorem capture_ends (extent : Extent) (s : State W) :
    Ends t r limits s (thrown .capture (capture t extent s).1) (capture t extent s).2 := by
  rcases h : capture t extent s with ⟨e | artifact, s₁⟩
  · exact .thrown .refl (.capture h)
  · exact .done (.single (.capture h))

theorem recognize_ends {artifact : String} (hartifact : s.evidence.artifact = some artifact) :
    Ends t r limits s (thrown .recognition (recognize r limits artifact s).1)
      (recognize r limits artifact s).2 := by
  rcases h : recognize r limits artifact s with ⟨e | x, s₁⟩
  · exact .thrown .refl (.recognize hartifact h)
  · exact .done (.single (.recognize hartifact h))

theorem recognizeLast_ends (s : State W) :
    Ends t r limits s (thrown .recognition (recognizeLast r limits s).1)
      (recognizeLast r limits s).2 := by
  unfold recognizeLast
  cases hartifact : s.evidence.artifact with
  | none => exact .thrown .refl (.noCapture hartifact)
  | some artifact => exact recognize_ends t r limits hartifact

theorem captureAndRecognize_ends (extent : Extent) (s : State W) :
    Ends t r limits s (thrown id (captureAndRecognize t r limits extent s).1)
      (captureAndRecognize t r limits extent s).2 := by
  unfold captureAndRecognize
  rcases hcap : capture t extent s with ⟨e | artifact, s₁⟩
  · exact .thrown .refl (.capture hcap)
  · have hends :=
      (recognize_ends t r limits (artifact_of_capture hcap)).after (.single (.capture hcap))
    simp only
    rcases hrec : recognize r limits artifact s₁ with ⟨e | x, s₂⟩
    · rw [hrec] at hends
      exact hends
    · rw [hrec] at hends
      exact hends

theorem waitAtMost_ends (text : String) (tolerance : Double) (interval : Span) (count : Nat)
    (s : State W) :
    Ends t r limits s (thrown id (waitAtMost t r limits text tolerance interval count s).1)
      (waitAtMost t r limits text tolerance interval count s).2 := by
  induction count generalizing s with
  | zero => exact .done .refl
  | succ count ih =>
      have hfirst := captureAndRecognize_ends t r limits .viewport s
      simp only [waitAtMost]
      rcases hv : captureAndRecognize t r limits .viewport s with ⟨e | x, s₁⟩
      · rw [hv] at hfirst
        exact hfirst
      · rw [hv] at hfirst
        cases hfirst with
        | done hsteps =>
            simp only
            cases s₁.evidence.containsText text tolerance with
            | true => exact .done hsteps
            | false =>
                simp only [Bool.false_eq_true, ↓reduceIte]
                cases count with
                | zero => exact .done hsteps
                | succ count => exact (ih (s₁.pause interval)).after (hsteps.tail .pause)

theorem Operation.perform_ends (op : Operation) (s : State W) :
    Ends t r limits s (op.perform t r limits s).1 (op.perform t r limits s).2 := by
  cases op with
  | capture extent => exact capture_ends t r limits extent s
  | recognize =>
      unfold perform
      cases hartifact : s.evidence.artifact with
      | none => exact .done .refl
      | some artifact => exact recognize_ends t r limits hartifact
  | recognizeLast => exact recognizeLast_ends t r limits s
  | captureAndRecognize extent => exact captureAndRecognize_ends t r limits extent s
  | waitForText text tolerance attempts interval =>
      exact waitAtMost_ends t r limits text tolerance interval (max attempts 1) s

/-! ## What every step keeps -/

variable {t r limits}

/-- A property of states that captures, recognitions of the last picture and pauses keep, whether or
not they throw errors. -/
structure Kept (t : Target W) (r : Recognizer W) (limits : Limits) (P : State W → Prop) : Prop where
  capture (extent : Extent) {s : State W} : P s → P (Audit.capture t extent s).2
  recognize {artifact : String} {s : State W} : s.evidence.artifact = some artifact → P s →
    P (Audit.recognize r limits artifact s).2
  pause (interval : Span) {s : State W} : P s → P (s.pause interval)

namespace Kept

variable {P : State W → Prop}

theorem step (k : Kept t r limits P) (h : Step t r limits s s') (hs : P s) : P s' := by
  cases h with
  | @capture _ extent _ h =>
      have hafter := k.capture extent hs
      rwa [h] at hafter
  | recognize hartifact h =>
      have hafter := k.recognize hartifact hs
      rwa [h] at hafter
  | @pause interval => exact k.pause interval hs

theorem throws (k : Kept t r limits P) {e : Error} (h : Throws t r limits s e s') (hs : P s) :
    P s' := by
  cases h with
  | @capture _ extent _ h =>
      have hafter := k.capture extent hs
      rwa [h] at hafter
  | recognize hartifact h =>
      have hafter := k.recognize hartifact hs
      rwa [h] at hafter
  | noCapture => exact hs

theorem steps (k : Kept t r limits P) (h : Steps t r limits s s') (hs : P s) : P s' := by
  induction h with
  | refl => exact hs
  | tail _ hstep ih => exact k.step hstep ih

theorem ends (k : Kept t r limits P) {error : Option Error} (h : Ends t r limits s error s')
    (hs : P s) : P s' := by
  cases h with
  | done h => exact k.steps h hs
  | thrown h hthrows => exact k.throws hthrows (k.steps h hs)

theorem perform (k : Kept t r limits P) (op : Operation) (hs : P s) :
    P (op.perform t r limits s).2 :=
  k.ends (op.perform_ends t r limits s) hs

theorem performAll (k : Kept t r limits P) (ops : List Operation) (hs : P s) :
    P (performAll t r limits ops s) := by
  induction ops generalizing s with
  | nil => exact hs
  | cons op ops ih => exact ih (k.perform op hs)

end Kept

end PageAudit.Audit
