import PageAudit.Audit.Suite
import PageAudit.Proofs.Audit.Steps

/-!
# Equipment that mirrors other equipment

A target and a recognizer mirror others if they give the same answers in worlds that are only
richer. Whatever is done with them then comes out the same, so that a run can be watched without
being disturbed.
-/

namespace PageAudit.Audit

open Capture (Extent Target)
open Recognition (Recognizer)

variable {V W : Type}

def State.map (f : V → W) (s : State V) : State W := ⟨s.evidence, s.elapsed, f s.world⟩

/-- The answers are the same, and `f` makes of the next world what it made of the last. -/
structure Mirrors (f : V → W) (t' : Target V) (r' : Recognizer V) (t : Target W)
    (r : Recognizer W) : Prop where
  navigate (route : String) (v : V) :
    Prod.map id f (t'.navigate route v) = t.navigate route (f v)
  capture (extent : Extent) (v : V) :
    Prod.map id f (t'.capture extent v) = t.capture extent (f v)
  recognize (artifact : String) (v : V) :
    Prod.map id f (r'.recognize artifact v) = r.recognize artifact (f v)

namespace Mirrors

variable {f : V → W} {t' : Target V} {r' : Recognizer V} {t : Target W} {r : Recognizer W}

theorem capture_map (m : Mirrors f t' r' t r) (extent : Extent) (s : State V) :
    Prod.map id (State.map f) (Audit.capture t' extent s) =
      Audit.capture t extent (s.map f) := by
  rw [capture_eq, capture_eq, State.map, ← m.capture]
  rfl

theorem recognize_map (m : Mirrors f t' r' t r) (limits : Limits) (artifact : String)
    (s : State V) :
    Prod.map id (State.map f) (Audit.recognize r' limits artifact s) =
      Audit.recognize r limits artifact (s.map f) := by
  rw [recognize_eq, recognize_eq, State.map, ← m.recognize]
  rfl

theorem recognizeLast_map (m : Mirrors f t' r' t r) (limits : Limits) (s : State V) :
    Prod.map id (State.map f) (recognizeLast r' limits s) = recognizeLast r limits (s.map f) := by
  unfold recognizeLast
  have hartifact : (s.map f).evidence.artifact = s.evidence.artifact := rfl
  rw [hartifact]
  cases s.evidence.artifact with
  | none => rfl
  | some artifact => exact m.recognize_map limits artifact s

theorem captureAndRecognize_map (m : Mirrors f t' r' t r) (limits : Limits) (extent : Extent)
    (s : State V) :
    Prod.map id (State.map f) (captureAndRecognize t' r' limits extent s) =
      captureAndRecognize t r limits extent (s.map f) := by
  unfold captureAndRecognize
  rw [← m.capture_map]
  rcases Audit.capture t' extent s with ⟨e | artifact, s₁⟩
  · rfl
  · simp only [Prod.map, id_eq]
    rw [← m.recognize_map]
    rcases Audit.recognize r' limits artifact s₁ with ⟨e | x, s₂⟩
    · rfl
    · rfl

theorem waitAtMost_map (m : Mirrors f t' r' t r) (limits : Limits) (text : String)
    (tolerance : Double) (interval : Span) (count : Nat) (s : State V) :
    Prod.map id (State.map f) (waitAtMost t' r' limits text tolerance interval count s) =
      waitAtMost t r limits text tolerance interval count (s.map f) := by
  induction count generalizing s with
  | zero => rfl
  | succ count ih =>
      simp only [waitAtMost]
      rw [← m.captureAndRecognize_map]
      rcases captureAndRecognize t' r' limits .viewport s with ⟨e | x, s₁⟩
      · rfl
      · have hevidence : (s₁.map f).evidence = s₁.evidence := rfl
        simp only [Prod.map, id_eq, hevidence]
        cases s₁.evidence.containsText text tolerance with
        | true => rfl
        | false =>
            simp only [Bool.false_eq_true, ↓reduceIte]
            cases count with
            | zero => rfl
            | succ count => exact ih (s₁.pause interval)

variable {eq' : Equipment V} {eq : Equipment W}

theorem inspect_map (m : Mirrors f eq'.target eq'.recognizer eq.target eq.recognizer)
    (o : Options) (page : Page) (s : State V) :
    Prod.map id (State.map f) (inspect eq' o page s) = inspect eq o page (s.map f) := by
  unfold inspect
  have hworld : (s.map f).world = f s.world := rfl
  rw [hworld, ← m.navigate]
  rcases eq'.target.navigate page.route s.world with ⟨e | _, v⟩
  · rfl
  · have hopen : { s.map f with world := f v } = State.map f { s with world := v } := rfl
    simp only [Prod.map, id_eq, hopen]
    rw [← m.capture_map]
    rcases Audit.capture eq'.target o.extent { s with world := v } with ⟨e | artifact, s₁⟩
    · rfl
    · cases o.skipServiceCheck with
      | true => rfl
      | false =>
          simp only [Prod.map, id_eq, Bool.false_eq_true, ↓reduceIte]
          rw [← m.recognize_map]
          rcases Audit.recognize eq'.recognizer o.limits artifact s₁ with ⟨e | x, s₂⟩
          · rfl
          · rfl

theorem validate_map (m : Mirrors f eq'.target eq'.recognizer eq.target eq.recognizer)
    (hclock : ∀ v, eq'.clock v = eq.clock (f v)) (o : Options) (page : Page) (s : State V) :
    Prod.map id (State.map f) (validate eq' o page s) = validate eq o page (s.map f) := by
  have hnow (s : State V) : eq.now (s.map f) = eq'.now s := by
    simp only [Equipment.now, State.map, hclock]
  unfold validate
  rw [← m.inspect_map, hnow]
  rcases inspect eq' o page s with ⟨e | ⟨artifact, checks⟩, s₁⟩
  · simp only [Prod.map, id_eq, hnow]
    rfl
  · simp only [Prod.map, id_eq, hnow]

theorem visit_map (m : Mirrors f eq'.target eq'.recognizer eq.target eq.recognizer)
    (hclock : ∀ v, eq'.clock v = eq.clock (f v)) (o : Options) (goOn : Bool) (pages : List Page)
    (s : State V) :
    Prod.map id (Prod.map id (State.map f)) (visit eq' o goOn pages s) =
      visit eq o goOn pages (s.map f) := by
  induction pages generalizing s with
  | nil => rfl
  | cons page rest ih =>
      have hforget : (s.map f).forget = s.forget.map f := rfl
      simp only [visit]
      rw [hforget, ← m.validate_map hclock]
      rcases validate eq' o page s.forget with ⟨failure | x, s₁⟩
      · cases goOn with
        | true =>
            simp only [Prod.map, id_eq, if_true]
            rw [← ih]
            rfl
        | false => rfl
      · simp only [Prod.map, id_eq]
        rw [← ih]
        rfl

theorem runPages_map (m : Mirrors f eq'.target eq'.recognizer eq.target eq.recognizer)
    (hclock : ∀ v, eq'.clock v = eq.clock (f v)) (policy : Policy) (o : Options)
    (pages : List Page) (s : State V) :
    Prod.map id (State.map f) (runPages eq' policy o pages s) =
      runPages eq policy o pages (s.map f) := by
  have hnow (s : State V) : eq.now (s.map f) = eq'.now s := by
    simp only [Equipment.now, State.map, hclock]
  unfold runPages
  rw [← m.visit_map hclock, hnow]
  rcases visit eq' (policy.apply o) policy.continueOnFailure pages s with
    ⟨results, _ | ⟨page, error⟩, s₁⟩
  · simp only [Prod.map, id_eq, hnow]
  · simp only [Prod.map, id_eq, hnow]

theorem runSuite_map (m : Mirrors f eq'.target eq'.recognizer eq.target eq.recognizer)
    (hclock : ∀ v, eq'.clock v = eq.clock (f v)) (policy : Policy) (o : Options)
    (registry : Registry) (s : State V) :
    Prod.map id (State.map f) (runSuite eq' policy o registry s) =
      runSuite eq policy o registry (s.map f) :=
  m.runPages_map hclock policy o _ s

end Mirrors

end PageAudit.Audit
