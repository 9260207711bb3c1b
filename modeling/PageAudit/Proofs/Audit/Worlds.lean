import PageAudit.Proofs.Audit.Visits

/-!
# What a suite keeps of the world

All that a suite does to the world is done by answers of its target and of its recognizer. What each
of these keeps is kept by the suite.
-/

namespace PageAudit.Audit

open Capture (Extent)

variable {W : Type} {eq : Equipment W} {P : W → Prop}

/-- A property of worlds that every answer of the equipment keeps. -/
structure Equipment.Keeps (eq : Equipment W) (P : W → Prop) : Prop where
  navigate (route : String) {w : W} : P w → P (eq.target.navigate route w).2
  capture (extent : Extent) {w : W} : P w → P (eq.target.capture extent w).2
  recognize (artifact : String) {w : W} : P w → P (eq.recognizer.recognize artifact w).2

namespace Equipment.Keeps

theorem kept (k : eq.Keeps P) (limits : Limits) :
    Kept eq.target eq.recognizer limits (fun s => P s.world) where
  capture extent s hs := by
    rw [capture_eq]
    exact k.capture extent hs
  recognize _ hs := by
    rw [recognize_eq]
    exact k.recognize _ hs
  pause _ _ hs := hs

theorem validate (k : eq.Keeps P) (o : Options) (page : Page) {s : State W} (hs : P s.world) :
    P (validate eq o page s).2.world := by
  obtain ⟨durationMs, timestamp, hv⟩ := validate_eq eq o page s
  rw [hv]
  exact (inspect_ends eq o page s).kept (k.kept o.limits) (fun route _ => k.navigate route) hs

theorem visit (k : eq.Keeps P) (o : Options) (goOn : Bool) (pages : List Page) {s : State W}
    (hs : P s.world) : P (visit eq o goOn pages s).2.2.world := by
  induction pages generalizing s with
  | nil => exact hs
  | cons page rest ih =>
      have hpage := k.validate o page (s := s.forget) hs
      rw [Audit.visit]
      rcases hvalidate : Audit.validate eq o page s.forget with ⟨failure | x, s₁⟩
      · rw [hvalidate] at hpage
        cases goOn with
        | true => exact ih hpage
        | false => exact hpage
      · rw [hvalidate] at hpage
        exact ih hpage

theorem runPages (k : eq.Keeps P) (policy : Policy) (o : Options) (pages : List Page)
    {s : State W} (hs : P s.world) : P (runPages eq policy o pages s).2.world := by
  rw [(runPages_eq_visit eq policy o pages s).2.2]
  exact k.visit _ _ pages hs

end Equipment.Keeps

end PageAudit.Audit
