import PageAudit.Proofs.Audit.Coherence
import PageAudit.Proofs.Audit.Policies

/-!
# Whose picture a result records

A result records the last picture there was when the page was done with. That is the page's own
picture if one was taken of it. If none was, it is the last picture of the pages before, as far as
the evidence about them has not been forgotten.
-/

namespace PageAudit.Audit

open Capture (Target)
open Recognition (Recognizer Result)

variable {W : Type} {eq : Equipment W} {o : Options} {page : Page} {s s' : State W}

/-! ## How inspections end -/

/-- The ways in which an inspection ends, with its outcome and the state after it. -/
inductive Inspection (eq : Equipment W) (o : Options) (page : Page) (s : State W) :
    Except Error (String × List Check.Outcome) → State W → Prop where
  | notOpened {e : Capture.Error} {w : W} :
      eq.target.navigate page.route s.world = (.error e, w) →
      Inspection eq o page s (.error (.capture e)) { s with world := w }
  | notCaptured {w : W} {e : Capture.Error} {s₁ : State W} :
      eq.target.navigate page.route s.world = (.ok (), w) →
      capture eq.target o.extent { s with world := w } = (.error e, s₁) →
      Inspection eq o page s (.error (.capture e)) s₁
  | captured {w : W} {artifact : String} {s₁ : State W} :
      eq.target.navigate page.route s.world = (.ok (), w) →
      capture eq.target o.extent { s with world := w } = (.ok artifact, s₁) →
      o.skipServiceCheck = true → Inspection eq o page s (.ok (artifact, [])) s₁
  | notRecognized {w : W} {artifact : String} {e : Recognition.Error} {s₁ s₂ : State W} :
      eq.target.navigate page.route s.world = (.ok (), w) →
      capture eq.target o.extent { s with world := w } = (.ok artifact, s₁) →
      o.skipServiceCheck = false → recognize eq.recognizer o.limits artifact s₁ = (.error e, s₂) →
      Inspection eq o page s (.error (.recognition e)) s₂
  | checked {w : W} {artifact : String} {x : Result} {s₁ s₂ : State W} :
      eq.target.navigate page.route s.world = (.ok (), w) →
      capture eq.target o.extent { s with world := w } = (.ok artifact, s₁) →
      o.skipServiceCheck = false → recognize eq.recognizer o.limits artifact s₁ = (.ok x, s₂) →
      Inspection eq o page s (.ok (artifact, Check.evaluate x (page.checks o.tolerance))) s₂

variable (eq o page s) in
theorem inspect_ends : Inspection eq o page s (inspect eq o page s).1 (inspect eq o page s).2 := by
  rcases hnav : eq.target.navigate page.route s.world with ⟨e | _, w⟩
  · simp only [inspect, hnav]
    exact .notOpened hnav
  · rcases hcap : capture eq.target o.extent { s with world := w } with ⟨e | artifact, s₁⟩
    · simp only [inspect, hnav, hcap]
      exact .notCaptured hnav hcap
    · cases hskip : o.skipServiceCheck with
      | true =>
          simp only [inspect, hnav, hcap, hskip, ↓reduceIte]
          exact .captured hnav hcap hskip
      | false =>
          simp only [inspect, hnav, hcap, hskip, Bool.false_eq_true, ↓reduceIte]
          rcases hrec : recognize eq.recognizer o.limits artifact s₁ with ⟨e | x, s₂⟩
          · exact .notRecognized hnav hcap hskip hrec
          · exact .checked hnav hcap hskip hrec

/-- What navigation and every step keep is kept by inspections. -/
theorem Inspection.kept {P : State W → Prop} {outcome : Except Error (String × List Check.Outcome)}
    (h : Inspection eq o page s outcome s') (k : Kept eq.target eq.recognizer o.limits P)
    (hnav : ∀ route s, P s → P { s with world := (eq.target.navigate route s.world).2 })
    (hs : P s) : P s' := by
  have hopened {outcome : Except Capture.Error Unit} {w : W}
      (hopen : eq.target.navigate page.route s.world = (outcome, w)) : P { s with world := w } := by
    have hafter := hnav page.route s hs
    rwa [hopen] at hafter
  have hcaptured {w : W} {outcome : Except Capture.Error String} {s₁ : State W}
      (hopen : eq.target.navigate page.route s.world = (.ok (), w))
      (hcap : capture eq.target o.extent { s with world := w } = (outcome, s₁)) : P s₁ := by
    have hafter := k.capture o.extent (hopened hopen)
    rwa [hcap] at hafter
  cases h with
  | notOpened hopen => exact hopened hopen
  | notCaptured hopen hcap => exact hcaptured hopen hcap
  | captured hopen hcap _ => exact hcaptured hopen hcap
  | notRecognized hopen hcap _ hrec =>
      have hafter := k.recognize (artifact_of_capture hcap) (hcaptured hopen hcap)
      rwa [hrec] at hafter
  | checked hopen hcap _ hrec =>
      have hafter := k.recognize (artifact_of_capture hcap) (hcaptured hopen hcap)
      rwa [hrec] at hafter

theorem Inspection.picture {artifact : String} {checks : List Check.Outcome}
    (h : Inspection eq o page s (.ok (artifact, checks)) s') :
    s'.evidence.artifact = some artifact := by
  cases h with
  | captured _ hcap _ => exact artifact_of_capture hcap
  | @checked _ _ _ s₁ _ _ hcap _ hrec =>
      have hsame := artifact_recognize eq.recognizer o.limits artifact s₁
      rw [hrec] at hsame
      exact hsame.trans (artifact_of_capture hcap)

variable (eq o page s) in
/-- The result of validating a page, whether or not it could be validated. -/
def recorded : PageResult := Attempt.result (validate eq o page s).1

variable (eq o page s) in
/-- A result records the last picture that there is in the end. -/
theorem screenshot_recorded :
    (recorded eq o page s).screenshot = (validate eq o page s).2.evidence.artifact := by
  obtain ⟨durationMs, timestamp, hv⟩ := validate_eq eq o page s
  have hends := inspect_ends eq o page s
  rw [recorded, hv]
  rcases h : (inspect eq o page s).1 with e | ⟨artifact, checks⟩
  · rfl
  · rw [h] at hends
    exact hends.picture.symm

variable (eq o page s) in
theorem route_recorded : (recorded eq o page s).route = page.route := by
  obtain ⟨durationMs, timestamp, hv⟩ := validate_eq eq o page s
  rw [recorded, hv]
  rcases (inspect eq o page s).1 with e | ⟨artifact, checks⟩ <;> rfl

/-! ## Watching pages -/

def Equipment.watched (eq : Equipment W) : Equipment (Watched W) :=
  ⟨watchTarget eq.target, watchRecognizer eq.recognizer, fun v => eq.clock v.world⟩

/-- The pages are validated in turn, and nothing is forgotten between them. -/
def validateInTurn (eq : Equipment W) (o : Options) : List Page → State W → State W
  | [], s => s
  | page :: rest, s => validateInTurn eq o rest (validate eq o page s).2

theorem watched_validate (eq : Equipment W) (o : Options) (page : Page) (s : State (Watched W)) :
    Prod.map id (State.map Watched.world) (validate eq.watched o page s) =
      validate eq o page (s.map Watched.world) := by
  have hmirrors : Mirrors Watched.world eq.watched.target eq.watched.recognizer eq.target
      eq.recognizer := watched_mirrors eq.target eq.recognizer
  exact hmirrors.validate_map (fun _ => rfl) o page s

theorem watched_validateInTurn (eq : Equipment W) (o : Options) (pages : List Page)
    (s : State (Watched W)) :
    (validateInTurn eq.watched o pages s).map Watched.world =
      validateInTurn eq o pages (s.map Watched.world) := by
  induction pages generalizing s with
  | nil => rfl
  | cons page rest ih =>
      have hfirst := congrArg Prod.snd (watched_validate eq o page s)
      simp only [Prod.map_snd] at hfirst
      simp only [validateInTurn]
      rw [ih, hfirst]

/-! ## Pictures of a page -/

/-- Since a moment with a history and a last picture, all pictures that were taken are in what has
been seen, and the last of them is the last picture. -/
def SeenSince (history : List Observation) (picture : Option String) (s : State (Watched W)) :
    Prop :=
  ∃ seen, s.world.history = seen ++ history ∧
    s.evidence.artifact = (lastPicture seen).or picture

theorem seenSince_recognize (r : Recognizer W) (limits : Limits) (artifact : String)
    {history : List Observation} {picture : Option String} {s : State (Watched W)}
    (h : SeenSince history picture s) :
    SeenSince history picture (recognize (watchRecognizer r) limits artifact s).2 := by
  obtain ⟨seen, hhistory, hpicture⟩ := h
  rw [SeenSince, artifact_recognize, recognize_eq]
  exact ⟨.recognition artifact (r.recognize artifact s.world.world).1 :: seen,
    by simp [watchRecognizer, hhistory], hpicture⟩

theorem seenSince_kept (t : Target W) (r : Recognizer W) (limits : Limits)
    (history : List Observation) (picture : Option String) :
    Kept (watchTarget t) (watchRecognizer r) limits (SeenSince history picture) where
  capture extent s h := by
    obtain ⟨seen, hhistory, hpicture⟩ := h
    rw [capture_eq]
    refine ⟨.capture (t.capture extent s.world.world).1 :: seen, by simp [watchTarget, hhistory], ?_⟩
    simp only [watchTarget]
    rcases (t.capture extent s.world.world).1 with e | artifact
    · exact hpicture
    · rfl
  recognize _ h := seenSince_recognize r limits _ h
  pause _ _ h := h

theorem validate_seenSince (eq : Equipment W) (o : Options) (page : Page)
    {s : State (Watched W)} {history : List Observation} {picture : Option String}
    (h : SeenSince history picture s) :
    SeenSince history picture (validate eq.watched o page s).2 := by
  obtain ⟨durationMs, timestamp, hv⟩ := validate_eq eq.watched o page s
  rw [hv]
  exact (inspect_ends eq.watched o page s).kept (seenSince_kept _ _ _ _ _) (fun _ _ h => h) h

theorem validateInTurn_seenSince (eq : Equipment W) (o : Options) (pages : List Page)
    {s : State (Watched W)} {history : List Observation} {picture : Option String}
    (h : SeenSince history picture s) :
    SeenSince history picture (validateInTurn eq.watched o pages s) := by
  induction pages generalizing s with
  | nil => exact h
  | cons page rest ih => exact ih (validate_seenSince eq o page h)

/-- The result of a page records the last picture seen while it was validated, and if there is none,
the last picture before. -/
theorem screenshot_seen (eq : Equipment W) (o : Options) (page : Page) (s : State (Watched W)) :
    ∃ seen, (validate eq.watched o page s).2.world.history = seen ++ s.world.history ∧
      (recorded eq.watched o page s).screenshot =
        (lastPicture seen).or s.evidence.artifact := by
  obtain ⟨seen, hhistory, hpicture⟩ :=
    validate_seenSince eq o page (s := s) ⟨[], rfl, rfl⟩
  exact ⟨seen, hhistory, by rw [screenshot_recorded, hpicture]⟩

theorem or_eq_own_iff {own before : Option String} :
    (own.or before = none ∨ own.or before = own) ↔ own ≠ none ∨ before = none := by
  cases own <;> cases before <;> simp

/-- Of pages that are validated in turn, with nothing forgotten between them, one records a picture
of its own or none exactly if it was captured itself or nothing was captured before. Where what was
known is forgotten before a page, its picture is always its own. -/
theorem screenshot_own_iff (eq : Equipment W) (o : Options) (earlier : List Page) (page : Page)
    (w : W) :
    let before := validateInTurn eq.watched o earlier (.start ⟨w, []⟩)
    let x := recorded eq o page (validateInTurn eq o earlier (.start w))
    recorded eq.watched o page before = x ∧
      (∃ seen, (validate eq.watched o page before).2.world.history = seen ++ before.world.history ∧
        x.screenshot = (lastPicture seen).or (lastPicture before.world.history) ∧
        ((x.screenshot = none ∨ x.screenshot = lastPicture seen) ↔
          lastPicture seen ≠ none ∨ lastPicture before.world.history = none)) ∧
      ∀ s : State (Watched W), ∃ seen,
        (validate eq.watched o page s.forget).2.world.history = seen ++ s.world.history ∧
          (recorded eq o page (s.map Watched.world).forget).screenshot = lastPicture seen := by
  intro before x
  have hsame (s : State (Watched W)) :
      recorded eq.watched o page s = recorded eq o page (s.map Watched.world) := by
    rw [recorded, recorded, ← watched_validate]
    rfl
  have hx : recorded eq.watched o page before = x := by
    rw [hsame, watched_validateInTurn]
    rfl
  refine ⟨hx, ?_, fun s => ?_⟩
  · obtain ⟨shown, hshown, hpicture⟩ : SeenSince [] none before :=
      validateInTurn_seenSince eq o earlier ⟨[], rfl, rfl⟩
    have hlast : before.evidence.artifact = lastPicture before.world.history := by
      rw [hpicture, hshown, List.append_nil, Option.or_none]
    obtain ⟨seen, hhistory, hscreenshot⟩ := screenshot_seen eq o page before
    rw [hx, hlast] at hscreenshot
    exact ⟨seen, hhistory, hscreenshot, by rw [hscreenshot, or_eq_own_iff]⟩
  · obtain ⟨seen, hhistory, hscreenshot⟩ := screenshot_seen eq o page s.forget
    refine ⟨seen, hhistory, ?_⟩
    have hforget : (s.map Watched.world).forget = s.forget.map Watched.world := rfl
    rw [hforget, ← hsame, hscreenshot]
    exact Option.or_none

/-- A page that could not be opened records the picture of the page before. -/
theorem screenshot_of_earlier_page :
    let target : Target Nat := ⟨"panel",
      fun _ w => (if w = 0 then .ok () else .error (.navigation "/b did not load"), w + 1),
      fun _ w => (.ok "/shots/a.png", w)⟩
    let eq : Equipment Nat :=
      ⟨target, ⟨fun _ w => (⟨.ok default, .zero⟩, w)⟩, fun _ spent => spent.nanos⟩
    let o : Options := ⟨.full, false, Matching.defaultTolerance, ⟨.ofSeconds 30, false⟩⟩
    let before := validateInTurn eq.watched o [.bare "A" "/a"] (.start ⟨0, []⟩)
    (validate eq.watched o (.bare "B" "/b") before).2.world.history = before.world.history ∧
      (recorded eq.watched o (.bare "B" "/b") before).screenshot = some "/shots/a.png" :=
  ⟨rfl, rfl⟩

end PageAudit.Audit
