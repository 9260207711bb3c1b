import PageAudit.Audit.Page
import PageAudit.Proofs.Audit.Steps
import PageAudit.Proofs.Registry.Expectations

/-!
# Validating one page

A page that was opened and captured passes or fails by its recognition alone. If the recognition
fails and no errors are wanted, the page passes exactly when no success message is expected of it.
-/

namespace PageAudit.Audit

open Recognition (Reply Result)

variable {W : Type} {eq : Equipment W} {o : Options} {page : Page} {s : State W}

/-! ## Inspecting and validating -/

/-- What is made of the outcome of an inspection that ended at a moment with a last picture. -/
def conclude (page : Page) (outcome : Except Error (String × List Check.Outcome))
    (picture : Option String) (durationMs : Nat) (timestamp : Moment) : Except Failure PageResult :=
  match outcome with
  | .ok (artifact, checks) =>
      .ok ⟨page.name, page.route, Check.allPassed checks, checks, some artifact, none, durationMs,
        timestamp⟩
  | .error e =>
      .error ⟨⟨page.name, page.route, false, [], picture, some e.message, durationMs, timestamp⟩, e⟩

theorem validate_eq (eq : Equipment W) (o : Options) (page : Page) (s : State W) :
    ∃ durationMs timestamp, validate eq o page s =
      (conclude page (inspect eq o page s).1 (inspect eq o page s).2.evidence.artifact
        durationMs timestamp, (inspect eq o page s).2) := by
  refine ⟨(eq.now (inspect eq o page s).2 - eq.now s) / 1000000,
    .ofNanos (eq.now (inspect eq o page s).2), ?_⟩
  unfold validate
  generalize inspect eq o page s = x
  obtain ⟨⟨⟨_, _⟩ | _⟩, _⟩ := x <;> rfl

/-- Once a page is open and captured, its recognition decides what comes of the inspection. -/
theorem inspect_of_captured {w₁ w₂ : W} {artifact : String}
    (hnav : eq.target.navigate page.route s.world = (.ok (), w₁))
    (hcap : eq.target.capture o.extent w₁ = (.ok artifact, w₂))
    (hskip : o.skipServiceCheck = false) {x : Result}
    (hx : returned o.limits (eq.recognizer.recognize artifact w₂).1 = .ok x) :
    (inspect eq o page s).1 = .ok (artifact, Check.evaluate x (page.checks o.tolerance)) := by
  have hc : capture eq.target o.extent { s with world := w₁ } =
      (.ok artifact, ⟨.ofArtifact artifact, s.elapsed, w₂⟩) := by
    simp [capture, hcap]
  simp only [inspect, hnav, hc, hskip, Bool.false_eq_true, ↓reduceIte, recognize_eq, hx]

theorem validate_of_captured {w₁ w₂ : W} {artifact : String}
    (hnav : eq.target.navigate page.route s.world = (.ok (), w₁))
    (hcap : eq.target.capture o.extent w₁ = (.ok artifact, w₂))
    (hskip : o.skipServiceCheck = false) {x : Result}
    (hx : returned o.limits (eq.recognizer.recognize artifact w₂).1 = .ok x) :
    ∃ result, (validate eq o page s).1 = .ok result ∧
      result.checks = Check.evaluate x (page.checks o.tolerance) ∧
      result.passed = Check.allPassed result.checks := by
  obtain ⟨durationMs, timestamp, hv⟩ := validate_eq eq o page s
  rw [hv, inspect_of_captured hnav hcap hskip hx]
  exact ⟨_, rfl, rfl, rfl⟩

/-! ## Failed recognitions -/

/-- A target that shows every page, and a recognizer that always replies the same. -/
def Equipment.constant (artifact : String) (reply : Reply) : Equipment Unit where
  target := ⟨"constant", fun _ w => (.ok (), w), fun _ w => (.ok artifact, w)⟩
  recognizer := ⟨fun _ w => (reply, w)⟩
  clock := fun _ spent => spent.nanos

/-- A failed recognition is held against no page that does not expect success: if no errors are
wanted, its checks pass but for the success message, and each says why. A completed recognition
yields outcomes of the same kinds, and each keeps the beginning of the text. -/
theorem validate_fails_open (eq : Equipment W) (o : Options) (page : Page) (s : State W)
    {w₁ w₂ : W} {artifact : String}
    (hnav : eq.target.navigate page.route s.world = (.ok (), w₁))
    (hcap : eq.target.capture o.extent w₁ = (.ok artifact, w₂))
    (hskip : o.skipServiceCheck = false) :
    (∀ reason, o.limits.raise = false →
      Fails o.limits.timeout (eq.recognizer.recognize artifact w₂).1 reason →
      ∃ result, (validate eq o page s).1 = .ok result ∧
        (result.passed = true ↔ page.successTexts = none) ∧
        result.checks.map Check.Outcome.kind = (page.checks o.tolerance).map Check.Spec.kind ∧
        ∀ x ∈ result.checks, (∃ before after, x.message = before ++ reason ++ after) ∧
          x.snapshot = none) ∧
    ∀ found, Completes o.limits.timeout (eq.recognizer.recognize artifact w₂).1 found →
      ∃ result, (validate eq o page s).1 = .ok result ∧
        result.checks.map Check.Outcome.kind = (page.checks o.tolerance).map Check.Spec.kind ∧
        ∀ x ∈ result.checks, x.snapshot =
          some (String.ofList (found.rawText.toList.take (min 200 found.rawText.length))) := by
  constructor
  · intro reason hraise hfails
    obtain ⟨x, hx, hfailed, rfl⟩ := hfails.returned hraise
    obtain ⟨result, hok, hchecks, hpassed⟩ := validate_of_captured hnav hcap hskip hx
    refine ⟨result, hok, ?_, by rw [hchecks, Check.kinds_evaluate], ?_⟩
    · rw [hpassed, hchecks, Page.allPassed_checks_of_failed hfailed]
    · intro y hy
      rw [hchecks, Check.evaluate, List.mem_map] at hy
      obtain ⟨c, -, rfl⟩ := hy
      exact ⟨Check.message_of_failed hfailed c, Check.snapshot_of_failed hfailed c⟩
  · intro found hrec
    obtain ⟨result, hok, hchecks, -⟩ := validate_of_captured hnav hcap hskip hrec.returned
    refine ⟨result, hok, by rw [hchecks, Check.kinds_evaluate], ?_⟩
    have hfailed : found.isFailed = false := by rw [Result.isFailed, hrec.status]; rfl
    intro y hy
    rw [hchecks, Check.evaluate, List.mem_map] at hy
    obtain ⟨c, -, rfl⟩ := hy
    rw [Check.snapshot_of_completed hfailed, Check.snapshotOf_eq]

theorem late_recognition_fails_open :
    let page : Page := ⟨"Orders", "/orders", some "Order list", none, some [], some ["saved"],
      some true, none, none⟩
    let eq := Equipment.constant "/shots/1.png" ⟨.ok default, .ofSeconds 60⟩
    let o : Options := ⟨.full, false, Matching.defaultTolerance, ⟨.ofMillis 100, false⟩⟩
    (eq.target.navigate page.route () = (.ok (), ()) ∧
      eq.target.capture o.extent () = (.ok "/shots/1.png", ()) ∧ o.skipServiceCheck = false) ∧
      ∃ result, (validate eq o page (.start ())).1 = .ok result ∧ result.passed = false ∧
        result.checks.map Check.Outcome.kind =
          [.title, .forbiddenTexts, .successMessage, .tableMinRows] := by
  intro page eq o
  have hfails : Fails o.limits.timeout (eq.recognizer.recognize "/shots/1.png" ()).1
      (Recognition.Error.timeout o.limits.timeout).message := .late (by unfold InTime; decide)
  obtain ⟨result, hok, hpassed, hkinds, -⟩ :=
    (validate_fails_open eq o page (.start ()) rfl rfl rfl).1 _ rfl hfails
  refine ⟨⟨rfl, rfl, rfl⟩, result, hok, ?_, ?_⟩
  · rw [← Bool.not_eq_true, hpassed]
    exact Option.some_ne_none _
  · rw [hkinds]
    decide +kernel

end PageAudit.Audit
