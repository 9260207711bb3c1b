import PageAudit.Proofs.Audit.Worlds
import PageAudit.Proofs.Check.Counting

/-!
# Where the program crashes

The program crashes on a page if the page's picture needs a number that leaves its range, or if the page
expects tables and those that were recognized state more rows than can be counted. It crashes in a suite
if it does so on a page that it comes to. Otherwise what comes of pages and suites is what `validate` and
`runPages` say.
-/

namespace PageAudit.Audit

open Recognition (Result)

variable {W : Type} {eq : Equipment W} {o : Options} {page : Page} {s s' : State W} {P : W → Prop}

/-! ## Pages -/

/-- The reasons for which the program crashes on a page that it comes to in a world. -/
inductive Crash (eq : Equipment W) (o : Options) (page : Page) (w : W) : Prop where
  | opening {w₁ : W} : eq.target.navigate page.route w = (.error .outOfRange, w₁) → Crash eq o page w
  | capturing {w₁ w₂ : W} : eq.target.navigate page.route w = (.ok (), w₁) →
      eq.target.capture o.extent w₁ = (.error .outOfRange, w₂) → Crash eq o page w
  | counting {w₁ w₂ : W} {artifact : String} {x : Result} :
      eq.target.navigate page.route w = (.ok (), w₁) →
      eq.target.capture o.extent w₁ = (.ok artifact, w₂) → o.skipServiceCheck = false →
      Completes o.limits.timeout (eq.recognizer.recognize artifact w₂).1 x →
      page.wantsTable = true → 2 ^ 64 ≤ x.totalRows → Crash eq o page w

theorem isCrash_capture {e : Capture.Error} : (Error.capture e).isCrash = true ↔ e = .outOfRange := by
  cases e <;> simp [Error.isCrash]

/-- Whether the checks of a page can be evaluated depends on the number of rows alone. -/
theorem evaluate?_checks_eq_none_iff {x : Result} {tolerance : Double} :
    Check.evaluate? x (page.checks tolerance) = none ↔
      x.isFailed = false ∧ 2 ^ 64 ≤ x.totalRows ∧ page.wantsTable = true := by
  rw [Check.evaluate?_eq_none_iff, ← @Page.exists_table_check_iff page tolerance]
  exact ⟨fun ⟨hcompleted, hrows, hcheck⟩ => ⟨hcompleted, hrows, hcheck⟩,
    fun ⟨hcompleted, hrows, hcheck⟩ => ⟨hcompleted, hrows, hcheck⟩⟩

theorem Crash.of_crashesOn (h : crashesOn eq o page s = true) : Crash eq o page s.world := by
  have hends := inspect_ends eq o page s
  unfold crashesOn at h
  generalize inspect eq o page s = ended at hends h
  obtain ⟨outcome, s'⟩ := ended
  cases hends with
  | notOpened hnav =>
      cases isCrash_capture.mp h
      exact .opening hnav
  | notCaptured hnav hcap =>
      cases isCrash_capture.mp h
      rw [capture_eq, Prod.mk.injEq] at hcap
      exact .capturing hnav (Prod.ext hcap.1 rfl)
  | captured _ hcap _ =>
      dsimp only at h
      rw [(capture_ok hcap).2] at h
      cases h
  | notRecognized => cases h
  | checked hnav hcap hskip hrec =>
      obtain ⟨hpicture, -⟩ := capture_ok hcap
      rw [recognize_eq, Prod.mk.injEq] at hrec
      obtain ⟨hx, rfl⟩ := hrec
      simp only [hx, Evidence.afterRecognition, Evidence.withResult, Option.any_some,
        Option.isNone_iff_eq_none, evaluate?_checks_eq_none_iff] at h
      obtain ⟨hcompleted, hrows, hwants⟩ := h
      exact .counting hnav hpicture hskip (completes_iff_returned.mpr ⟨hx, hcompleted⟩) hwants hrows

/-- The program crashes on a page exactly if there is one of the reasons for it. -/
theorem crashesOn_iff : crashesOn eq o page s = true ↔ Crash eq o page s.world := by
  refine ⟨Crash.of_crashesOn, fun h => ?_⟩
  cases h with
  | opening hnav => simp only [crashesOn, inspect, hnav, Error.isCrash]
  | capturing hnav hcap => simp only [crashesOn, inspect, hnav, capture, hcap, Error.isCrash]
  | @counting _ _ _ x hnav hcap hskip hrec hwants hrows =>
      have hcompleted := (completes_iff_returned.mp hrec).2
      have hnone : Check.evaluate? x (page.checks o.tolerance) = none :=
        evaluate?_checks_eq_none_iff.mpr ⟨hcompleted, hrows, hwants⟩
      simp only [crashesOn, inspect, hnav, capture, hcap, hskip, Bool.false_eq_true, ↓reduceIte,
        recognize_eq, hrec.returned, Evidence.afterRecognition, Evidence.withResult, Option.any_some,
        hnone, Option.isNone_none]

theorem validate?_eq_none_iff : (validate? eq o page s).1 = none ↔ Crash eq o page s.world := by
  rw [← crashesOn_iff, validate?]
  cases crashesOn eq o page s <;> simp

theorem validate?_eq_some {outcome : Except Failure PageResult}
    (h : (validate? eq o page s).1 = some outcome) : outcome = (validate eq o page s).1 := by
  unfold validate? at h
  dsimp only at h
  split at h
  · cases h
  · exact (Option.some.inj h).symm

/-! ## Suites -/

/-- A suite crashes on one of its pages. What the equipment keeps holds in the world in which it came to
the page, and in the one in which it crashed. -/
theorem crash_of_crashAmong? (k : eq.Keeps P) {goOn : Bool} {pages : List Page} (hs : P s.world)
    (h : crashAmong? eq o goOn pages s = some s') :
    P s'.world ∧ ∃ page ∈ pages, ∃ w, P w ∧ Crash eq o page w := by
  induction pages generalizing s with
  | nil => cases h
  | cons page rest ih =>
      have hnext : P (validate? eq o page s.forget).2.world := k.validate o page (s := s.forget) hs
      have hlater {s₁ : State W} (hs₁ : P s₁.world) (h : crashAmong? eq o goOn rest s₁ = some s') :
          P s'.world ∧ ∃ page' ∈ page :: rest, ∃ w, P w ∧ Crash eq o page' w := by
        obtain ⟨hs', page', hpage', hcrash⟩ := ih hs₁ h
        exact ⟨hs', page', List.mem_cons_of_mem page hpage', hcrash⟩
      unfold crashAmong? at h
      rcases hv : validate? eq o page s.forget with ⟨_ | outcome, s₁⟩
      · have hcrash : Crash eq o page s.forget.world := validate?_eq_none_iff.mp (by rw [hv])
        rw [hv] at h hnext
        cases h
        exact ⟨hnext, page, List.mem_cons_self, s.world, hs, hcrash⟩
      · rw [hv] at h hnext
        cases outcome with
        | ok => exact hlater hnext h
        | error =>
            cases goOn with
            | true => exact hlater hnext h
            | false => cases h

/-- A suite has no outcome only if it crashes on one of its pages. -/
theorem crash_of_runPages? (k : eq.Keeps P) {policy : Policy} {pages : List Page} (hs : P s.world)
    (h : (runPages? eq policy o pages s).1 = none) :
    ∃ page ∈ pages, ∃ w, P w ∧ Crash eq (policy.apply o) page w := by
  unfold runPages? at h
  split at h
  · next hcrash => exact (crash_of_crashAmong? k hs hcrash).2
  · cases h

theorem runPages?_eq_some {policy : Policy} {pages : List Page} {outcome : Except Aborted Run}
    (h : runPages? eq policy o pages s = (some outcome, s')) :
    runPages eq policy o pages s = (outcome, s') := by
  unfold runPages? at h
  split at h
  · cases h
  · cases h
    rfl

theorem Equipment.Keeps.runPages? (k : eq.Keeps P) (policy : Policy) (o : Options)
    (pages : List Page) (hs : P s.world) : P (runPages? eq policy o pages s).2.world := by
  unfold Audit.runPages?
  split
  · next hcrash => exact (crash_of_crashAmong? k hs hcrash).1
  · exact k.runPages policy o pages hs

/-- A suite on whose pages there is never a reason to crash has an outcome. -/
theorem runSuite?_eq_runSuite {policy : Policy} {registry : Registry}
    (h : ∀ page ∈ registry.pages.map Prod.snd, ∀ w, ¬ Crash eq (policy.apply o) page w) :
    runSuite? eq policy o registry s =
      (some (runSuite eq policy o registry s).1, (runSuite eq policy o registry s).2) := by
  have keeps : eq.Keeps fun _ => True := ⟨fun _ _ _ => trivial, fun _ _ _ => trivial, fun _ _ _ => trivial⟩
  rcases hrun : runSuite? eq policy o registry s with ⟨_ | outcome, s'⟩
  · obtain ⟨page, hpage, w, -, hcrash⟩ :=
      crash_of_runPages? keeps (s := s) trivial (congrArg Prod.fst hrun)
    exact absurd hcrash (h page hpage w)
  · rw [runSuite, runPages?_eq_some hrun]

end PageAudit.Audit
