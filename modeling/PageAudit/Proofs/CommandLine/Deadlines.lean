import PageAudit.Proofs.Audit.Services
import PageAudit.Proofs.CommandLine.Verdicts

/-!
# Services that answer too late

A recognition that has not ended within its time fails, whatever it would have found. If the recognitions
of a suite all fail, none of its pages passes that expects success. So on a machine where every call takes
longer than the timeout, the command does not succeed with such a page.
-/

namespace PageAudit

/-! ## Suites whose recognitions fail -/

namespace Audit

variable {W : Type} {eq : Equipment W} {o : Options} {page : Page} {s : State W} {P : W → Prop}

/-- In all worlds of a kind every recognition fails. -/
def Equipment.Fails (eq : Equipment W) (timeout : Span) (P : W → Prop) : Prop :=
  ∀ artifact w, P w → ∃ reason, Audit.Fails timeout (eq.recognizer.recognize artifact w).1 reason

/-- Where recognitions fail, no page passes that expects success. -/
theorem recorded_of_fails (k : eq.Keeps P) (hfails : eq.Fails o.limits.timeout P)
    (hskip : o.skipServiceCheck = false) (hraise : o.limits.raise = false)
    (hsuccess : page.successTexts ≠ none) (hs : P s.world) : (recorded eq o page s).passed = false := by
  obtain ⟨durationMs, timestamp, hv⟩ := validate_eq eq o page s
  rcases hnav : eq.target.navigate page.route s.world with ⟨e | _, w₁⟩
  · simp only [recorded, hv, inspect, hnav, conclude, Attempt.result]
  have hw₁ : P w₁ := by
    have hafter := k.navigate page.route hs
    rwa [hnav] at hafter
  rcases hcap : eq.target.capture o.extent w₁ with ⟨e | artifact, w₂⟩
  · simp only [recorded, hv, inspect, hnav, capture, hcap, conclude, Attempt.result]
  have hw₂ : P w₂ := by
    have hafter := k.capture o.extent hw₁
    rwa [hcap] at hafter
  obtain ⟨reason, hreason⟩ := hfails artifact w₂ hw₂
  obtain ⟨result, hok, hfailed, -⟩ := validate_skips hnav hcap hskip hraise hreason
  rw [recorded, hok]
  exact hfailed hsuccess

theorem visit_of_fails (k : eq.Keeps P) (hfails : eq.Fails o.limits.timeout P)
    (hskip : o.skipServiceCheck = false) (hraise : o.limits.raise = false)
    (hsuccess : page.successTexts ≠ none) {goOn : Bool} {pages : List Page} (hpage : page ∈ pages)
    (hs : P s.world) (hall : (visit eq o goOn pages s).2.1 = none) :
    ∃ x ∈ (visit eq o goOn pages s).1, x.passed = false := by
  induction pages generalizing s with
  | nil => cases hpage
  | cons first rest ih =>
      have hnext : P (validate eq o first s.forget).2.world := k.validate o first (s := s.forget) hs
      -- if it is the first page, the result of this page has not passed
      have hfirst : page = first → (recorded eq o first s.forget).passed = false := by
        rintro rfl
        exact recorded_of_fails k hfails hskip hraise hsuccess hs
      have hlater {x : PageResult} {s₁ : State W} (hs₁ : P s₁.world)
          (hall : (visit eq o goOn rest s₁).2.1 = none)
          (hx : page = first → x.passed = false) :
          ∃ y ∈ x :: (visit eq o goOn rest s₁).1, y.passed = false := by
        rcases List.mem_cons.mp hpage with heq | hrest
        · exact ⟨x, List.mem_cons_self, hx heq⟩
        · obtain ⟨y, hy, hfailed⟩ := ih hrest hs₁ hall
          exact ⟨y, List.mem_cons_of_mem x hy, hfailed⟩
      unfold recorded at hfirst
      rw [visit] at hall ⊢
      rcases hv : validate eq o first s.forget with ⟨failure | x, s₁⟩
      · rw [hv] at hall hnext hfirst
        cases goOn with
        | true => exact hlater hnext hall hfirst
        | false => cases hall
      · rw [hv] at hall hnext hfirst
        exact hlater hnext hall hfirst

/-- Where recognitions fail, a suite that is not stopped has a page that has not passed. -/
theorem runPages_of_fails (k : eq.Keeps P) {policy : Policy} {pages : List Page} {run : Run}
    (hfails : eq.Fails o.limits.timeout P) (hskip : policy.skipServiceCheck = false)
    (hraise : o.limits.raise = false) (hsuccess : page.successTexts ≠ none) (hpage : page ∈ pages)
    (hs : P s.world) (hrun : (runPages eq policy o pages s).1 = .ok run) :
    ∃ x ∈ run.results, x.passed = false := by
  obtain ⟨hresults, hstop, -⟩ := runPages_eq_visit eq policy o pages s
  rw [hrun] at hresults hstop
  have hall := visit_of_fails k (o := policy.apply o) hfails hskip hraise hsuccess hpage hs hstop.symm
  rwa [← hresults] at hall

end Audit

/-! ## Slow machines -/

theorem Span.le_roundedUp (s : Span) : s.nanos ≤ s.roundedUp.nanos := Nat.le_add_right ..

/-- Whatever is done on the machine takes longer than this. -/
def Host.Slow (h : Host) (timeout : Span) : Prop :=
  ∀ m n, m < n → h.clock m + timeout.roundedUp.nanos < h.clock n

namespace Recognition.Service

theorem delayOf_of_not_io {outcome : Except Error Result} {h h' : Host}
    (hio : ∀ fault, outcome ≠ .error (.io fault)) : delayOf outcome h h' = ⟨h'.time - h.time⟩ := by
  unfold delayOf
  split
  · next fault => exact absurd rfl (hio fault)
  · rfl

/-- A recognition takes a step of the clock, unless it is seen at once that something is missing. -/
theorem steps_recognize {service : Service} {artifact : String} {h h' : Host}
    {outcome : Except Error Result} (hrec : service.recognize artifact h = (outcome, h'))
    (hio : ∀ fault, outcome ≠ .error (.io fault)) : h.steps < h'.steps := by
  unfold recognize at hrec
  split at hrec
  · next fault _ =>
      cases hrec
      exact absurd rfl (hio fault)
  · cases hrec
    exact Host.steps_call rfl

theorem fails_of_slow (service : Service) (artifact : String) {h : Host} {timeout : Span}
    (hslow : h.Slow timeout) :
    ∃ reason, Audit.Fails timeout (service.recognizer.recognize artifact h).1 reason := by
  have hgrew := service.recognize_grew artifact h
  rcases hrec : service.recognize artifact h with ⟨outcome, h'⟩
  rw [hrec] at hgrew
  have hreply : (service.recognizer.recognize artifact h).1 = ⟨outcome, delayOf outcome h h'⟩ := by
    simp only [recognizer, hrec]
  rw [hreply]
  by_cases hio : ∃ fault, outcome = .error (.io fault)
  · obtain ⟨fault, rfl⟩ := hio
    have hzero : Span.zero.roundedUp.nanos = 0 := rfl
    refine ⟨_, .error ?_ rfl⟩
    rw [Audit.InTime, delayOf, hzero]
    exact Nat.zero_le _
  · rw [not_exists] at hio
    refine ⟨_, .late fun hintime => ?_⟩
    rw [delayOf_of_not_io hio] at hintime
    have hclock : h'.clock = h.clock := hgrew.clock
    have hlonger := hslow _ _ (steps_recognize hrec hio)
    have hspan := Nat.le_trans (Span.le_roundedUp _) hintime
    simp only [Host.time, hclock] at hspan
    omega

end Recognition.Service

/-! ## The command -/

namespace CommandLine

open Audit (Aborted Run State)
open Capture (Scene Target)
open Host (Grew)
open Recognition (Service)

variable {a : RunArguments} {registry : Registry} {session : Session} {v : Viewport} {h : Host}

/-- The command succeeds only if its suite was not stopped and all results have passed. -/
theorem passed_of_conclude_done {outcome : Except Aborted Run}
    (hdone : (conclude a session outcome h).1.ending = .done) :
    ∃ run, outcome = .ok run ∧ ∀ x ∈ run.results, x.passed = true := by
  have hverdict : verdict (reportOf a outcome h) (abortedOf outcome) = .done := by
    rw [conclude_eq] at hdone
    split at hdone
    · cases hdone
    · exact verdict_of_showReport_done hdone
  cases outcome with
  | error => cases hverdict
  | ok run =>
      have haggregates := Report.aggregates_build run.results run.start run.stop
        (a.policy.environment h.name a.surface.name a.headless)
      exact ⟨run, rfl, (verdict_of_all _ _ haggregates).mp hverdict⟩

theorem equipmentOn_fails {S : Type} {target : Target (Scene S)} {service : Service} {timeout : Span}
    (hslow : h.Slow timeout) :
    (equipmentOn target service).Fails timeout fun w => Grew h w.host := by
  intro artifact w hw
  refine service.fails_of_slow artifact fun m n hlt => ?_
  rw [hw.clock]
  exact hslow m n hlt

theorem auditPages_of_slow {S : Type} {target : Target (Scene S)} {surface : S} {pages : List Page}
    {page : Page} {run : Run} {audited : Host}
    (hkeeps : (equipmentOn target (serviceOf a h)).Keeps fun w => Grew h w.host)
    (hslow : h.Slow a.timeout) (hchecked : a.policy.skipServiceCheck = false)
    (hpage : page ∈ pages) (hsuccess : page.successTexts ≠ none)
    (haudit : auditPages target surface a pages h = (some (.ok run), audited)) :
    ∃ x ∈ run.results, x.passed = false := by
  have hstart : Grew h (State.start (⟨surface, h⟩ : Scene S)).world.host := .refl h
  unfold auditPages at haudit
  rcases hrun : Audit.runPages? (equipmentOn target (serviceOf a h)) a.policy (optionsOf a) pages
    (.start ⟨surface, h⟩) with ⟨_ | outcome, s⟩
  · rw [hrun] at haudit
    cases haudit
  · rw [hrun] at haudit
    cases haudit
    exact Audit.runPages_of_fails hkeeps (equipmentOn_fails hslow) hchecked rfl hsuccess hpage hstart
      (congrArg Prod.fst (Audit.runPages?_eq_some hrun))

theorem audit_of_slow {page : Page} {run : Run} {audited : Host} (hslow : h.Slow a.timeout)
    (hchecked : a.policy.skipServiceCheck = false) (hpage : page ∈ registry.pages.map Prod.snd)
    (hsuccess : page.successTexts ≠ none)
    (haudit : audit a registry session v h = (some (.ok run), audited)) :
    ∃ x ∈ run.results, x.passed = false := by
  unfold audit at haudit
  dsimp only at haudit
  split at haudit
  · exact auditPages_of_slow (browser_keeps ..) hslow hchecked hpage hsuccess haudit
  · exact auditPages_of_slow (drawn_keeps ..) hslow hchecked hpage hsuccess haudit

/-- On a machine where every step takes longer than the timeout, the command does not succeed with a page
that expects a message of success, whatever the service would have found on it. -/
theorem run_of_slow (a : RunArguments) (h : Host) {registry : Registry} {v : Viewport}
    {started : Host} {page : Page} (hsurface : a.surface = .browser → a.headless = true)
    (hload : Registry.load a.registry h = .ok registry)
    (hviewport : Viewport.ofText? a.viewport = some v)
    (hinit : (sessionOf a h).init (some a.registry) a.baseUrl h = (.ok (), started))
    (hslow : h.Slow a.timeout) (hchecked : a.policy.skipServiceCheck = false)
    (hpage : page ∈ registry.pages.map Prod.snd) (hsuccess : page.successTexts ≠ none) :
    (run a h).1.ending ≠ .done := by
  intro hdone
  rw [run_of_started hsurface hload hviewport hinit] at hdone
  rcases haudit : audit a registry (sessionOf a h) v (probeService a started) with
    ⟨_ | outcome, audited⟩
  · rw [haudit] at hdone
    cases hdone
  · rw [haudit] at hdone
    obtain ⟨suite, rfl, hpassed⟩ := passed_of_conclude_done hdone
    have hgrew := (Session.init_grew hinit).trans (probeService_grew a started)
    have hstill : (probeService a started).Slow a.timeout := fun m n hlt => by
      rw [hgrew.clock]
      exact hslow m n hlt
    obtain ⟨x, hx, hfailed⟩ := audit_of_slow hstill hchecked hpage hsuccess haudit
    cases hfailed.symm.trans (hpassed x hx)

/-- A machine on which every step takes a second, with a registry of one page, a browser that writes the
picture that it is asked for and a service that finds a message of success on it. -/
def unhurriedHost : Host where
  name := "ci"
  process := 1
  environment := []
  current := ["work"]
  files := ⟨[(["work"], .directory 0), (["work", defaultRegistry],
    .file (.text (Registry.toJson ⟨[⟨"m", [(Page.bare "n" "/n").succeeding ["saved"]]⟩]⟩).pretty))]⟩
  clock := fun n => n * 1000000000
  steps := 0
  calls := []
  programs := fun _ call =>
    if call.program = Recognition.requester then
      .exited (.code 0) "\x7b\"text\": \"Saved\"\x7d".toUTF8 .empty []
    else .exited (.code 0) .empty .empty
      (call.arguments.filterMap fun argument =>
        (Text.splitOnce "--screenshot=".toList argument.toList).map fun (_, path) =>
          (String.ofList path, .bytes .empty))

/-- The page passes if the service has two seconds to answer, and not if it has half of one. -/
example : [2000, 500].map (fun n =>
      (run { captureOnly .browser "mobile" with policy := ⟨true, false⟩, timeout := .ofMillis n }
        unhurriedHost).1.ending) = [.done, .refused "1 of 1 pages failed"] := by
  decide +kernel

end CommandLine

end PageAudit
