import PageAudit.Proofs.CommandLine.Sessions
import PageAudit.Proofs.Recognition.Bodies
import PageAudit.Proofs.Report.Aggregation
import PageAudit.Proofs.Report.Saving

/-!
# When the command succeeds

The command succeeds if every page of the registry was visited and has passed, and in no other case;
its reports tell of the visits in any case. Only a number that leaves its range ends it before there is a
report: where a picture is too large to be drawn, or where the rows of an answer cannot be counted, which
takes an answer of 2 ^ 64 bytes.
-/

namespace PageAudit.CommandLine

open Audit (Aborted Event Run State Toured Visit resultsOf stopOf)
open Capture (Browser Drawn Scene Target)
open Host (Grew)
open Recognition (Response Result Service)

variable {a : RunArguments} {registry : Registry} {session : Session} {v : Viewport}
  {outcome : Except Aborted Run} {h audited saved : Host}

/-! ## The visits of an audit -/

section Visits

variable {S : Type}

/-- What is asked and answered while pages are audited. -/
def eventsOn (target : Target (Scene S)) (surface : S) (a : RunArguments) (pages : List Page)
    (h : Host) : List Event :=
  (Audit.runPages (equipmentOn target (serviceOf a h)).logged a.policy (optionsOf a) pages
    (.start ⟨⟨surface, h⟩, []⟩)).2.world.events

/-- What is asked and answered in the audit of a registry. -/
def auditEvents (a : RunArguments) (registry : Registry) (session : Session) (v : Viewport)
    (h : Host) : List Event :=
  let pages := registry.pages.map Prod.snd
  match a.surface with
  | .browser => eventsOn (browserOf a session.screenshots v).target none a pages h
  | .mock => eventsOn (drawnPages registry session.screenshots v).target none a pages h

/-- The outcome of an audit tells of visits, which are all that was done in it. -/
structure Tells (a : RunArguments) (pages : List Page) (events : List Event)
    (outcome : Except Aborted Run) (visits : List Visit) : Prop where
  events : events = visits.flatMap Visit.events
  results : resultsOf outcome = visits.map (·.attempt.result)
  orderly : ∀ x ∈ visits, x.Orderly (optionsOf a).extent a.policy.skipServiceCheck
  toured : Toured pages a.policy.continueOnFailure visits (stopOf outcome)

theorem auditPages_tells {target : Target (Scene S)} {surface : S} {a : RunArguments}
    {pages : List Page} {h audited : Host}
    (haudit : auditPages target surface a pages h = (some outcome, audited)) :
    ∃ visits, Tells a pages (eventsOn target surface a pages h) outcome visits := by
  obtain ⟨visits, hevents, hresults, horderly, htoured⟩ :=
    Audit.runPages_visits (equipmentOn target (serviceOf a h)) a.policy (optionsOf a) pages
      ⟨surface, h⟩
  unfold auditPages at haudit
  rcases hrun : Audit.runPages? (equipmentOn target (serviceOf a h)) a.policy (optionsOf a) pages
    (.start ⟨surface, h⟩) with ⟨_ | outcome', s⟩
  · rw [hrun] at haudit
    cases haudit
  · rw [hrun] at haudit
    cases haudit
    rw [Audit.runPages?_eq_some hrun] at hresults htoured
    exact ⟨visits, hevents, hresults, horderly, htoured⟩

theorem audit_tells (haudit : audit a registry session v h = (some outcome, audited)) :
    ∃ visits, Tells a (registry.pages.map Prod.snd) (auditEvents a registry session v h) outcome
      visits := by
  unfold audit at haudit
  unfold auditEvents
  dsimp only at haudit ⊢
  revert haudit
  cases a.surface with
  | browser => exact auditPages_tells
  | mock => exact auditPages_tells

end Visits

/-! ## Crashes -/

section Crashes

variable {S : Type} {target : Target (Scene S)} {service : Service} {pages : List Page}

/-- One of the programs of a machine can give an answer whose bytes cannot be counted in 64 bits. -/
def LongAnswer (h : Host) : Prop :=
  ∃ past call status output errors files,
    h.programs past call = .exited status output errors files ∧ 2 ^ 64 ≤ output.size

/-- What a service has recognized was the answer of a program, which has a byte for each row. -/
theorem longAnswer_of_recognize {artifact : String} {x : Result}
    (hx : (service.recognize artifact h).1 = .ok x) (hrows : 2 ^ 64 ≤ x.totalRows) :
    LongAnswer h := by
  unfold Service.recognize at hx
  split at hx
  · cases hx
  next picture _ =>
    obtain ⟨status, output, errors, files, hanswer, hparse⟩ :
        ∃ status output errors files, h.answer (service.post picture.toBytes) =
          .exited status output errors files ∧ Response.parse output = .ok x := by
      unfold Host.call at hx
      rcases hanswer : h.answer (service.post picture.toBytes) with
        fault | ⟨status, output, errors, files⟩
      · simp only [hanswer, Service.resultOf] at hx
        cases hx
      · simp only [hanswer, Service.resultOf] at hx
        split at hx
        · exact ⟨status, output, errors, files, rfl, hx⟩
        · cases hx
    unfold Host.answer at hanswer
    split at hanswer
    · exact ⟨_, _, status, output, errors, files, hanswer,
        Nat.le_trans hrows (Response.totalRows_of_parse hparse)⟩
    · cases hanswer

theorem auditPages_none {surface : S} {a : RunArguments}
    (hkeeps : (equipmentOn target (serviceOf a h)).Keeps fun w => Grew h w.host)
    (haudit : auditPages target surface a pages h = (none, audited)) :
    LongAnswer h ∨ ∃ page ∈ pages, ∃ w w₁,
      target.navigate page.route w = (.error .outOfRange, w₁) ∨
        target.navigate page.route w = (.ok (), w₁) ∧
          ∃ w₂, target.capture (optionsOf a).extent w₁ = (.error .outOfRange, w₂) := by
  have hstart : Grew h (State.start (⟨surface, h⟩ : Scene S)).world.host := .refl h
  obtain ⟨page, hpage, w, hw, hcrash⟩ :=
    Audit.crash_of_runPages? hkeeps hstart (congrArg Prod.fst haudit)
  cases hcrash with
  | opening hnav => exact Or.inr ⟨page, hpage, w, _, Or.inl hnav⟩
  | capturing hnav hcap => exact Or.inr ⟨page, hpage, w, _, Or.inr ⟨hnav, _, hcap⟩⟩
  | @counting w₁ w₂ _ _ hnav hcap _ hrec _ hrows =>
      have hw₁ : Grew h w₁.host := by
        have hafter := hkeeps.navigate page.route hw
        rwa [hnav] at hafter
      have hw₂ : Grew h w₂.host := by
        have hafter := hkeeps.capture (a.policy.apply (optionsOf a)).extent hw₁
        rwa [hcap] at hafter
      have hlong := longAnswer_of_recognize hrec.outcome hrows
      rw [LongAnswer, hw₂.programs] at hlong
      exact Or.inl hlong

/-- An audit has no outcome only if there is a page that has to be drawn and cannot be, or if an answer is
too long. -/
theorem audit_none (haudit : audit a registry session v h = (none, audited)) :
    (a.surface = .mock ∧ ∃ page ∈ registry.pages.map Prod.snd,
      (drawnPages registry session.screenshots v).file (optionsOf a).extent page.route =
        .error .outOfRange) ∨ LongAnswer h := by
  unfold audit at haudit
  dsimp only at haudit
  split at haudit
  · rcases auditPages_none (browser_keeps ..) haudit with
      hlong | ⟨page, -, w, w₁, hnav | ⟨-, w₂, hcap⟩⟩
    · exact Or.inr hlong
    · exact (Browser.navigate_ne_outOfRange _ _ _ _ hnav).elim
    · exact (Browser.capture_ne_outOfRange _ _ _ _ hcap).elim
  next hsurface =>
    rcases auditPages_none (drawn_keeps ..) haudit with
      hlong | ⟨page, hpage, w, w₁, hnav | ⟨hnav, w₂, hcap⟩⟩
    · exact Or.inr hlong
    · exact (Drawn.navigate_ne_outOfRange _ _ _ _ hnav).elim
    · obtain ⟨route, hroute, hfile⟩ := Drawn.file_of_capture_outOfRange hcap
      rw [Drawn.surface_of_navigate hnav] at hroute
      cases hroute
      exact Or.inl ⟨hsurface, page, hpage, hfile⟩

end Crashes

/-! ## The report and the verdict -/

/-- The suite that is reported on. -/
def runOf : Except Aborted Run → Run
  | .ok run => run
  | .error stopped => stopped.run

def abortedOf : Except Aborted Run → Option Aborted
  | .ok _ => none
  | .error stopped => some stopped

/-- The report on an audit that has ended on a machine. -/
def reportOf (a : RunArguments) (outcome : Except Aborted Run) (h : Host) : Report :=
  (runOf outcome).report (a.policy.environment h.name a.surface.name a.headless)

theorem results_reportOf : (reportOf a outcome h).results = resultsOf outcome := by
  cases outcome <;> rfl

theorem verdict_status {r : Report} {aborted : Option Aborted} (hne : verdict r aborted ≠ .done) :
    (verdict r aborted).status = 1 := by
  unfold verdict at hne ⊢
  cases aborted with
  | some => rfl
  | none =>
      dsimp only at hne ⊢
      split
      · rfl
      · next hfailed => exact absurd (if_neg hfailed) hne

theorem verdict_of_all (r : Report) (results : List PageResult) (hr : Report.Aggregates r results) :
    verdict r none = .done ↔ ∀ x ∈ results, x.passed = true := by
  have hfailed : r.totals.failed = 0 ↔ ∀ x ∈ results, x.passed = true := by
    rw [← List.countP_eq_length, ← hr.passed, ← hr.total, ← hr.partition]
    omega
  rw [← hfailed, verdict]
  split
  · next hpos => exact ⟨(nomatch ·), fun h => absurd h (Nat.ne_of_gt hpos)⟩
  · next hzero => exact ⟨fun _ => Nat.eq_zero_of_not_pos hzero, fun _ => rfl⟩

/-- The verdict on visits: all pages were visited, and all of them have passed. -/
theorem verdict_eq_done_iff {pages : List Page} {events : List Event} {visits : List Visit}
    (htells : Tells a pages events outcome visits) :
    verdict (reportOf a outcome h) (abortedOf outcome) = .done ↔
      visits.map Visit.page = pages ∧ ∀ x ∈ visits, x.attempt.result.passed = true := by
  have htoured := htells.toured
  cases outcome with
  | ok run =>
      have haggregates := Report.aggregates_build run.results run.start run.stop
        (a.policy.environment h.name a.surface.name a.headless)
      have hresults : run.results = visits.map (·.attempt.result) := htells.results
      have hpages : visits.map Visit.page = pages := htoured
      refine (verdict_of_all _ _ haggregates).trans ?_
      rw [hresults, List.forall_mem_map]
      exact (and_iff_right hpages).symm
  | error stopped =>
      obtain ⟨-, before, last, failure, rfl, -, -, hfailure, -⟩ := htoured
      have hlast : last ∈ before ++ [last] := List.mem_concat_self
      refine ⟨(nomatch ·), fun ⟨_, hpassed⟩ => ?_⟩
      -- the page that stopped the suite has not passed
      have hfailed := ((htells.orderly last hlast).failed failure hfailure).2.1
      have hresult := hpassed last hlast
      rw [hfailure] at hresult
      exact absurd (hfailed.symm.trans hresult) Bool.false_ne_true

/-! ## The command -/

theorem conclude_eq (a : RunArguments) (session : Session) (outcome : Except Aborted Run)
    (h : Host) :
    conclude a session outcome h =
      match (reportOf a outcome h).save session.directory h with
      | (.error e, left) => (.silent (.failed e.message), left)
      | (.ok paths, saved) =>
        (showReport a session (reportOf a outcome h) paths (abortedOf outcome) saved, saved) := by
  cases outcome <;> rfl

theorem ending_showReport {r : Report} {paths : List String} {aborted : Option Aborted}
    (hcaptures : ∃ names, session.captures h = .ok names) :
    (showReport a session r paths aborted h).ending = verdict r aborted := by
  obtain ⟨names, hcaptures⟩ := hcaptures
  unfold showReport
  split
  · rfl
  · rw [hcaptures]
    rfl

theorem verdict_of_showReport_done {r : Report} {paths : List String} {aborted : Option Aborted}
    (hdone : (showReport a session r paths aborted h).ending = .done) : verdict r aborted = .done := by
  unfold showReport at hdone
  split at hdone
  · exact hdone
  · dsimp only at hdone
    split at hdone
    · cases hdone
    · exact hdone

theorem run_of_started {started : Host} (hsurface : a.surface = .browser → a.headless = true)
    (hload : Registry.load a.registry h = .ok registry)
    (hviewport : Viewport.ofText? a.viewport = some v)
    (hinit : (sessionOf a h).init (some a.registry) a.baseUrl h = (.ok (), started)) :
    run a h = match audit a registry (sessionOf a h) v (probeService a started) with
      | (none, audited) => (.silent .crashed, audited)
      | (some outcome, audited) => conclude a (sessionOf a h) outcome audited := by
  have hallowed : (a.surface = .browser && !a.headless) = false := by
    cases hs : a.surface with
    | mock => rfl
    | browser => simp [hsurface hs]
  unfold run
  rw [hallowed, hload, hviewport]
  rcases haudit : audit a registry (sessionOf a h) v (probeService a started) with
    ⟨_ | outcome, audited⟩ <;>
  simp only [Bool.false_eq_true, if_false, runIn, hinit, haudit]

/-- Once a session has begun, the command ends in one of three ways. It crashes only if it comes to a page
whose picture is too large to be drawn, or if a program gives an answer of 2 ^ 64 bytes or more. Otherwise
what was done tells of visits. If their report cannot be saved, the command fails. If it can, the command
succeeds exactly if all pages of the registry were visited and all of them have passed, has another status
if not, and leaves the report on exactly the visits in each of its formats. -/
theorem run_ends (a : RunArguments) (h : Host) {registry : Registry} {v : Viewport}
    {started : Host} (hsurface : a.surface = .browser → a.headless = true)
    (hload : Registry.load a.registry h = .ok registry)
    (hviewport : Viewport.ofText? a.viewport = some v)
    (hinit : (sessionOf a h).init (some a.registry) a.baseUrl h = (.ok (), started)) :
    let session := sessionOf a h
    let pages := registry.pages.map Prod.snd
    let asked := probeService a started
    match audit a registry session v asked with
    | (none, crashed) =>
      run a h = (.silent .crashed, crashed) ∧
        ((a.surface = .mock ∧ ∃ page ∈ pages,
          (drawnPages registry session.screenshots v).file (optionsOf a).extent page.route =
            .error .outOfRange) ∨ LongAnswer asked)
    | (some outcome, audited) =>
      let r := reportOf a outcome audited
      ∃ visits, Tells a pages (auditEvents a registry session v asked) outcome visits ∧
        match r.save session.directory audited with
        | (.error e, left) => run a h = (.silent (.failed e.message), left)
        | (.ok _, saved) =>
          (run a h).2 = saved ∧
            ((run a h).1.ending = .done ↔
              visits.map Visit.page = pages ∧ ∀ x ∈ visits, x.attempt.result.passed = true) ∧
            ((run a h).1.ending ≠ .done → (run a h).1.ending.status = 1) ∧
            r.results = visits.map (·.attempt.result) ∧
            ∀ format ∈ Report.Format.saved,
              saved.read (Files.Path.join session.directory format.fileName) =
                .ok (.text (r.render format)) := by
  intro session pages asked
  have hrun := run_of_started hsurface hload hviewport hinit
  have hgrew : Grew asked (audit a registry session v asked).2 := audit_grew ..
  change run a h = match audit a registry session v asked with
    | (none, audited) => (.silent .crashed, audited)
    | (some outcome, audited) => conclude a session outcome audited at hrun
  rcases haudit : audit a registry session v asked with ⟨_ | outcome, audited⟩
  · rw [haudit] at hrun
    exact ⟨hrun, audit_none haudit⟩
  · rw [haudit] at hrun hgrew
    dsimp only at hrun ⊢
    obtain ⟨visits, htells⟩ := audit_tells haudit
    refine ⟨visits, htells, ?_⟩
    have hsaved := Report.save_grew (reportOf a outcome audited) session.directory audited
    rw [conclude_eq] at hrun
    rcases hsave : (reportOf a outcome audited).save session.directory audited with
      ⟨e | paths, saved⟩
    · rw [hsave] at hrun
      exact hrun
    · rw [hsave] at hrun hsaved
      have hcaptures := Session.exists_captures hinit
        ((probeService_grew a started).trans (hgrew.trans hsaved))
      have hending : (run a h).1.ending =
          verdict (reportOf a outcome audited) (abortedOf outcome) := by
        rw [hrun]
        exact ending_showReport hcaptures
      rw [hending]
      refine ⟨congrArg Prod.snd hrun, verdict_eq_done_iff htells, verdict_status,
        results_reportOf.trans htells.results, fun format hformat => ?_⟩
      exact Report.read_save hsave format hformat

/-! ## A registry of one page -/

def onePage : Registry := ⟨[⟨"m", [.bare "n" "/n"]⟩]⟩

/-- A machine with a registry of one page, and with a browser that takes the picture of this page. -/
def onePageHost : Host where
  name := "ci"
  process := 1
  environment := []
  current := ["work"]
  files := ⟨[(["work"], .directory 0),
    (["work", defaultRegistry], .file (.text onePage.toJson.pretty))]⟩
  clock := fun _ => 0
  steps := 0
  calls := []
  programs := fun _ _ => .exited (.code 0) .empty .empty
    [("out/screenshots/browser_n_19700101_000000_000.png", .bytes .empty)]

/-- The arguments of a command by which pages are captured and not checked. -/
def captureOnly (surface : Surface) (viewport : String) : RunArguments :=
  { runArguments ⟨[], []⟩ with
    output := some "out", surface := surface, viewport := viewport, policy := ⟨true, true⟩ }

theorem run_of_one_page :
    let a := captureOnly .browser "mobile"
    ((a.surface = .browser → a.headless = true) ∧
      Registry.load a.registry onePageHost = .ok onePage ∧
      Viewport.ofText? a.viewport = some Viewport.mobile ∧
      ∃ started, (sessionOf a onePageHost).init (some a.registry) a.baseUrl onePageHost =
        (.ok (), started)) ∧
    (run a onePageHost).1.ending = .done ∧
      ∃ visits : List Visit, visits.map Visit.page = [.bare "n" "/n"] ∧
        ∀ x ∈ visits, x.attempt.result.passed = true := by
  intro a
  have hload : Registry.load a.registry onePageHost = .ok onePage := by
    have hloaded : (Registry.load a.registry onePageHost).toOption = some onePage := by
      decide +kernel
    revert hloaded
    cases Registry.load a.registry onePageHost with
    | error => exact fun hnone => nomatch hnone
    | ok r => exact fun hsome => congrArg _ (Option.some.inj hsome)
  have hsurface : a.surface = .browser → a.headless = true := fun _ => rfl
  have hviewport : Viewport.ofText? a.viewport = some Viewport.mobile := by decide +kernel
  have hdone : (run a onePageHost).1.ending = .done := by decide +kernel
  obtain ⟨started, hinit⟩ : ∃ started,
      (sessionOf a onePageHost).init (some a.registry) a.baseUrl onePageHost = (.ok (), started) :=
    ⟨_, Prod.ext (by decide +kernel) rfl⟩
  -- what follows holds of any machine for which these facts hold
  clear_value a
  generalize onePageHost = h at *
  have hends := run_ends a h hsurface hload hviewport hinit
  refine ⟨⟨hsurface, hload, hviewport, started, hinit⟩, hdone, ?_⟩
  dsimp only at hends
  split at hends
  · rw [hends.1] at hdone
    cases hdone
  · obtain ⟨visits, -, hsaved⟩ := hends
    split at hsaved
    · rw [hsaved] at hdone
      cases hdone
    · exact ⟨visits, hsaved.2.1.mp hdone⟩

/-- On a surface whose picture takes too many bytes the command crashes, and there is no report. -/
theorem run_crashes_on_large_picture :
    let a := captureOnly .mock "40000x40000"
    (Registry.load a.registry onePageHost).toOption = some onePage ∧
      (Viewport.ofText? a.viewport).isSome ∧
      ((sessionOf a onePageHost).init (some a.registry) a.baseUrl onePageHost).1 = .ok () ∧
      (run a onePageHost).1.ending = .crashed ∧
      ∀ format ∈ Report.Format.saved,
        (run a onePageHost).2.holds (Files.Path.join "out" format.fileName) = false := by
  decide +kernel

end PageAudit.CommandLine
