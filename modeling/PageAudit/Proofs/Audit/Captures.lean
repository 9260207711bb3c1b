import PageAudit.Proofs.Audit.Visits

/-!
# Suites that only capture

A suite that skips the checks asks its target for a picture of every page, and asks the recognizer for
nothing. A page passes if it could be opened and captured. So no recognizer, no expectation of a page
and no setting of the checks has a part in what such a suite asks and records.
-/

namespace PageAudit.Audit

open Capture (Extent Target)
open Recognition (Recognizer)

variable {W : Type}

/-! ## What comes of a page -/

/-- Where the checks are skipped, a page has none, and it passes if there is a picture of it. -/
theorem recorded_skipping (eq : Equipment W) {o : Options} (hskip : o.skipServiceCheck = true)
    (page : Page) (s : State W) :
    (recorded eq o page s.forget).checks = [] ∧
      (recorded eq o page s.forget).passed = (recorded eq o page s.forget).screenshot.isSome := by
  obtain ⟨durationMs, timestamp, hv⟩ := validate_eq eq o page s.forget
  rw [recorded, hv]
  generalize hinspect : inspect eq o page s.forget = ended
  have hends := inspect_ends eq o page s.forget
  rw [hinspect] at hends
  obtain ⟨outcome, s'⟩ := ended
  cases hends with
  | notOpened => exact ⟨rfl, rfl⟩
  | notCaptured _ hcap =>
      rw [capture_eq, Prod.mk.injEq] at hcap
      rw [← hcap.2, hcap.1]
      exact ⟨rfl, rfl⟩
  | captured => exact ⟨rfl, rfl⟩
  | notRecognized _ _ hnot => simp [hskip] at hnot
  | checked _ _ hnot => simp [hskip] at hnot

theorem exists_recorded {eq : Equipment W} {o : Options} {pages : List Page} {s : State W}
    {x : Attempt} (hx : x ∈ attempts eq o pages s) :
    ∃ page s', x.result = recorded eq o page (State.forget s') := by
  induction pages generalizing s with
  | nil => cases hx
  | cons page rest ih =>
      rcases List.mem_cons.mp hx with rfl | hrest
      · exact ⟨page, s, rfl⟩
      · exact ih hrest

/-- Both the page's navigation and its capture have succeeded. -/
def Visit.Captured (extent : Extent) (v : Visit) : Prop :=
  ∃ artifact, v.events = [.navigate v.page.route (.ok ()), .capture extent (.ok artifact)]

theorem Course.picture_isSome_iff {extent : Extent} {page : Page} {events : List Event}
    (h : Course extent true page events) :
    (events.findSome? Event.picture).isSome = true ↔
      ∃ artifact, events = [.navigate page.route (.ok ()), .capture extent (.ok artifact)] := by
  cases h with
  | notOpened => simp [Event.picture]
  | notCaptured => simp [Event.picture]
  | captured => simp [Event.picture]
  | recognized hnot => cases hnot

/-- The visits of a suite that skips the checks. -/
theorem visits_skipping {eq : Equipment W} {o : Options} (hskip : o.skipServiceCheck = true)
    {pages : List Page} {s : State (Logged W)} {visits : List Visit}
    (hattempts : visits.map Visit.attempt <+: attempts eq.logged o pages s)
    (hvisits : ∀ v ∈ visits, v.Orderly o.extent o.skipServiceCheck) :
    ∀ v ∈ visits, v.attempt.result.checks = [] ∧
      (v.attempt.result.passed = true ↔ v.Captured o.extent) := by
  intro v hv
  obtain ⟨page, s', hresult⟩ := exists_recorded (hattempts.mem (List.mem_map_of_mem hv))
  obtain ⟨hchecks, hpassed⟩ := recorded_skipping eq.logged hskip page s'
  rw [← hresult] at hchecks hpassed
  have horderly := hvisits v hv
  have hcourse := horderly.course
  rw [hskip] at hcourse
  refine ⟨hchecks, ?_⟩
  rw [hpassed, horderly.screenshot]
  exact hcourse.picture_isSome_iff

/-! ## What does not depend on the checks -/

section Runs

variable (t : Target W) (r r' : Recognizer W) (clock clock' : W → Span → Nat) {o o' : Options}
  {s s' : State W}

theorem inspect_skipping (hskip : o.skipServiceCheck = true) (hskip' : o'.skipServiceCheck = true)
    (hextent : o.extent = o'.extent) {page page' : Page} (hroute : page.route = page'.route)
    (h : s.Alike s') :
    (inspect ⟨t, r, clock⟩ o page s).1 = (inspect ⟨t, r', clock'⟩ o' page' s').1 ∧
      (inspect ⟨t, r, clock⟩ o page s).2.Alike (inspect ⟨t, r', clock'⟩ o' page' s').2 := by
  simp only [inspect, h.world, hroute, hextent, capture_eq, hskip, hskip', if_true]
  rcases t.navigate page'.route s'.world with ⟨e | _, w⟩
  · exact ⟨rfl, h.evidence, rfl⟩
  · dsimp only
    rcases t.capture o'.extent w with ⟨e | artifact, w₁⟩
    · exact ⟨rfl, h.evidence, rfl⟩
    · exact ⟨rfl, rfl, rfl⟩

theorem validate_skipping (hskip : o.skipServiceCheck = true) (hskip' : o'.skipServiceCheck = true)
    (hextent : o.extent = o'.extent) {page page' : Page}
    (hpage : (page.name, page.route) = (page'.name, page'.route)) (h : s.Alike s') :
    Attempt.untimed (validate ⟨t, r, clock⟩ o page s).1 =
        Attempt.untimed (validate ⟨t, r', clock'⟩ o' page' s').1 ∧
      (validate ⟨t, r, clock⟩ o page s).2.Alike (validate ⟨t, r', clock'⟩ o' page' s').2 := by
  obtain ⟨hname, hroute⟩ := Prod.mk.inj hpage
  obtain ⟨houtcome, hafter⟩ := inspect_skipping t r r' clock clock' hskip hskip' hextent hroute h
  obtain ⟨durationMs, timestamp, hv⟩ := validate_eq ⟨t, r, clock⟩ o page s
  obtain ⟨durationMs', timestamp', hv'⟩ := validate_eq ⟨t, r', clock'⟩ o' page' s'
  rw [hv, hv', houtcome, hafter.evidence]
  refine ⟨?_, hafter⟩
  rcases (inspect ⟨t, r', clock'⟩ o' page' s').1 with e | ⟨artifact, checks⟩
  · simp only [conclude, Attempt.untimed, PageResult.untimed, hname, hroute]
  · simp only [conclude, Attempt.untimed, PageResult.untimed, hname, hroute]

theorem visit_skipping (o o' : Options) (hskip : o.skipServiceCheck = true)
    (hskip' : o'.skipServiceCheck = true) (hextent : o.extent = o'.extent) (goOn : Bool)
    {pages pages' : List Page}
    (hpages : pages.map (fun p => (p.name, p.route)) = pages'.map fun p => (p.name, p.route))
    (s s' : State W) (hworld : s.world = s'.world) :
    let visited := visit ⟨t, r, clock⟩ o goOn pages s
    let visited' := visit ⟨t, r', clock'⟩ o' goOn pages' s'
    visited.1.map PageResult.untimed = visited'.1.map PageResult.untimed ∧
      visited.2.1 = visited'.2.1 ∧ visited.2.2.world = visited'.2.2.world := by
  induction pages generalizing pages' s s' with
  | nil =>
      rw [List.map_eq_nil_iff.mp hpages.symm]
      exact ⟨rfl, rfl, hworld⟩
  | cons page rest ih =>
      cases pages' with
      | nil => cases hpages
      | cons page' rest' =>
          obtain ⟨hpage, hrest⟩ := List.cons.inj hpages
          have hforget : s.forget.Alike s'.forget := ⟨rfl, hworld⟩
          obtain ⟨hattempt, hafter⟩ :=
            validate_skipping t r r' clock clock' hskip hskip' hextent hpage hforget
          obtain ⟨hresults, hend⟩ := ih hrest _ _ hafter.world
          simp only [visit]
          rcases hv : validate ⟨t, r, clock⟩ o page s.forget with ⟨attempt, s₁⟩
          rcases hv' : validate ⟨t, r', clock'⟩ o' page' s'.forget with ⟨attempt', s₁'⟩
          rw [hv, hv'] at hattempt hafter hresults hend
          cases attempt with
          | ok x =>
              cases attempt' with
              | error failure' => cases hattempt
              | ok x' =>
                  injection hattempt with hx
                  exact ⟨congrArg₂ List.cons hx hresults, hend⟩
          | error failure =>
              cases attempt' with
              | ok x' => cases hattempt
              | error failure' =>
                  injection hattempt with hfailure
                  injection hfailure with hx herror
                  cases goOn with
                  | true => exact ⟨congrArg₂ List.cons hx hresults, hend⟩
                  | false =>
                      have hname : page.name = page'.name := congrArg Prod.fst hpage
                      exact ⟨congrArg (fun x => [x]) hx,
                        congrArg₂ (fun name e => some (name, e)) hname herror, hafter.world⟩

end Runs

/-- Two runs of a suite record the same pages alike but for the time. They ask the same of the target,
are answered the same and leave the same world. -/
structure SameCaptures (run run' : Except Aborted Run × State (Logged W)) : Prop where
  results : (resultsOf run.1).map PageResult.untimed = (resultsOf run'.1).map PageResult.untimed
  stop : stopOf run.1 = stopOf run'.1
  events : run.2.world.events = run'.2.world.events
  world : run.2.world.world = run'.2.world.world

/-- A suite whose policy skips the checks never asks the recognizer, and every page of it passes exactly
if it was opened and captured. Two such suites over pages of the same names and routes make the same
calls and have the same results, whatever the recognizers, the expectations and all other settings. The
flag of the options decides nothing, whichever the policy. -/
theorem runSuite_only_captures (t : Target W) (r r' : Recognizer W)
    (clock clock' : W → Span → Nat) (goOn : Bool) (extent : Extent) (skip skip' : Bool)
    (tolerance tolerance' : Double) (limits limits' : Limits) (registry registry' : Registry)
    (hpages : registry.pages.map (fun p => (p.2.name, p.2.route)) =
      registry'.pages.map fun p => (p.2.name, p.2.route))
    (e e' : Evidence) (spent spent' : Span) (w : W) :
    let eq : Equipment W := ⟨t, r, clock⟩
    let eq' : Equipment W := ⟨t, r', clock'⟩
    let o : Options := ⟨extent, skip, tolerance, limits⟩
    let o' : Options := ⟨extent, skip', tolerance', limits'⟩
    let run := runSuite eq.logged ⟨goOn, true⟩ o registry ⟨e, spent, ⟨w, []⟩⟩
    let run' := runSuite eq'.logged ⟨goOn, true⟩ o' registry' ⟨e', spent', ⟨w, []⟩⟩
    Prod.map id (State.map Logged.world) run =
        runSuite eq ⟨goOn, true⟩ o registry ⟨e, spent, w⟩ ∧
      Prod.map id (State.map Logged.world) run' =
        runSuite eq' ⟨goOn, true⟩ o' registry' ⟨e', spent', w⟩ ∧
      run.2.world.events.filterMap Event.recognized = [] ∧
      (∃ visits : List Visit, run.2.world.events = visits.flatMap Visit.events ∧
        resultsOf run.1 = visits.map (·.attempt.result) ∧
        Toured (registry.pages.map Prod.snd) goOn visits (stopOf run.1) ∧
        ∀ v ∈ visits, v.attempt.result.checks = [] ∧
          (v.attempt.result.passed = true ↔ v.Captured extent)) ∧
      SameCaptures run run' ∧
      ∀ (policy : Policy) (flag : Bool) (s : State W),
        runSuite eq policy { o with skipServiceCheck := flag } registry s =
          runSuite eq policy o registry s := by
  intro eq eq' o o' run run'
  have hlogged (eq : Equipment W) : Mirrors Logged.world eq.logged.target eq.logged.recognizer
      eq.target eq.recognizer := logged_mirrors eq.target eq.recognizer
  obtain ⟨hresults, hstop, hend⟩ :=
    runSuite_eq_visit eq.logged ⟨goOn, true⟩ o registry ⟨e, spent, ⟨w, []⟩⟩
  obtain ⟨hresults', hstop', hend'⟩ :=
    runSuite_eq_visit eq'.logged ⟨goOn, true⟩ o' registry' ⟨e', spent', ⟨w, []⟩⟩
  obtain ⟨visits, hevents, hrecorded, hattempts, hvisits, htoured⟩ :=
    visit_visits eq (Policy.apply ⟨goOn, true⟩ o) goOn (registry.pages.map Prod.snd)
      ⟨e, spent, ⟨w, []⟩⟩
  have hlog : run.2.world.events = visits.flatMap Visit.events := by
    rw [hend, hevents, List.nil_append]
  have hpages' : (registry.pages.map Prod.snd).map (fun p => (p.name, p.route)) =
      (registry'.pages.map Prod.snd).map fun p => (p.name, p.route) := by
    rw [List.map_map, List.map_map]
    exact hpages
  obtain ⟨hsame, hsameStop, hsameWorld⟩ :=
    visit_skipping (logTarget t) (logRecognizer r) (logRecognizer r') (fun v => clock v.world)
      (fun v => clock' v.world) (Policy.apply ⟨goOn, true⟩ o) (Policy.apply ⟨goOn, true⟩ o') rfl rfl rfl
      goOn hpages' ⟨e, spent, ⟨w, []⟩⟩ ⟨e', spent', ⟨w, []⟩⟩ rfl
  refine ⟨(hlogged eq).runSuite_map (fun _ => rfl) _ o registry _,
    (hlogged eq').runSuite_map (fun _ => rfl) _ o' registry' _, ?_,
    ⟨visits, hlog, hresults.trans hrecorded, ?_, visits_skipping rfl hattempts hvisits⟩, ?_,
    fun _ _ _ => rfl⟩
  · rw [hlog, List.filterMap_flatMap,
      List.flatMap_congr fun v hv => (hvisits v hv).course.recognized_eq]
    exact List.flatMap_eq_nil_iff.mpr fun _ _ => rfl
  · rw [hstop]
    exact htoured
  · constructor
    · rw [hresults, hresults']
      exact hsame
    · rw [hstop, hstop']
      exact hsameStop
    · rw [hend, hend']
      exact congrArg Logged.events hsameWorld
    · rw [hend, hend']
      exact congrArg Logged.world hsameWorld

theorem expectations_change_no_capture :
    let t : Target Nat := ⟨"panel", fun route w =>
      (if route = "/two" then .error (.navigation "refused") else .ok (), w),
      fun _ w => (.ok "/shots/1.png", w + 1)⟩
    let r : Recognizer Nat := ⟨fun _ w => (⟨.error (.service "model offline"), .zero⟩, w + 100)⟩
    let r' : Recognizer Nat := ⟨fun _ w => (⟨.ok default, .ofSeconds 60⟩, w)⟩
    let registry : Registry := ⟨[⟨"Main", [(Page.bare "One" "/one").succeeding ["saved"],
      .bare "Two" "/two", .bare "Three" "/three"]⟩]⟩
    let registry' : Registry := ⟨[⟨"Main", [.bare "One" "/one", (Page.bare "Two" "/two").withTable 3]⟩,
      ⟨"More", [(Page.bare "Three" "/three").withTitle "Three"]⟩]⟩
    let clock (w : Nat) (spent : Span) := w + spent.nanos
    let run := runSuite (Equipment.mk t r clock).logged ⟨true, true⟩
      ⟨.full, false, .one, ⟨.zero, true⟩⟩ registry ⟨.none, .zero, ⟨0, []⟩⟩
    let run' := runSuite (Equipment.mk t r' clock).logged ⟨true, true⟩
      ⟨.full, true, .zero, ⟨.ofSeconds 30, false⟩⟩ registry' ⟨.none, .zero, ⟨0, []⟩⟩
    registry.pages.map (fun p => (p.2.name, p.2.route)) =
        registry'.pages.map (fun p => (p.2.name, p.2.route)) ∧
      (resultsOf run.1).map PageResult.passed = [true, false, true] ∧
      run.2.world.events.filterMap Event.call = [.navigate "/one", .capture .full, .navigate "/two",
        .navigate "/three", .capture .full] ∧
      SameCaptures run run' := by
  intro t r r' registry registry' clock run run'
  have hpages : registry.pages.map (fun p => (p.2.name, p.2.route)) =
      registry'.pages.map fun p => (p.2.name, p.2.route) := rfl
  obtain ⟨-, -, -, -, hsame, -⟩ := runSuite_only_captures t r r' clock clock true .full false true
    .one .zero ⟨.zero, true⟩ ⟨.ofSeconds 30, false⟩ registry registry' hpages .none .none .zero .zero 0
  exact ⟨hpages, by decide +kernel, by decide +kernel, hsame⟩

end PageAudit.Audit
