import PageAudit.Proofs.Audit.Logs
import PageAudit.Proofs.Audit.Screenshots

/-!
# The visits of a suite

A suite visits pages in turn. A visit opens the page, captures it if it was opened, and recognizes the
picture if recognitions are not skipped. The log of a suite is made of the logs of its visits and of
nothing else, and the result of each visit says what came of it alone.
-/

namespace PageAudit.Audit

open Capture (Extent Target)
open Recognition (Reply Result)

variable {W : Type} {eq : Equipment W} {o : Options} {page : Page} {s s' : State (Logged W)}

/-! ## What a suite records -/

def resultsOf : Except Aborted Run → List PageResult
  | .ok run => run.results
  | .error stopped => stopped.run.results

/-- The name of the page that stopped the suite and the reason, if one did. -/
def stopOf : Except Aborted Run → Option (String × Error)
  | .ok _ => none
  | .error stopped => some (stopped.page, stopped.error)

theorem runPages_eq_visit (eq : Equipment W) (policy : Policy) (o : Options) (pages : List Page)
    (s : State W) :
    let visited := visit eq (policy.apply o) policy.continueOnFailure pages s
    resultsOf (runPages eq policy o pages s).1 = visited.1 ∧
      stopOf (runPages eq policy o pages s).1 = visited.2.1 ∧
      (runPages eq policy o pages s).2 = visited.2.2 := by
  unfold runPages
  rcases visit eq (policy.apply o) policy.continueOnFailure pages s with
    ⟨results, _ | ⟨name, error⟩, s'⟩
  · exact ⟨rfl, rfl, rfl⟩
  · exact ⟨rfl, rfl, rfl⟩

theorem runSuite_eq_visit (eq : Equipment W) (policy : Policy) (o : Options) (registry : Registry)
    (s : State W) :
    let visited :=
      visit eq (policy.apply o) policy.continueOnFailure (registry.pages.map Prod.snd) s
    resultsOf (runSuite eq policy o registry s).1 = visited.1 ∧
      stopOf (runSuite eq policy o registry s).1 = visited.2.1 ∧
      (runSuite eq policy o registry s).2 = visited.2.2 :=
  runPages_eq_visit eq policy o _ s

/-! ## Visits -/

/-- What was asked and answered while a page was attempted, and what came of the attempt. -/
structure Visit where
  page : Page
  events : List Event
  attempt : Attempt

/-- The courses that the visit of a page can take. -/
inductive Course (extent : Extent) (skip : Bool) (page : Page) : List Event → Prop where
  | notOpened {cause : Capture.Error} :
      Course extent skip page [.navigate page.route (.error cause)]
  | notCaptured {cause : Capture.Error} :
      Course extent skip page [.navigate page.route (.ok ()), .capture extent (.error cause)]
  | captured {artifact : String} : skip = true →
      Course extent skip page [.navigate page.route (.ok ()), .capture extent (.ok artifact)]
  | recognized {artifact : String} {reply : Reply} : skip = false →
      Course extent skip page [.navigate page.route (.ok ()), .capture extent (.ok artifact),
        .recognize artifact reply]

/-- Every picture that is taken is recognized, unless recognitions are skipped. -/
theorem Course.recognized_eq {extent : Extent} {skip : Bool} {events : List Event}
    (h : Course extent skip page events) :
    events.filterMap Event.recognized =
      if skip then [] else events.filterMap Event.picture := by
  cases h with
  | notOpened => cases skip <;> rfl
  | notCaptured => cases skip <;> rfl
  | captured hskip => rw [if_pos hskip]; rfl
  | recognized hskip => rw [hskip]; rfl

/-- A visit takes one of its courses, and its result tells of this course. -/
structure Visit.Orderly (extent : Extent) (skip : Bool) (v : Visit) : Prop where
  course : Course extent skip v.page v.events
  page : (v.attempt.result.pageName, v.attempt.result.route) = (v.page.name, v.page.route)
  screenshot : v.attempt.result.screenshot = v.events.findSome? Event.picture
  failed (failure : Failure) : v.attempt = .error failure →
    failure.result.error = some failure.error.message ∧ failure.result.passed = false ∧
      failure.result.checks = []
  done (x : PageResult) : v.attempt = .ok x →
    x.error = none ∧ x.passed = x.checks.all Check.Outcome.passed

theorem events_of_opened {t : Target W} {route : String} {v : Logged W} {extent : Extent}
    {answer : Except Capture.Error String} (hnav : (logTarget t).navigate route s.world = (.ok (), v))
    (hcap : capture (logTarget t) extent { s with world := v } = (answer, s')) :
    s'.world.events = s.world.events ++ [.navigate route (.ok ()), .capture extent answer] := by
  rw [events_of_capture hcap, events_of_navigate hnav, List.append_assoc]
  rfl

/-- An inspection takes one of the courses, and its evidence is the picture taken in it. -/
theorem inspect_course (eq : Equipment W) (o : Options) (page : Page)
    (hs : s.evidence = .none) :
    ∃ events, (inspect eq.logged o page s).2.world.events = s.world.events ++ events ∧
      Course o.extent o.skipServiceCheck page events ∧
      (inspect eq.logged o page s).2.evidence.artifact = events.findSome? Event.picture := by
  have hrecognized {v : Logged W} {artifact : String} {s₁ s₂ : State (Logged W)}
      {outcome : Except Recognition.Error Result}
      (hnav : eq.logged.target.navigate page.route s.world = (.ok (), v))
      (hcap : capture eq.logged.target o.extent { s with world := v } = (.ok artifact, s₁))
      (hskip : o.skipServiceCheck = false)
      (hrec : recognize eq.logged.recognizer o.limits artifact s₁ = (outcome, s₂)) :
      ∃ events, s₂.world.events = s.world.events ++ events ∧
        Course o.extent o.skipServiceCheck page events ∧
        s₂.evidence.artifact = events.findSome? Event.picture := by
    obtain ⟨reply, hevents⟩ := events_of_recognize hrec
    have hsame := artifact_recognize eq.logged.recognizer o.limits artifact s₁
    rw [hrec] at hsame
    have hcourse : Course o.extent o.skipServiceCheck page [.navigate page.route (.ok ()),
        .capture o.extent (.ok artifact), .recognize artifact reply] := .recognized hskip
    refine ⟨_, ?_, hcourse, hsame.trans (artifact_of_capture hcap)⟩
    rw [hevents, events_of_opened hnav hcap, List.append_assoc]
    rfl
  generalize hinspect : inspect eq.logged o page s = ended
  have hends := inspect_ends eq.logged o page s
  rw [hinspect] at hends
  obtain ⟨outcome, s'⟩ := ended
  cases hends with
  | notOpened hnav => exact ⟨_, events_of_navigate hnav, .notOpened, congrArg Evidence.artifact hs⟩
  | notCaptured hnav hcap =>
      refine ⟨_, events_of_opened hnav hcap, .notCaptured, ?_⟩
      rw [capture_eq, Prod.mk.injEq] at hcap
      rw [← hcap.2, hcap.1]
      exact congrArg Evidence.artifact hs
  | captured hnav hcap hskip =>
      exact ⟨_, events_of_opened hnav hcap, .captured hskip, artifact_of_capture hcap⟩
  | notRecognized hnav hcap hskip hrec => exact hrecognized hnav hcap hskip hrec
  | checked hnav hcap hskip hrec => exact hrecognized hnav hcap hskip hrec

/-- A page that is validated with evidence of its own is visited. -/
theorem validate_visits (eq : Equipment W) (o : Options) (page : Page) (s : State (Logged W)) :
    ∃ v : Visit, v.page = page ∧ v.attempt = (validate eq.logged o page s.forget).1 ∧
      (validate eq.logged o page s.forget).2.world.events = s.world.events ++ v.events ∧
      v.Orderly o.extent o.skipServiceCheck := by
  obtain ⟨events, hevents, hcourse, hpicture⟩ := inspect_course (s := s.forget) eq o page rfl
  obtain ⟨durationMs, timestamp, hv⟩ := validate_eq eq.logged o page s.forget
  have hscreenshot := screenshot_recorded eq.logged o page s.forget
  rw [recorded, hv] at hscreenshot
  refine ⟨⟨page, events, (validate eq.logged o page s.forget).1⟩, rfl, rfl, ?_, ?_⟩
  · rw [hv]
    exact hevents
  · rw [hv]
    refine ⟨hcourse, ?_, hscreenshot.trans hpicture, ?_, ?_⟩
    · rcases (inspect eq.logged o page s.forget).1 with _ | ⟨_, _⟩ <;> rfl
    · rcases (inspect eq.logged o page s.forget).1 with e | ⟨artifact, checks⟩
      · rintro failure ⟨⟩
        exact ⟨rfl, rfl, rfl⟩
      · rintro failure ⟨⟩
    · rcases (inspect eq.logged o page s.forget).1 with e | ⟨artifact, checks⟩
      · rintro x ⟨⟩
      · rintro x ⟨⟩
        exact ⟨rfl, rfl⟩

/-! ## The visits of a run -/

/-- What was visited before a suite came to its end: all pages in turn, or those up to the page that
stopped it. -/
def Toured (pages : List Page) (goOn : Bool) (visits : List Visit) :
    Option (String × Error) → Prop
  | none => visits.map Visit.page = pages
  | some (name, error) => goOn = false ∧ ∃ before last failure, visits = before ++ [last] ∧
      visits.map Visit.page <+: pages ∧ (∀ v ∈ before, v.attempt.isFailure = false) ∧
      last.attempt = .error failure ∧ last.page.name = name ∧ failure.error = error

theorem Toured.cons {pages : List Page} {goOn : Bool} {v : Visit} {visits : List Visit}
    {stopped : Option (String × Error)} (h : Toured pages goOn visits stopped)
    (hv : goOn = false → v.attempt.isFailure = false) :
    Toured (v.page :: pages) goOn (v :: visits) stopped := by
  cases stopped with
  | none => exact congrArg (v.page :: ·) h
  | some stop =>
      obtain ⟨hgoOn, before, last, failure, rfl, hprefix, hbefore, hrest⟩ := h
      refine ⟨hgoOn, v :: before, last, failure, rfl, ?_, ?_, hrest⟩
      · exact List.cons_prefix_cons.mpr ⟨rfl, hprefix⟩
      · exact List.forall_mem_cons.mpr ⟨hv hgoOn, hbefore⟩

theorem visit_visits (eq : Equipment W) (o : Options) (goOn : Bool) (pages : List Page)
    (s : State (Logged W)) :
    ∃ visits : List Visit,
      (visit eq.logged o goOn pages s).2.2.world.events =
        s.world.events ++ visits.flatMap Visit.events ∧
      (visit eq.logged o goOn pages s).1 = visits.map (·.attempt.result) ∧
      visits.map Visit.attempt <+: attempts eq.logged o pages s ∧
      (∀ v ∈ visits, v.Orderly o.extent o.skipServiceCheck) ∧
      Toured pages goOn visits (visit eq.logged o goOn pages s).2.1 := by
  induction pages generalizing s with
  | nil => exact ⟨[], (List.append_nil _).symm, rfl, List.prefix_rfl, List.forall_mem_nil _, rfl⟩
  | cons page rest ih =>
      obtain ⟨v, rfl, hattempt, hevents, hv⟩ := validate_visits eq o page s
      rcases hvalidate : validate eq.logged o v.page s.forget with ⟨attempt, s₁⟩
      rw [hvalidate] at hattempt hevents
      obtain ⟨visits, hevents', hresults, hattempts, hvisits, htoured⟩ := ih s₁
      -- what the visits of the other pages add if the suite goes on with them
      have hall : s.world.events ++ (v :: visits).flatMap Visit.events =
          s₁.world.events ++ visits.flatMap Visit.events := by
        rw [hevents, List.flatMap_cons, List.append_assoc]
      have hfirst {others : List Visit} (h : others.map Visit.attempt <+: attempts eq.logged o rest s₁) :
          (v :: others).map Visit.attempt <+: attempt :: attempts eq.logged o rest s₁ :=
        List.cons_prefix_cons.mpr ⟨hattempt, h⟩
      simp only [visit, attempts, hvalidate]
      cases attempt with
      | ok x =>
          refine ⟨v :: visits, by rw [hall, ← hevents'], ?_, hfirst hattempts,
            List.forall_mem_cons.mpr ⟨hv, hvisits⟩, htoured.cons fun _ => by rw [hattempt]; rfl⟩
          rw [List.map_cons, hattempt, ← hresults]
          rfl
      | error failure =>
          cases goOn with
          | true =>
              refine ⟨v :: visits, by rw [hall, ← hevents']; rfl, ?_, hfirst hattempts,
                List.forall_mem_cons.mpr ⟨hv, hvisits⟩,
                htoured.cons fun hstop => absurd hstop (by decide)⟩
              rw [List.map_cons, hattempt, ← hresults]
              rfl
          | false =>
              refine ⟨[v], by simpa using hevents, ?_, hfirst List.nil_prefix,
                List.forall_mem_singleton.mpr hv, rfl, [], v, failure, rfl, ?_, List.forall_mem_nil _,
                hattempt, rfl, rfl⟩
              · rw [List.map_singleton, hattempt]
                rfl
              · exact List.cons_prefix_cons.mpr ⟨rfl, List.nil_prefix⟩

/-- What comes of pages that are audited is what comes of visits to them. -/
theorem runPages_visits (eq : Equipment W) (policy : Policy) (o : Options) (pages : List Page)
    (w : W) :
    let audited := runPages eq policy o pages (.start w)
    ∃ visits : List Visit,
      (runPages eq.logged policy o pages (.start ⟨w, []⟩)).2.world.events =
        visits.flatMap Visit.events ∧
      resultsOf audited.1 = visits.map (·.attempt.result) ∧
      (∀ v ∈ visits, v.Orderly o.extent policy.skipServiceCheck) ∧
      Toured pages policy.continueOnFailure visits (stopOf audited.1) := by
  intro audited
  have hlogged : Mirrors Logged.world eq.logged.target eq.logged.recognizer eq.target
      eq.recognizer := logged_mirrors eq.target eq.recognizer
  have hmap : Prod.map id (State.map Logged.world)
      (runPages eq.logged policy o pages (.start ⟨w, []⟩)) = audited :=
    hlogged.runPages_map (fun _ => rfl) policy o pages (.start ⟨w, []⟩)
  have hsame := congrArg Prod.fst hmap
  obtain ⟨hresults, hstop, hend⟩ := runPages_eq_visit eq.logged policy o pages (.start ⟨w, []⟩)
  obtain ⟨visits, hevents, hresults', -, hvisits, htoured⟩ :=
    visit_visits eq (policy.apply o) policy.continueOnFailure pages (.start ⟨w, []⟩)
  refine ⟨visits, ?_, ?_, hvisits, ?_⟩
  · rw [hend, hevents]
    rfl
  · exact (congrArg resultsOf hsame).symm.trans (hresults.trans hresults')
  · rw [← hstop] at htoured
    exact (congrArg stopOf hsame) ▸ htoured

/-- The log of a suite is that of its visits, one after another: of all pages in turn, or of the pages
up to the one that stopped it. Each visit opens its page once, captures it once if it was opened, and
recognizes the picture once if there is one and recognitions are not skipped. The result of a visit
has the picture that was taken in it. It has an error exactly if the page could not be validated, and
then no checks; otherwise it has passed if all its checks have. -/
theorem runSuite_visits (eq : Equipment W) (policy : Policy) (o : Options) (registry : Registry)
    (e : Evidence) (spent : Span) (w : W) :
    let pages := registry.pages.map Prod.snd
    let start : State (Logged W) := ⟨e, spent, ⟨w, []⟩⟩
    let run := runSuite eq.logged policy o registry start
    Prod.map id (State.map Logged.world) run = runSuite eq policy o registry ⟨e, spent, w⟩ ∧
      Prod.map id (State.map Logged.trace) run =
        runSuite eq.traced policy o registry ⟨e, spent, .start w⟩ ∧
      run.2.world.events.filterMap Event.recognized =
        (if policy.skipServiceCheck then [] else run.2.world.events.filterMap Event.picture) ∧
      ∃ visits : List Visit, run.2.world.events = visits.flatMap Visit.events ∧
        resultsOf run.1 = visits.map (·.attempt.result) ∧
        visits.map Visit.attempt <+: attempts eq.logged (policy.apply o) pages start ∧
        (∀ v ∈ visits, v.Orderly o.extent policy.skipServiceCheck) ∧
        Toured pages policy.continueOnFailure visits (stopOf run.1) := by
  intro pages start run
  have hlogged : Mirrors Logged.world eq.logged.target eq.logged.recognizer eq.target
      eq.recognizer := logged_mirrors eq.target eq.recognizer
  have htraced : Mirrors Logged.trace eq.logged.target eq.logged.recognizer eq.traced.target
      eq.traced.recognizer := logged_mirrors_traced eq.target eq.recognizer
  obtain ⟨hresults, hstop, hend⟩ :=
    runSuite_eq_visit eq.logged policy o registry start
  obtain ⟨visits, hevents, hresults', hattempts, hvisits, htoured⟩ :=
    visit_visits eq (policy.apply o) policy.continueOnFailure pages start
  have hvisits : ∀ v ∈ visits, v.Orderly o.extent policy.skipServiceCheck := hvisits
  have hlog : run.2.world.events = visits.flatMap Visit.events := by
    rw [hend, hevents, List.nil_append]
  refine ⟨hlogged.runSuite_map (fun _ => rfl) policy o registry _,
    htraced.runSuite_map (fun _ => rfl) policy o registry _, ?_, visits, hlog,
    hresults.trans hresults', hattempts, hvisits, ?_⟩
  · rw [hlog, List.filterMap_flatMap, List.filterMap_flatMap,
      List.flatMap_congr fun v hv => (hvisits v hv).course.recognized_eq]
    cases policy.skipServiceCheck with
    | true => exact List.flatMap_eq_nil_iff.mpr fun _ _ => rfl
    | false => rfl
  · rw [hstop]
    exact htoured

end PageAudit.Audit
