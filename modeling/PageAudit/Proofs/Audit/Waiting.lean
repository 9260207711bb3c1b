import Mathlib.Algebra.GroupWithZero.Nat
import PageAudit.Proofs.Audit.Logs
import PageAudit.Proofs.Audit.Recall

/-!
# Waiting for a text

Whoever waits for a text takes a look, and another one after a pause, until a look settles the matter
or no attempts are left. A look without a picture and a recognition that throws an error settle it
with that error, and a completed recognition settles it if the text is found in it.
-/

namespace PageAudit

/-- Whether the span is in whole milliseconds. -/
def Span.Whole (s : Span) : Prop := s.nanos % 1000000 = 0

theorem Span.Whole.roundedUp {s : Span} (h : s.Whole) : s.roundedUp = s := by
  unfold Span.Whole at h
  rw [Span.roundedUp, h]
  rfl

namespace Audit

open Capture (Target)
open Recognition (Recognizer Reply)

variable {W : Type} {limits : Limits} {text : String} {tolerance : Double}

/-! ## Looks -/

/-- What an attempt brings: no picture, or a picture and the reply to it. -/
inductive Look where
  | blind (cause : Capture.Error)
  | seen (artifact : String) (reply : Reply)

namespace Look

/-- The events of an attempt: a capture of the viewport, and a recognition of its picture. -/
def events : Look → List Event
  | blind cause => [.capture .viewport (.error cause)]
  | seen artifact reply => [.capture .viewport (.ok artifact), .recognize artifact reply]

def artifact? : Look → Option String
  | blind _ => none
  | seen artifact _ => some artifact

/-- The nanoseconds that the recognition takes, if there is one. -/
def time (timeout : Span) : Look → Nat
  | blind _ => 0
  | seen _ reply => (reply.delay.min timeout).nanos

theorem calls_events (look : Look) :
    look.events.filterMap Event.call = [.capture .viewport] := by
  cases look <;> rfl

theorem recognized_events (look : Look) :
    look.events.filterMap Event.recognized = look.artifact?.toList := by
  cases look <;> rfl

/-- The attempt settles the matter, with this answer. -/
inductive Settles (limits : Limits) (text : String) (tolerance : Double) :
    Look → Except Error Bool → Prop where
  | notCaptured {cause : Capture.Error} :
      Settles limits text tolerance (.blind cause) (.error (.capture cause))
  | thrown {artifact : String} {reply : Reply} {cause : Recognition.Error} :
      limits.raise = true → outcomeWithin limits.timeout reply = .error cause →
      Settles limits text tolerance (.seen artifact reply) (.error (.recognition cause))
  | found {artifact : String} {reply : Reply} {x : Recognition.Result} :
      Completes limits.timeout reply x →
      Matching.isMatch x.rawText text .partially tolerance = true →
      Settles limits text tolerance (.seen artifact reply) (.ok true)

/-- A look at which nothing is thrown settles the matter exactly if it finds the text. -/
theorem settles_iff_of_returned {artifact : String} {reply : Reply} {x : Recognition.Result}
    (hx : returned limits reply = .ok x) {answer : Except Error Bool} :
    Settles limits text tolerance (.seen artifact reply) answer ↔
      answer = .ok true ∧
        (⟨some artifact, some x⟩ : Evidence).containsText text tolerance = true := by
  rw [containsText_iff]
  constructor
  · intro h
    cases h with
    | thrown hraise herror =>
        cases hx.symm.trans (returned_eq_error_iff.mpr ⟨hraise, herror⟩)
    | found hcompletes hmatch =>
        obtain ⟨hy, hfailed⟩ := completes_iff_returned.mp hcompletes
        cases hx.symm.trans hy
        exact ⟨rfl, x, rfl, hfailed, hmatch⟩
  · rintro ⟨rfl, y, hy, hfailed, hmatch⟩
    cases hy
    exact .found (completes_iff_returned.mpr ⟨hx, hfailed⟩) hmatch

end Look

/-! ## One attempt -/

variable (t : Target W) (r : Recognizer W)

/-- How an attempt ends: with an error that settles the matter, or with the picture and what its
recognition returned as the evidence. -/
inductive Looked (limits : Limits) (text : String) (tolerance : Double) :
    Look → Except Error Recognition.Result → Evidence → Prop where
  | settled {look : Look} {e : Error} {evidence : Evidence} :
      look.Settles limits text tolerance (.error e) →
      Looked limits text tolerance look (.error e) evidence
  | returned {artifact : String} {reply : Reply} {x : Recognition.Result} :
      Audit.returned limits reply = .ok x →
      Looked limits text tolerance (.seen artifact reply) (.ok x) ⟨some artifact, some x⟩

variable (text tolerance) in
theorem captureAndRecognize_looked (hlimit : limits.timeout.Whole)
    (hdelay : ∀ artifact w, (r.recognize artifact w).1.delay.Whole) {s s' : State (Logged W)}
    {outcome : Except Error Recognition.Result}
    (h : captureAndRecognize (logTarget t) (logRecognizer r) limits .viewport s = (outcome, s')) :
    ∃ look : Look, s'.world.events = s.world.events ++ look.events ∧
      s'.elapsed.nanos = s.elapsed.nanos + look.time limits.timeout ∧
      Looked limits text tolerance look outcome s'.evidence := by
  rcases hcap : t.capture .viewport s.world.world with ⟨cause | artifact, w⟩
  · simp only [captureAndRecognize, capture_eq, logTarget_capture, hcap, Prod.mk.injEq] at h
    obtain ⟨rfl, rfl⟩ := h
    exact ⟨.blind cause, rfl, rfl, .settled .notCaptured⟩
  · simp only [captureAndRecognize, capture_eq, recognize_eq, logTarget_capture, logRecognizer_recognize,
      hcap] at h
    have hwhole := hdelay artifact w
    generalize r.recognize artifact w = answer at h hwhole
    have htime : timeWithin limits.timeout answer.1 = answer.1.delay.min limits.timeout := by
      rw [timeWithin, hwhole.roundedUp, hlimit.roundedUp]
    refine ⟨.seen artifact answer.1, ?_⟩
    cases hreturned : returned limits answer.1 with
    | error cause =>
        rw [hreturned, Prod.mk.injEq] at h
        obtain ⟨rfl, rfl⟩ := h
        obtain ⟨hraise, herror⟩ := returned_eq_error_iff.mp hreturned
        refine ⟨?_, congrArg (s.elapsed.nanos + Span.nanos ·) htime, .settled (.thrown hraise herror)⟩
        simp [Look.events]
    | ok x =>
        rw [hreturned, Prod.mk.injEq] at h
        obtain ⟨rfl, rfl⟩ := h
        refine ⟨?_, congrArg (s.elapsed.nanos + Span.nanos ·) htime, .returned hreturned⟩
        simp [Look.events]

/-! ## All attempts -/

/-- How waiting ends after some attempts at which nothing was settled and a last one. -/
structure Waited (limits : Limits) (text : String) (tolerance : Double) (interval : Span)
    (attempts : Nat) (s : State (Logged W)) (earlier : List Look) (last : Look)
    (answer : Except Error Bool) (s' : State (Logged W)) : Prop where
  events : s'.world.events = s.world.events ++ (earlier ++ [last]).flatMap Look.events
  within : earlier.length < attempts
  unsettled : ∀ look ∈ earlier, ∀ a, ¬ look.Settles limits text tolerance a
  /-- The last attempt settles the matter, or nothing does and there are no more attempts. -/
  ending : last.Settles limits text tolerance answer ∨
    earlier.length + 1 = attempts ∧ answer = .ok false ∧ ∀ a, ¬ last.Settles limits text tolerance a
  /-- There is a pause after every attempt but the last. -/
  elapsed : s'.elapsed.nanos = s.elapsed.nanos +
    ((earlier ++ [last]).map (Look.time limits.timeout)).sum + earlier.length * interval.nanos
  evidence (found : Bool) : answer = .ok found → ∃ artifact reply x, last = .seen artifact reply ∧
    returned limits reply = .ok x ∧ s'.evidence = ⟨some artifact, some x⟩

section Waited

variable {interval : Span} {attempts : Nat} {s s₁ s' : State (Logged W)} {look last : Look}
  {earlier : List Look} {answer : Except Error Bool}

/-- The first attempt is the last one. -/
theorem Waited.of_last (hevents : s'.world.events = s.world.events ++ look.events)
    (helapsed : s'.elapsed.nanos = s.elapsed.nanos + look.time limits.timeout)
    (hattempts : 0 < attempts)
    (hending : look.Settles limits text tolerance answer ∨
      1 = attempts ∧ answer = .ok false ∧ ∀ a, ¬ look.Settles limits text tolerance a)
    (hevidence : ∀ found, answer = .ok found → ∃ artifact reply x, look = .seen artifact reply ∧
      returned limits reply = .ok x ∧ s'.evidence = ⟨some artifact, some x⟩) :
    Waited limits text tolerance interval attempts s [] look answer s' where
  events := by simpa using hevents
  within := hattempts
  unsettled := fun _ hlook => absurd hlook List.not_mem_nil
  ending := hending
  elapsed := by simpa using helapsed
  evidence := hevidence

/-- An attempt that settles nothing comes before the others, and a pause after it. -/
theorem Waited.after (hevents : s₁.world.events = s.world.events ++ look.events)
    (helapsed : s₁.elapsed.nanos = s.elapsed.nanos + look.time limits.timeout)
    (hinterval : interval.Whole) (hlook : ∀ a, ¬ look.Settles limits text tolerance a)
    (h : Waited limits text tolerance interval attempts (s₁.pause interval) earlier last answer s') :
    Waited limits text tolerance interval (attempts + 1) s (look :: earlier) last answer s' where
  events := by
    rw [h.events, State.pause, hevents]
    simp
  within := Nat.succ_lt_succ h.within
  unsettled := List.forall_mem_cons.mpr ⟨hlook, h.unsettled⟩
  ending := h.ending.imp_right fun ⟨hattempts, hrest⟩ => ⟨congrArg Nat.succ hattempts, hrest⟩
  elapsed := by
    have hpause : (s₁.pause interval).elapsed.nanos = s₁.elapsed.nanos + interval.nanos :=
      congrArg (s₁.elapsed.nanos + Span.nanos ·) hinterval.roundedUp
    rw [h.elapsed, hpause, helapsed, List.cons_append, List.map_cons, List.sum_cons,
      List.length_cons, Nat.succ_mul]
    omega
  evidence := h.evidence

end Waited

/-- One attempt either ends the waiting, or settles nothing and leaves the rest to the others. -/
theorem waitAtMost_step (hlimit : limits.timeout.Whole) (interval : Span)
    (hdelay : ∀ artifact w, (r.recognize artifact w).1.delay.Whole) (count : Nat)
    (s : State (Logged W)) :
    (∃ look, Waited limits text tolerance interval (count + 1) s [] look
      (waitAtMost (logTarget t) (logRecognizer r) limits text tolerance interval (count + 1) s).1
      (waitAtMost (logTarget t) (logRecognizer r) limits text tolerance interval (count + 1) s).2) ∨
    count ≠ 0 ∧ ∃ (look : Look) (s₁ : State (Logged W)),
      s₁.world.events = s.world.events ++ look.events ∧
      s₁.elapsed.nanos = s.elapsed.nanos + look.time limits.timeout ∧
      (∀ a, ¬ look.Settles limits text tolerance a) ∧
      waitAtMost (logTarget t) (logRecognizer r) limits text tolerance interval (count + 1) s =
        waitAtMost (logTarget t) (logRecognizer r) limits text tolerance interval count
          (s₁.pause interval) := by
  rcases hfirst : captureAndRecognize (logTarget t) (logRecognizer r) limits .viewport s with
    ⟨outcome, s₁⟩
  obtain ⟨look, hevents, helapsed, hlooked⟩ :=
    captureAndRecognize_looked text tolerance t r hlimit hdelay hfirst
  simp only [waitAtMost, hfirst]
  generalize he : s₁.evidence = evidence at hlooked
  cases hlooked with
  | settled hsettles =>
      refine .inl ⟨look, .of_last hevents helapsed (Nat.succ_pos _) (.inl hsettles) ?_⟩
      rintro found ⟨⟩
  | @returned artifact reply x hreturned =>
      have hsettles (a : Except Error Bool) :
          (Look.seen artifact reply).Settles limits text tolerance a ↔ a = .ok true ∧
            (⟨some artifact, some x⟩ : Evidence).containsText text tolerance = true :=
        Look.settles_iff_of_returned hreturned
      cases htext : (⟨some artifact, some x⟩ : Evidence).containsText text tolerance with
      | true =>
          simp only [he, htext, if_true]
          exact .inl ⟨_, .of_last hevents helapsed (Nat.succ_pos _)
            (.inl ((hsettles _).mpr ⟨rfl, htext⟩))
            fun _ _ => ⟨artifact, reply, x, rfl, hreturned, he⟩⟩
      | false =>
          have hnone : ∀ a, ¬ (Look.seen artifact reply).Settles limits text tolerance a := by
            intro a ha
            rw [hsettles, htext] at ha
            cases ha.2
          simp only [he, htext, Bool.false_eq_true, if_false]
          cases count with
          | zero =>
              exact .inl ⟨_, .of_last hevents helapsed (Nat.succ_pos _) (.inr ⟨rfl, rfl, hnone⟩)
                fun _ _ => ⟨artifact, reply, x, rfl, hreturned, he⟩⟩
          | succ count =>
              exact .inr ⟨Nat.succ_ne_zero _, _, s₁, hevents, helapsed, hnone, rfl⟩

theorem waitAtMost_waited (hlimit : limits.timeout.Whole) {interval : Span}
    (hinterval : interval.Whole) (hdelay : ∀ artifact w, (r.recognize artifact w).1.delay.Whole)
    (count : Nat) (s : State (Logged W)) :
    ∃ earlier last, Waited limits text tolerance interval (count + 1) s earlier last
      (waitAtMost (logTarget t) (logRecognizer r) limits text tolerance interval (count + 1) s).1
      (waitAtMost (logTarget t) (logRecognizer r) limits text tolerance interval (count + 1) s).2 := by
  induction count generalizing s with
  | zero =>
      rcases waitAtMost_step t r hlimit interval hdelay 0 s with ⟨look, h⟩ | ⟨hcount, -⟩
      · exact ⟨[], look, h⟩
      · exact absurd rfl hcount
  | succ count ih =>
      rcases waitAtMost_step t r hlimit interval hdelay (count + 1) s with
        ⟨look, h⟩ | ⟨-, look, s₁, hevents, helapsed, hlook, hrest⟩
      · exact ⟨[], look, h⟩
      · obtain ⟨earlier, last, h⟩ := ih (s₁.pause interval)
        rw [hrest]
        exact ⟨look :: earlier, last, h.after hevents helapsed hinterval hlook⟩

/-- Waiting for a text takes as many looks as it needs to settle the matter, or as many as there are
attempts, of which there is at least one. Each look is a capture of the viewport and a recognition of
its picture if there is one. The time that passes is that of the recognitions, of which each takes no
longer than its limit, and of a pause between two looks. What is known in the end comes from the last
look, unless it threw an error. -/
theorem waitForText_ends (t : Target W) (r : Recognizer W) (limits : Limits) (text : String)
    (tolerance : Double) (attempts : Nat) (interval : Span) (e : Evidence) (spent : Span) (w : W)
    (hlimit : limits.timeout.Whole) (hinterval : interval.Whole)
    (hdelay : ∀ artifact w, (r.recognize artifact w).1.delay.Whole) :
    let start : State (Logged W) := ⟨e, spent, ⟨w, []⟩⟩
    let run := waitForText (logTarget t) (logRecognizer r) limits text tolerance attempts interval start
    Prod.map id (State.map Logged.world) run =
        waitForText t r limits text tolerance attempts interval ⟨e, spent, w⟩ ∧
      ∃ earlier last,
        Waited limits text tolerance interval (max attempts 1) start earlier last run.1 run.2 ∧
        run.2.world.events.filterMap Event.call =
          List.replicate (earlier.length + 1) (.capture .viewport) ∧
        run.2.world.events.filterMap Event.recognized =
          (earlier ++ [last]).filterMap Look.artifact? := by
  intro start run
  refine ⟨(logged_mirrors t r).waitAtMost_map limits text tolerance interval _ _, ?_⟩
  obtain ⟨count, hcount⟩ : ∃ count, max attempts 1 = count + 1 := ⟨max attempts 1 - 1, by omega⟩
  simp only [run, waitForText]
  rw [hcount]
  obtain ⟨earlier, last, h⟩ := waitAtMost_waited t r hlimit hinterval hdelay count start
  refine ⟨earlier, last, h, ?_, ?_⟩
  · rw [h.events, List.nil_append, List.filterMap_flatMap]
    simp only [Look.calls_events]
    rw [← List.map_eq_flatMap, List.map_const', List.length_append, List.length_singleton]
  · rw [h.events, List.nil_append, List.filterMap_flatMap]
    simp only [Look.recognized_events]
    exact (List.filterMap_eq_flatMap_toList _ _).symm

/-- A recognizer that finds an old text first, then takes too long, and then finds the new text. -/
def thirdTime : Recognizer Nat :=
  ⟨fun _ w => (if w = 0 then ⟨.ok (.completed "Saving" .one []), .ofMillis 20⟩
    else if w = 1 then ⟨.ok (.completed "Saved" .one []), .ofMillis 60000⟩
    else ⟨.ok (.completed "Saved" .one []), .ofMillis 30⟩, w + 1)⟩

theorem saved_at_third_look :
    let t : Target Nat := ⟨"panel", fun _ w => (.ok (), w), fun _ w => (.ok "/shots/1.png", w)⟩
    let limits : Limits := ⟨.ofMillis 100, false⟩
    let interval : Span := .ofMillis 250
    let start : State (Logged Nat) := ⟨.none, .zero, ⟨0, []⟩⟩
    let run := waitForText (logTarget t) (logRecognizer thirdTime) limits "saved" .one 5 interval start
    (limits.timeout.Whole ∧ interval.Whole ∧
      ∀ artifact w, (thirdTime.recognize artifact w).1.delay.Whole) ∧
      run.1.toOption = some true ∧ run.2.elapsed = .ofMillis 650 ∧
      ∃ earlier last, earlier.length = 2 ∧
        Waited limits "saved" .one interval 5 start earlier last run.1 run.2 := by
  intro t limits interval start run
  have hdelay : ∀ artifact w, (thirdTime.recognize artifact w).1.delay.Whole := by
    intro artifact w
    unfold thirdTime Span.Whole
    dsimp only
    split_ifs <;> decide
  have hlimit : limits.timeout.Whole := by unfold Span.Whole; decide
  have hinterval : interval.Whole := by unfold Span.Whole; decide
  obtain ⟨-, earlier, last, h, hcalls, -⟩ :=
    waitForText_ends t thirdTime limits "saved" .one 5 interval .none .zero 0 hlimit hinterval hdelay
  have hcount : (run.2.world.events.filterMap Event.call).length = 3 := by decide +kernel
  refine ⟨⟨hlimit, hinterval, hdelay⟩, by decide +kernel, by decide +kernel, earlier, last, ?_, h⟩
  rw [hcalls, List.length_replicate] at hcount
  omega

end Audit

end PageAudit
