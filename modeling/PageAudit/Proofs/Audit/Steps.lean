import PageAudit.Audit.Evidence

/-!
# Single captures and recognitions

What the two steps of an audit return and what they leave behind, in terms of the answers that the
target and the recognizer give. Everything else about audits rests on the equations of this module.
-/

namespace PageAudit.Audit

open Capture (Extent Target)
open Recognition (Recognizer Reply Result)

variable {W : Type}

/-! ## Captures -/

/-- The evidence after a capture: a new picture, or what there was before. -/
def Evidence.afterCapture (e : Evidence) : Except Capture.Error String → Evidence
  | .ok artifact => .ofArtifact artifact
  | .error _ => e

theorem capture_eq (t : Target W) (extent : Extent) (s : State W) :
    capture t extent s =
      ((t.capture extent s.world).1,
        ⟨s.evidence.afterCapture (t.capture extent s.world).1, s.elapsed,
          (t.capture extent s.world).2⟩) := by
  unfold capture
  rcases t.capture extent s.world with ⟨_ | _, w⟩ <;> rfl

/-- A capture that succeeds leaves its picture as the only evidence. -/
theorem capture_ok {t : Target W} {extent : Extent} {artifact : String} {s s' : State W}
    (h : capture t extent s = (.ok artifact, s')) :
    t.capture extent s.world = (.ok artifact, s'.world) ∧ s'.evidence = .ofArtifact artifact := by
  rw [capture_eq, Prod.mk.injEq] at h
  obtain ⟨houtcome, rfl⟩ := h
  exact ⟨Prod.ext houtcome rfl, by rw [houtcome]; rfl⟩

theorem artifact_of_capture {t : Target W} {extent : Extent} {artifact : String} {s s' : State W}
    (h : capture t extent s = (.ok artifact, s')) : s'.evidence.artifact = some artifact := by
  rw [(capture_ok h).2]
  rfl

/-! ## Recognitions -/

def InTime (timeout : Span) (reply : Reply) : Prop :=
  reply.delay.roundedUp.nanos ≤ timeout.roundedUp.nanos

/-- What a recognition returns for a reply: an error only where errors are wanted. -/
def returned (limits : Limits) (reply : Reply) : Except Recognition.Error Result :=
  match outcomeWithin limits.timeout reply with
  | .ok x => .ok x
  | .error e => if limits.raise then .error e else .ok (.failed e.message)

/-- The evidence after a recognition: its result, or what there was before. -/
def Evidence.afterRecognition (e : Evidence) : Except Recognition.Error Result → Evidence
  | .ok x => e.withResult x
  | .error _ => e

theorem recognize_eq (r : Recognizer W) (limits : Limits) (artifact : String) (s : State W) :
    recognize r limits artifact s =
      (returned limits (r.recognize artifact s.world).1,
        ⟨s.evidence.afterRecognition (returned limits (r.recognize artifact s.world).1),
          s.elapsed + timeWithin limits.timeout (r.recognize artifact s.world).1,
          (r.recognize artifact s.world).2⟩) := by
  simp only [recognize, returned]
  split
  · rename_i h
    rw [h]
    rfl
  · rename_i h
    rw [h]
    cases limits.raise <;> rfl

theorem artifact_recognize (r : Recognizer W) (limits : Limits) (artifact : String)
    (s : State W) :
    (recognize r limits artifact s).2.evidence.artifact = s.evidence.artifact := by
  rw [recognize_eq]
  dsimp only
  cases returned limits (r.recognize artifact s.world).1 <;> rfl

/-! ## How a recognition ends -/

/-- The recognition comes to its end in time, with this result. -/
structure Completes (timeout : Span) (reply : Reply) (x : Result) : Prop where
  inTime : InTime timeout reply
  outcome : reply.outcome = .ok x
  status : x.status = .completed

/-- The recognition fails, for this reason. -/
inductive Fails (timeout : Span) (reply : Reply) : String → Prop where
  | error {e : Recognition.Error} : InTime timeout reply → reply.outcome = .error e →
      Fails timeout reply e.message
  | late : ¬ InTime timeout reply → Fails timeout reply (Recognition.Error.timeout timeout).message
  /-- The recognizer answers with a result of failure. -/
  | failed {x : Result} : InTime timeout reply → reply.outcome = .ok x → x.status = .failed →
      Fails timeout reply x.failureReason

theorem fails_or_completes (timeout : Span) (reply : Reply) :
    (∃ reason, Fails timeout reply reason) ∨ ∃ x, Completes timeout reply x := by
  by_cases ht : InTime timeout reply
  · cases ho : reply.outcome with
    | error e => exact Or.inl ⟨_, .error ht ho⟩
    | ok x =>
        cases hs : x.status with
        | completed => exact Or.inr ⟨x, ht, ho, hs⟩
        | failed => exact Or.inl ⟨_, .failed ht ho hs⟩
  · exact Or.inl ⟨_, .late ht⟩

theorem outcomeWithin_of_inTime {timeout : Span} {reply : Reply} (h : InTime timeout reply) :
    outcomeWithin timeout reply = reply.outcome := by
  unfold InTime at h
  rw [outcomeWithin, if_pos h]

theorem outcomeWithin_of_late {timeout : Span} {reply : Reply} (h : ¬ InTime timeout reply) :
    outcomeWithin timeout reply = .error (.timeout timeout) := by
  unfold InTime at h
  rw [outcomeWithin, if_neg h]

theorem Completes.returned {limits : Limits} {reply : Reply} {x : Result}
    (h : Completes limits.timeout reply x) : returned limits reply = .ok x := by
  rw [Audit.returned, outcomeWithin_of_inTime h.inTime, h.outcome]

/-- Where no errors are wanted, every failure becomes a failed result that states its reason. -/
theorem Fails.returned {limits : Limits} {reply : Reply} {reason : String}
    (h : Fails limits.timeout reply reason) (hraise : limits.raise = false) :
    ∃ x, returned limits reply = .ok x ∧ x.isFailed = true ∧ x.failureReason = reason := by
  cases h with
  | error ht ho =>
      rename_i e
      refine ⟨.failed e.message, ?_, by simp [Result.failed, Result.isFailed],
        by simp [Result.failed, Result.failureReason]⟩
      simp [Audit.returned, outcomeWithin_of_inTime ht, ho, hraise]
  | late ht =>
      refine ⟨.failed (Recognition.Error.timeout limits.timeout).message, ?_,
        by simp [Result.failed, Result.isFailed], by simp [Result.failed, Result.failureReason]⟩
      simp [Audit.returned, outcomeWithin_of_late ht, hraise]
  | failed ht ho hs =>
      rename_i x
      refine ⟨x, ?_, by simp [Result.isFailed, hs], rfl⟩
      rw [Audit.returned, outcomeWithin_of_inTime ht, ho]

theorem Completes.not_fails {timeout : Span} {reply : Reply} {x : Result} {reason : String}
    (h : Completes timeout reply x) : ¬ Fails timeout reply reason := by
  rintro (⟨-, ho⟩ | hlate | ⟨-, ho, hs⟩)
  · cases h.outcome.symm.trans ho
  · exact hlate h.inTime
  · cases h.outcome.symm.trans ho
    cases h.status.symm.trans hs

theorem completes_iff_returned {limits : Limits} {reply : Reply} {x : Result} :
    Completes limits.timeout reply x ↔ returned limits reply = .ok x ∧ x.isFailed = false := by
  constructor
  · intro h
    exact ⟨h.returned, by rw [Result.isFailed, h.status]; rfl⟩
  · rintro ⟨hx, hfailed⟩
    rcases fails_or_completes limits.timeout reply with ⟨reason, h⟩ | ⟨y, h⟩
    · cases hraise : limits.raise with
      | false =>
          obtain ⟨y, hy, hyfailed, -⟩ := h.returned hraise
          cases hx.symm.trans hy
          simp [hfailed] at hyfailed
      | true =>
          cases h with
          | error ht ho => simp [Audit.returned, outcomeWithin_of_inTime ht, ho, hraise] at hx
          | late ht => simp [Audit.returned, outcomeWithin_of_late ht, hraise] at hx
          | failed ht ho hs =>
              simp only [Audit.returned, outcomeWithin_of_inTime ht, ho, Except.ok.injEq] at hx
              simp [← hx, Result.isFailed, hs] at hfailed
    · cases hx.symm.trans h.returned
      exact h

/-- A recognition throws the error of its outcome, and only where errors are wanted. -/
theorem returned_eq_error_iff {limits : Limits} {reply : Reply} {e : Recognition.Error} :
    returned limits reply = .error e ↔
      limits.raise = true ∧ outcomeWithin limits.timeout reply = .error e := by
  unfold returned
  cases outcomeWithin limits.timeout reply with
  | ok x => simp
  | error e => cases limits.raise <;> simp

/-- Where no errors are wanted, every recognition returns something. -/
theorem exists_returned {limits : Limits} (hraise : limits.raise = false) (reply : Reply) :
    ∃ x, returned limits reply = .ok x := by
  rcases fails_or_completes limits.timeout reply with ⟨reason, h⟩ | ⟨x, h⟩
  · obtain ⟨x, hx, -, -⟩ := h.returned hraise
    exact ⟨x, hx⟩
  · exact ⟨x, h.returned⟩

end PageAudit.Audit
