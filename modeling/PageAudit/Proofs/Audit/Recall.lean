import PageAudit.Proofs.Audit.Coherence
import PageAudit.Proofs.Text.Blank
import PageAudit.Proofs.Text.Search

/-!
# What the evidence answers from

A question about the recognized text is answered from the last recognition since the last picture
that returned anything. Where no errors are wanted every recognition returns something, so that
nothing is answered once the last one failed. Where errors are wanted, a recognition that throws one
leaves the answers of an earlier one in force.
-/

namespace PageAudit.Audit

open Capture (Target)
open Recognition (Recognizer Reply)

variable {W : Type} {t : Target W} {r : Recognizer W} {limits : Limits}

/-! ## Requests -/

/-- An operation, or the recognition of any picture at all. -/
inductive Request where
  | operation (op : Operation)
  | recognize (artifact : String)

def Request.perform (t : Target W) (r : Recognizer W) (limits : Limits) (s : State W) :
    Request → State W
  | operation op => (op.perform t r limits s).2
  | recognize artifact => (Audit.recognize r limits artifact s).2

/-- The state after requests, whether or not they throw errors. -/
def fulfil (t : Target W) (r : Recognizer W) (limits : Limits) (requests : List Request)
    (s : State W) : State W :=
  requests.foldl (fun s request => request.perform t r limits s) s

theorem Mirrors.fulfil_map {V : Type} {f : V → W} {t' : Target V} {r' : Recognizer V}
    (m : Mirrors f t' r' t r) (limits : Limits) (requests : List Request) (s : State V) :
    (fulfil t' r' limits requests s).map f = fulfil t r limits requests (s.map f) := by
  induction requests generalizing s with
  | nil => rfl
  | cons request requests ih =>
      have hfirst : (request.perform t' r' limits s).map f =
          request.perform t r limits (s.map f) := by
        cases request with
        | operation op => exact congrArg Prod.snd (m.perform_map limits op s)
        | recognize artifact => exact congrArg Prod.snd (m.recognize_map limits artifact s)
      simp only [fulfil, List.foldl_cons] at ih ⊢
      rw [ih, hfirst]

/-- What every step keeps is kept by requests if the recognition of any picture keeps it too. -/
theorem Kept.fulfil {P : State W → Prop} (k : Kept t r limits P)
    (hrecognize : ∀ artifact s, P s → P (Audit.recognize r limits artifact s).2)
    (requests : List Request) {s : State W} (hs : P s) : P (fulfil t r limits requests s) := by
  induction requests generalizing s with
  | nil => exact hs
  | cons request requests ih =>
      cases request with
      | operation op => exact ih (k.perform op hs)
      | recognize artifact => exact ih (hrecognize artifact s hs)

/-! ## The result is what was returned last -/

abbrev Recalling (limits : Limits) (s : State (Watched W)) : Prop :=
  s.evidence.result =
    (sinceLastPicture s.world.history).findSome? (Observation.result limits)

theorem recalling_recognize (r : Recognizer W) (artifact : String) {s : State (Watched W)}
    (h : Recalling limits s) :
    Recalling limits (recognize (watchRecognizer r) limits artifact s).2 := by
  rw [recognize_eq]
  exact result_afterRecognition h artifact _

theorem recalling_kept (t : Target W) (r : Recognizer W) (limits : Limits) :
    Kept (watchTarget t) (watchRecognizer r) limits (Recalling limits) where
  capture extent s h := by
    rw [capture_eq]
    exact result_afterCapture h _
  recognize _ h := recalling_recognize r _ h
  pause _ _ h := h

theorem recalling_fulfil (requests : List Request) {s : State (Watched W)}
    (hs : Recalling limits s) :
    Recalling limits (fulfil (watchTarget t) (watchRecognizer r) limits requests s) :=
  (recalling_kept t r limits).fulfil (fun artifact _ h => recalling_recognize r artifact h) requests hs

/-! ## Answers -/

theorem containsText_iff {e : Evidence} {text : String} {tolerance : Double} :
    e.containsText text tolerance = true ↔ ∃ x, e.result = some x ∧ x.isFailed = false ∧
      Matching.isMatch x.rawText text .partially tolerance = true := by
  unfold Evidence.containsText
  cases e.result with
  | none => simp
  | some x => simp

/-- The empty text is part of every text. -/
theorem isMatch_empty (text : String) (tolerance : Double) :
    Matching.isMatch text "" .partially tolerance = true := by
  have hempty : Text.lower "" = "" := Text.lower_eq_empty_iff.mpr rfl
  have hcontains : Text.contains (Text.lower text) (Text.lower "") = true := by
    rw [Text.contains_iff, hempty]
    exact List.nil_infix
  simp [Matching.isMatch, hcontains]

theorem containsText_eq_false_iff {e : Evidence} :
    (∀ text tolerance, e.containsText text tolerance = false) ↔
      ¬ ∃ x, e.result = some x ∧ x.isFailed = false := by
  constructor
  · rintro h ⟨x, hx, hfailed⟩
    have hanswer : e.containsText "" .zero = true :=
      containsText_iff.mpr ⟨x, hx, hfailed, isMatch_empty _ _⟩
    rw [h] at hanswer
    cases hanswer
  · intro h text tolerance
    rw [← Bool.not_eq_true, containsText_iff]
    rintro ⟨x, hx, hfailed, -⟩
    exact h ⟨x, hx, hfailed⟩

/-! ## Attempts -/

def Observation.attempt : Observation → Option (String × Reply)
  | capture _ => none
  | recognition artifact reply => some (artifact, reply)

/-- The last recognition that was attempted in a history, which has the latest first. -/
def lastAttempt (history : List Observation) : Option (String × Reply) :=
  history.findSome? Observation.attempt

/-- The last attempt at a recognition failed, or there has been none since the last picture. -/
def Unanswered (timeout : Span) (history : List Observation) : Prop :=
  (∃ artifact reply reason, lastAttempt history = some (artifact, reply) ∧
    Fails timeout reply reason) ∨ lastAttempt (sinceLastPicture history) = none

/-- A recognition has completed since the last picture, and none that came after it has returned
anything. -/
def Remembered (limits : Limits) (history : List Observation) : Prop :=
  ∃ late artifact reply early x,
    sinceLastPicture history = late ++ .recognition artifact reply :: early ∧
      Completes limits.timeout reply x ∧ ∀ o ∈ late, o.result limits = none

section Histories

variable {history : List Observation}

theorem remembered_iff : Remembered limits history ↔
    ∃ x, (sinceLastPicture history).findSome? (Observation.result limits) = some x ∧
      x.isFailed = false := by
  constructor
  · rintro ⟨late, artifact, reply, early, x, hsince, hcompletes, hlate⟩
    obtain ⟨hx, hfailed⟩ := completes_iff_returned.mp hcompletes
    refine ⟨x, ?_, hfailed⟩
    have hlast : Observation.result limits (.recognition artifact reply) = some x := by
      rw [Observation.result, hx]
      rfl
    rw [hsince, List.findSome?_append, List.findSome?_eq_none_iff.mpr hlate,
      List.findSome?_cons, hlast]
    rfl
  · rintro ⟨x, hx, hfailed⟩
    obtain ⟨late, o, early, hsince, ho, hlate⟩ := List.findSome?_eq_some_iff.mp hx
    cases o with
    | capture answer => cases ho
    | recognition artifact reply =>
        have hreturned : returned limits reply = .ok x := by
          rw [Observation.result] at ho
          cases hr : returned limits reply with
          | ok y =>
              rw [hr] at ho
              cases ho
              rfl
          | error e =>
              rw [hr] at ho
              cases ho
        exact ⟨late, artifact, reply, early, x, hsince,
          completes_iff_returned.mpr ⟨hreturned, hfailed⟩, hlate⟩

/-- Where no errors are wanted, what has returned nothing is no recognition. -/
theorem attempt_eq_none (hraise : limits.raise = false) {o : Observation}
    (ho : o.result limits = none) : o.attempt = none := by
  cases o with
  | capture answer => rfl
  | recognition artifact reply =>
      obtain ⟨x, hx⟩ := exists_returned hraise reply
      rw [Observation.result, hx] at ho
      cases ho

theorem Unanswered.not_remembered (h : Unanswered limits.timeout history)
    (hraise : limits.raise = false) : ¬ Remembered limits history := by
  rintro ⟨late, artifact, reply, early, x, hsince, hcompletes, hlate⟩
  have hlast : lastAttempt (sinceLastPicture history) = some (artifact, reply) := by
    have hnone : late.findSome? Observation.attempt = none :=
      List.findSome?_eq_none_iff.mpr fun o ho => attempt_eq_none hraise (hlate o ho)
    rw [lastAttempt, hsince, List.findSome?_append, hnone]
    rfl
  rcases h with ⟨artifact', reply', reason, hattempt, hfails⟩ | hnone
  · -- the last attempt since the last picture is the last of all
    have hsplit : lastAttempt history = (lastAttempt (sinceLastPicture history)).or
        (lastAttempt (history.dropWhile (·.picture.isNone))) := by
      rw [lastAttempt, lastAttempt, lastAttempt, ← List.findSome?_append, sinceLastPicture,
        List.takeWhile_append_dropWhile]
    rw [hsplit, hlast] at hattempt
    cases hattempt
    exact hcompletes.not_fails hfails
  · rw [hnone] at hlast
    cases hlast

end Histories

/-- After any requests, and at every moment of the next one, no text is found exactly if no completed
recognition is remembered. Where no errors are wanted, none is remembered once the last attempt at a
recognition has failed, or as long as none was made since the last picture. -/
theorem no_text_found_iff_not_remembered (t : Target W) (r : Recognizer W) (limits : Limits)
    (requests : List Request) (w : W) :
    let s := fulfil t r limits requests (.start w)
    let watched := fulfil (watchTarget t) (watchRecognizer r) limits requests (.start ⟨w, []⟩)
    watched.map Watched.world = s ∧
      ∀ v, Steps (watchTarget t) (watchRecognizer r) limits watched v →
        ((∀ text tolerance, v.evidence.containsText text tolerance = false) ↔
          ¬ Remembered limits v.world.history) ∧
        (limits.raise = false → Unanswered limits.timeout v.world.history →
          ∀ text tolerance, v.evidence.containsText text tolerance = false) := by
  intro s watched
  have hwatched : Recalling limits watched := recalling_fulfil requests rfl
  refine ⟨(watched_mirrors t r).fulfil_map limits requests _, fun v hv => ?_⟩
  have hv : Recalling limits v := (recalling_kept t r limits).steps hv hwatched
  have hiff : (∀ text tolerance, v.evidence.containsText text tolerance = false) ↔
      ¬ Remembered limits v.world.history := by
    rw [containsText_eq_false_iff, remembered_iff, hv]
  exact ⟨hiff, fun hraise h => hiff.mpr (h.not_remembered hraise)⟩

/-- A recognizer that replies once and is offline from then on. -/
def onlineOnce (reply : Reply) : Recognizer Nat :=
  ⟨fun _ w => (if w = 0 then reply else ⟨.error (.service "model offline"), .zero⟩, w + 1)⟩

/-- Where errors are wanted, a text is still found after the last attempt at its recognition has
failed. -/
theorem text_found_after_thrown_error :
    let t : Target Nat := ⟨"panel", fun _ w => (.ok (), w), fun _ w => (.ok "/shots/1.png", w)⟩
    let r := onlineOnce ⟨.ok (.completed "Saved" .one []), .zero⟩
    let limits : Limits := ⟨.ofSeconds 30, true⟩
    let v := fulfil (watchTarget t) (watchRecognizer r) limits
      [.operation (.capture .viewport), .operation .recognizeLast, .operation .recognizeLast]
      (.start ⟨0, []⟩)
    Unanswered limits.timeout v.world.history ∧
      v.evidence.containsText "Saved" Matching.defaultTolerance = true := by
  refine ⟨Or.inl ⟨"/shots/1.png", ⟨.error (.service "model offline"), .zero⟩, _, rfl,
    .error ?_ rfl⟩, by decide +kernel⟩
  unfold InTime
  decide

end PageAudit.Audit
