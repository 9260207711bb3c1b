import PageAudit.Proofs.Audit.Validation
import PageAudit.Proofs.Recognition.Responses

/-!
# What the errors of a service do to a page

A body that states an error is taken for a failure exactly if it has a status that does not claim
success. Then a page fails that expects success, and its other checks are skipped. Without a status the
error is passed over, and the page is checked against the text of the body, which is mostly empty.
-/

namespace PageAudit.Recognition.Response

variable {r : Response} {j : Json}

/-! ## Stated errors -/

/-- The document states an error, which is not null: under one of its names, or as the fifth item. -/
def StatesError : Json → Prop
  | .object ms => ∃ m ∈ ms, m.1 ∈ errorNames ∧ m.2 ≠ .null
  | .array items => ∃ j ∈ items[4]?, j ≠ .null
  | _ => False

def ClaimsSuccess (r : Response) : Prop := ∃ s ∈ r.status, Text.lower s ∈ successWords

theorem textOrNull_ne_null_iff {s : Option String} : textOrNull s ≠ .null ↔ s ≠ none := by
  cases s <;> simp [textOrNull]

theorem statesError_iff (h : ofJson j = .ok r) : StatesError j ↔ r.error ≠ none := by
  cases j with
  | object ms =>
      have herror := (saidBy_of_ofJson h).error
      constructor
      · rintro ⟨m, hm, hname, hnull⟩
        rw [herror.member m hm hname] at hnull
        exact textOrNull_ne_null_iff.mp hnull
      · intro hr
        obtain ⟨m, hm, hname⟩ : ∃ m ∈ ms, m.1 ∈ errorNames := by
          by_contra hnone
          exact hr (herror.missing fun m hm hname => hnone ⟨m, hm, hname⟩)
        exact ⟨m, hm, hname, herror.member m hm hname ▸ textOrNull_ne_null_iff.mpr hr⟩
  | array items =>
      obtain ⟨-, -, -, -, herror, -⟩ := ofJson_array_iff.mp h
      rw [List.take_one, List.head?_drop] at herror
      simp only [StatesError]
      cases hitem : items[4]? with
      | none =>
          rw [hitem] at herror
          have hr : r.error = none := (Option.some.inj herror).symm
          simp [hr]
      | some j =>
          rw [hitem] at herror
          have hj : j = textOrNull r.error := eq_textOrNull_of_toOption herror
          rw [← textOrNull_ne_null_iff, ← hj]
          simp
  | _ => cases h

/-- A response is taken for a result exactly if it claims success or has no status at all. -/
theorem exists_result_iff : (∃ x, r.result = .ok x) ↔ r.status = none ∨ r.ClaimsSuccess := by
  rw [ClaimsSuccess]
  rcases r.result_ends with ⟨hs, x, hx, -⟩ | ⟨hs, hx⟩ | ⟨s, hs, hother, hx⟩
  · cases hstatus : r.status with
    | none => simp [hx]
    | some s =>
        rw [hstatus] at hs
        simpa [hx, successWords] using hs
  · cases hstatus : r.status with
    | none => simp [hstatus] at hs
    | some s =>
        rw [hstatus] at hs
        have hlower : Text.lower s = "failed" ∨ Text.lower s = "error" := by simpa using hs
        rcases hlower with hlower | hlower <;> simp [hx, hlower, successWords]
  · obtain ⟨s, hstatus, rfl⟩ := Option.map_eq_some_iff.mp hs
    simp only [List.mem_cons, List.not_mem_nil, or_false, not_or] at hother
    simp [hstatus, hx, successWords, hother]

end PageAudit.Recognition.Response

namespace PageAudit.Audit

open Recognition (Response)

variable {W : Type} {eq : Equipment W} {o : Options} {page : Page} {s : State W} {w₁ w₂ : W}
  {artifact : String}

/-! ## What becomes of the page -/

/-- The outcome passes because the check was skipped, and says for which reason. -/
structure Skipped (reason : String) (c : Check.Outcome) : Prop where
  passed : c.passed = true
  message : c.message =
    "Recognition failed (" ++ reason ++ "), " ++ c.kind.label ++ " check skipped"
  snapshot : c.snapshot = none

/-- Where no errors are wanted, a failed recognition fails the page that expects success, and all other
checks are skipped. -/
theorem validate_skips {reason : String}
    (hnav : eq.target.navigate page.route s.world = (.ok (), w₁))
    (hcap : eq.target.capture o.extent w₁ = (.ok artifact, w₂))
    (hskip : o.skipServiceCheck = false) (hraise : o.limits.raise = false)
    (hfails : Fails o.limits.timeout (eq.recognizer.recognize artifact w₂).1 reason) :
    ∃ result, (validate eq o page s).1 = .ok result ∧
      (page.successTexts ≠ none → result.passed = false) ∧
      ∀ c ∈ result.checks, c.kind ≠ .successMessage → Skipped reason c := by
  obtain ⟨x, hx, hfailed, rfl⟩ := hfails.returned hraise
  obtain ⟨result, hok, hchecks, hpassed⟩ := validate_of_captured hnav hcap hskip hx
  refine ⟨result, hok, ?_, ?_⟩
  · rw [hpassed, hchecks, ← Bool.not_eq_true]
    exact mt (Page.allPassed_checks_of_failed hfailed).mp
  · intro c hc hkind
    rw [hchecks, Check.evaluate, List.mem_map] at hc
    obtain ⟨spec, -, rfl⟩ := hc
    rw [Check.kind_evaluateOne] at hkind
    rw [Check.evaluateOne_of_failed hfailed, if_neg hkind]
    exact ⟨rfl, rfl, rfl⟩

/-- A body states an error and does not claim success. If it has a status, it is an error of the
service, or its status is unknown; the page fails if it expects success, and its other checks are skipped.
If it has none, it is taken for a completed recognition, and the page is checked against its text. -/
theorem validate_of_stated_error (eq : Equipment W) (o : Options) (page : Page) (s : State W)
    {body : ByteArray} {j : Json} {r : Response} {w₁ w₂ : W} {artifact : String}
    (hj : Json.ofSource? (.ofBytes body) = some j) (hr : Response.ofJson j = .ok r)
    (herror : Response.StatesError j) (hclaim : ¬ r.ClaimsSuccess)
    (hnav : eq.target.navigate page.route s.world = (.ok (), w₁))
    (hcap : eq.target.capture o.extent w₁ = (.ok artifact, w₂))
    (hskip : o.skipServiceCheck = false) (hraise : o.limits.raise = false)
    (htime : InTime o.limits.timeout (eq.recognizer.recognize artifact w₂).1)
    (hreply : (eq.recognizer.recognize artifact w₂).1.outcome = Response.parse body) :
    (r.status ≠ none ∧ ∃ e, Response.parse body = .error e ∧
        ((∃ text, r.error = some text ∧ e = .service text) ∨
          ∃ s, e = .invalidResponse (.unknownStatus s)) ∧
        ∃ result, (validate eq o page s).1 = .ok result ∧
          (page.successTexts ≠ none → result.passed = false) ∧
          ∀ c ∈ result.checks, c.kind ≠ .successMessage → Skipped e.message c) ∨
      (r.status = none ∧ ∃ x, Response.parse body = .ok x ∧ r.Tells x ∧
        ∃ result, (validate eq o page s).1 = .ok result ∧
          result.checks = Check.evaluate x (page.checks o.tolerance)) := by
  obtain ⟨text, htext⟩ := Option.ne_none_iff_exists'.mp ((Response.statesError_iff hr).mp herror)
  have hparse : Response.parse body = r.result := Response.parse_of_ofJson hj hr
  have hstatus {e} (he : r.result = .error e) : r.status ≠ none := by
    intro hnone
    obtain ⟨x, hx⟩ := Response.exists_result_iff.mpr (Or.inl hnone)
    cases hx.symm.trans he
  have hskips {e} (he : r.result = .error e) :=
    validate_skips hnav hcap hskip hraise (.error htime (hreply.trans (hparse.trans he)))
  rw [hparse]
  rcases r.result_ends with ⟨-, x, hx, htells⟩ | ⟨-, he⟩ | ⟨other, -, -, he⟩
  · have hcompletes : Completes o.limits.timeout (eq.recognizer.recognize artifact w₂).1 x :=
      ⟨htime, hreply.trans (hparse.trans hx), htells.status⟩
    obtain ⟨result, hok, hchecks, -⟩ := validate_of_captured hnav hcap hskip hcompletes.returned
    exact Or.inr ⟨(Response.exists_result_iff.mp ⟨x, hx⟩).resolve_right hclaim, x, hx, htells, result,
      hok, hchecks⟩
  · rw [htext, Option.getD_some] at he
    exact Or.inl ⟨hstatus he, _, he, Or.inl ⟨text, htext, rfl⟩, hskips he⟩
  · exact Or.inl ⟨hstatus he, _, he, Or.inr ⟨other, rfl⟩, hskips he⟩

theorem unloaded_model_fails_page :
    let body := "\x7b\"status\":\"failed\",\"errorMessage\":\"model not loaded\"\x7d".toUTF8
    let page : Page := ⟨"Orders", "/orders", some "Order list", none, some [], some ["saved"],
      none, some 3, none⟩
    let eq := Equipment.constant "/shots/1.png" ⟨Response.parse body, .ofMillis 20⟩
    let o : Options := ⟨.full, false, Matching.defaultTolerance, ⟨.ofSeconds 30, false⟩⟩
    Response.parse body = .error (.service "model not loaded") ∧
      ∃ result, (validate eq o page (.start ())).1 = .ok result ∧ result.passed = false ∧
        ∀ c ∈ result.checks, c.kind ≠ .successMessage →
          Skipped "Service error: model not loaded" c := by
  intro body page eq o
  let j : Json :=
    .object [("status", .string "failed"), ("errorMessage", .string "model not loaded")]
  let r : Response := ⟨some "failed", "", [], .zero, some "model not loaded"⟩
  have hj : Json.ofSource? (.ofBytes body) = some j :=
    Json.ofSource?_of_compact (by decide +kernel)
      (by simp [j, Json.Printable, Json.Printable.PrintableMembers])
  have hr : Response.ofJson j = .ok r := rfl
  have hparse : Response.parse body = .error (.service "model not loaded") := by
    rw [Response.parse_of_ofJson hj hr]
    rfl
  have herror : Response.StatesError j :=
    ⟨("errorMessage", .string "model not loaded"), by simp, by decide, by simp⟩
  have hclaim : ¬ r.ClaimsSuccess := by
    rintro ⟨s, ⟨⟩, hs⟩
    revert hs
    decide
  have htime : InTime (Span.ofSeconds 30) ⟨Response.parse body, .ofMillis 20⟩ := by
    change (Span.ofMillis 20).roundedUp.nanos ≤ (Span.ofSeconds 30).roundedUp.nanos
    decide
  clear_value body
  rcases validate_of_stated_error eq o page (.start ()) hj hr herror hclaim rfl rfl rfl rfl htime
    rfl with ⟨-, e, he, -, result, hok, hfails, hskipped⟩ | ⟨hnone, -⟩
  · cases he.symm.trans hparse
    exact ⟨hparse, result, hok, hfails (Option.some_ne_none _), hskipped⟩
  · cases hnone

/-- An error without a status is taken for a page without any text. -/
theorem unloaded_model_completes_without_status :
    let body := "\x7b\"error\":\"model not loaded\"\x7d".toUTF8
    (∃ j r, Json.ofSource? (.ofBytes body) = some j ∧ Response.ofJson j = .ok r ∧
        Response.StatesError j ∧ ¬ r.ClaimsSuccess) ∧
      (¬ ∃ e, Response.parse body = .error e) ∧
      Response.parse body = .ok (.completed "" .zero []) := by
  intro body
  let j : Json := .object [("error", .string "model not loaded")]
  let r : Response := ⟨none, "", [], .zero, some "model not loaded"⟩
  have hj : Json.ofSource? (.ofBytes body) = some j :=
    Json.ofSource?_of_compact (by decide +kernel)
      (by simp [j, Json.Printable, Json.Printable.PrintableMembers])
  have hr : Response.ofJson j = .ok r := rfl
  have hparse : Response.parse body = .ok (.completed "" .zero []) :=
    Response.parse_of_ofJson hj hr
  refine ⟨⟨j, r, hj, hr, ?_, ?_⟩, ?_, hparse⟩
  · exact ⟨("error", .string "model not loaded"), by simp, by decide, by simp⟩
  · rintro ⟨s, ⟨⟩, -⟩
  · rintro ⟨e, he⟩
    cases he.symm.trans hparse

end PageAudit.Audit
