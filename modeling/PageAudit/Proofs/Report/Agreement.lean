import PageAudit.Proofs.Html.Reading
import PageAudit.Proofs.Report.Documents

/-!
# Agreement of the formats

What a rendered report shows is what its documents say: a document is read member by member, without
the decoder of reports, and gives the same totals, modules and pages as the elements of the rendered
report do.
-/

namespace PageAudit

namespace Json

/-! ## Looking into documents -/

def member? (name : String) : Json → Option Json
  | object members => members.lookup name
  | _ => none

def text? : Json → Option String
  | string s => some s
  | _ => none

def flag? : Json → Option Bool
  | bool b => some b
  | _ => none

def count? : Json → Option Nat
  | number n =>
    if n.negative = false ∧ n.fraction = [] ∧ n.exponent = none then some (Digit.value n.whole)
    else none
  | _ => none

def items? : Json → Option (List Json)
  | array items => some items
  | _ => none

def members? : Json → Option (List (String × Json))
  | object members => some members
  | _ => none

@[simp] theorem count?_ofNat (n : Nat) : (ofNat n).count? = some n := by
  rw [ofNat, count?, Numeral.ofNat, if_pos ⟨rfl, rfl, rfl⟩, Digit.value_ofNat]

theorem lookup_optional (other name : String) (value : Option Json) (rest : List (String × Json)) :
    (Json.optional name value ++ rest).lookup other =
      if other = name then value.or (rest.lookup other) else rest.lookup other := by
  cases value with
  | none => simp [Json.optional]
  | some j =>
      by_cases h : other = name
      · simp [Json.optional, h]
      · simp [Json.optional, List.lookup_cons, beq_false_of_ne h, h]

end Json

namespace Report

open Json

/-! ## What a document says -/

def moduleSaid? (entry : String × Json) : Option (String × ModuleTotals) := do
  let total ← (entry.2.member? "total").bind count?
  let passed ← (entry.2.member? "passed").bind count?
  let failed ← (entry.2.member? "failed").bind count?
  some (entry.1, ⟨total, passed, failed⟩)

def checkSaid? (j : Json) : Option (Bool × String) := do
  let kind ← (j.member? "kind").bind text?
  let passed ← (j.member? "passed").bind flag?
  let message ← (j.member? "message").bind text?
  some (passed, checkText kind message)

/-- The error as an item that failed. -/
def errorSaid? (j : Json) : Option (List (Bool × String)) :=
  match j.member? "error" with
  | none => some []
  | some error => error.text?.map fun text => [(false, text)]

def pageSaid? (j : Json) : Option PageLine := do
  let passed ← (j.member? "passed").bind flag?
  let name ← (j.member? "page_name").bind text?
  let route ← (j.member? "route").bind text?
  let error ← errorSaid? j
  let checks ← (j.member? "checks").bind items?
  let outcomes ← checks.mapM checkSaid?
  let duration ← (j.member? "duration_ms").bind count?
  some ⟨passed, name, route, error ++ outcomes, duration⟩

/-- What the document of a report says of the things that a rendered report shows. -/
def said? (document : Json) : Option Shown := do
  let totals ← document.member? "stats"
  let total ← (totals.member? "total").bind count?
  let passed ← (totals.member? "passed").bind count?
  let failed ← (totals.member? "failed").bind count?
  let modules ← (document.member? "by_module").bind members?
  let modules ← modules.mapM moduleSaid?
  let pages ← (document.member? "results").bind items?
  let pages ← pages.mapM pageSaid?
  some ⟨total, passed, failed, modules, pages⟩

theorem moduleSaid?_toJson (entry : String × ModuleTotals) :
    moduleSaid? (entry.1, entry.2.toJson) = some entry := by
  simp [moduleSaid?, ModuleTotals.toJson, member?, List.lookup_cons]

theorem checkSaid?_toJson (c : Check.Outcome) :
    checkSaid? c.toJson = some (c.passed, checkText c.kind.label c.message) := by
  simp [checkSaid?, Check.Outcome.toJson, Check.Kind.toJson, member?, List.lookup_cons, text?, flag?]

theorem errorSaid?_toJson (p : PageResult) :
    errorSaid? p.toJson = some (p.error.toList.map fun error => (false, error)) := by
  have herror : p.toJson.member? "error" = p.error.map string := by
    simp [PageResult.toJson, member?, List.lookup_cons, lookup_optional]
  rw [errorSaid?, herror]
  cases p.error with
  | none => rfl
  | some error => rfl

theorem pageSaid?_toJson (p : PageResult) : pageSaid? p.toJson = some (pageLine p) := by
  have hchecks := Html.mapM_map checkSaid?_toJson p.checks
  rw [pageSaid?, errorSaid?_toJson]
  simp [PageResult.toJson, member?, List.lookup_cons, lookup_optional, text?, flag?, items?, hchecks,
    pageLine]

theorem said?_toJson (r : Report) : said? r.toJson = some r.shown := by
  have hmodules := Html.mapM_map moduleSaid?_toJson r.byModule
  have hpages := Html.mapM_map pageSaid?_toJson r.results
  simp [said?, Report.toJson, Totals.toJson, member?, List.lookup_cons, members?, items?, hmodules, hpages,
    shown]

/-! ## Agreement -/

/-- A rendered report shows the report; so reports that are rendered alike show the same, and either
document of a report says what the rendered report shows. -/
theorem formats_agree (r : Report) :
    Html.shown? (r.render .html) = some r.shown ∧
      (∀ s : Report, s.render .html = r.render .html → s.shown = r.shown) ∧
      ∀ format ∈ [Format.json, .jsonPretty],
        (ofString? (r.render format)).bind said? = Html.shown? (r.render .html) := by
  have hshown (s : Report) : Html.shown? (s.render .html) = some s.shown := Html.shown?_render s
  refine ⟨hshown r, fun s halike => ?_, fun format hformat => ?_⟩
  · refine Option.some.inj ?_
    rw [← hshown s, halike, hshown r]
  · rw [ofString?_render hformat, Option.bind_some, said?_toJson, hshown r]

/-- The report with another target and another end, which a rendered report does not show. -/
def retargeted (r : Report) (target : String) : Report :=
  { r with endTime := r.startTime, environment := { r.environment with target } }

theorem contradictory_agrees :
    (contradictory.retargeted "elsewhere").shown = contradictory.shown ∧
      (ofString? (contradictory.render .json)).bind said? = some contradictory.shown := by
  obtain ⟨hshown, halike, hdocuments⟩ := formats_agree contradictory
  refine ⟨halike (contradictory.retargeted "elsewhere") rfl, ?_⟩
  rw [hdocuments .json List.mem_cons_self, hshown]

end Report

end PageAudit
