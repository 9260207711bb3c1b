import PageAudit.Check.Kind

/-!
What came of validating one page.
-/

namespace PageAudit

structure PageResult where
  pageName : String
  route : String
  /-- Whether every check that was made has passed. -/
  passed : Bool
  checks : List Check.Outcome
  screenshot : Option String
  /-- Why the page could not be validated. -/
  error : Option String
  durationMs : Nat
  timestamp : Moment
  deriving DecidableEq

namespace PageResult

def ofJson : Decoder PageResult := fun j => do
  let fields : Json.Fields [String, String, Bool, List Check.Outcome, Option String, Option String,
      Nat, Moment] :=
    (.required "page_name" Json.toText,
      .required "route" Json.toText,
      .required "passed" Json.toBool,
      .required "checks" (Json.toList Check.Outcome.ofJson),
      .optional "screenshot_path" Json.toPath,
      .optional "error" Json.toText,
      .required "duration_ms" Json.toCount,
      .required "timestamp" Json.toMoment, ())
  let (pageName, route, passed, checks, screenshot, error, durationMs, timestamp, _) ←
    fields.decode "PageResult" j
  .ok ⟨pageName, route, passed, checks, screenshot, error, durationMs, timestamp⟩

def toJson (r : PageResult) : Json :=
  .object ([("page_name", .string r.pageName), ("route", .string r.route),
    ("passed", .bool r.passed), ("checks", .array (r.checks.map Check.Outcome.toJson))] ++
    Json.optional "screenshot_path" (r.screenshot.map .string) ++
    Json.optional "error" (r.error.map .string) ++
    [("duration_ms", .ofNat r.durationMs), ("timestamp", .string r.timestamp.text)])

def failedChecks (r : PageResult) : List Check.Outcome := r.checks.filter (!·.passed)

end PageResult

end PageAudit
