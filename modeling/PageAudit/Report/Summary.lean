import PageAudit.Report.PageResult
import PageAudit.Text.Blank

/-!
The report of a suite: its page results with totals for the suite and for every module.
-/

namespace PageAudit

namespace Report

structure Totals where
  total : Nat
  passed : Nat
  failed : Nat
  /-- The passed pages in percent, zero where there are no pages. -/
  passRate : Double
  deriving DecidableEq

structure ModuleTotals where
  total : Nat
  passed : Nat
  failed : Nat
  deriving DecidableEq, Inhabited

structure Environment where
  host : String
  version : String
  target : String
  headless : Bool
  skipServiceCheck : Bool
  continueOnFailure : Bool
  deriving DecidableEq

end Report

structure Report where
  startTime : Moment
  endTime : Moment
  totalDurationMs : Nat
  totals : Report.Totals
  /-- The totals of the modules, in the order in which the modules first appear. -/
  byModule : List (String × Report.ModuleTotals)
  results : List PageResult
  environment : Report.Environment
  deriving DecidableEq

namespace Report

/-! ## Building -/

def rootModule : String := "root"

/-- The module of a route: the first segment of its path. -/
def moduleKey (route : String) : String :=
  let path := route.toList.takeWhile fun c => c != '?' && c != '#'
  match (Text.piecesAt (· == '/') path).find? (!·.isEmpty) with
  | some segment => String.ofList segment
  | none => rootModule

def ModuleTotals.add (t : ModuleTotals) (passed : Bool) : ModuleTotals :=
  if passed then ⟨t.total + 1, t.passed + 1, t.failed⟩ else ⟨t.total + 1, t.passed, t.failed + 1⟩

/-- Counts a page for a module, which is added at the end if it is new. -/
def count (key : String) (passed : Bool) :
    List (String × ModuleTotals) → List (String × ModuleTotals)
  | [] => [(key, ModuleTotals.add ⟨0, 0, 0⟩ passed)]
  | (k, t) :: rest => if k = key then (k, t.add passed) :: rest else (k, t) :: count key passed rest

def tally (results : List PageResult) : List (String × ModuleTotals) :=
  results.foldl (fun table r => count (moduleKey r.route) r.passed table) []

def totalsOf (results : List PageResult) : Totals :=
  let passed := results.countP PageResult.passed
  ⟨results.length, passed, results.length - passed,
    if results.isEmpty then .zero else .percent passed results.length⟩

def build (results : List PageResult) (start stop : Moment) (environment : Environment) : Report :=
  ⟨start, stop, start.millisBetween stop, totalsOf results, tally results, results, environment⟩

def failedPages (r : Report) : List PageResult := r.results.filter (!·.passed)

/-! ## Documents -/

namespace Totals

def ofJson : Decoder Totals := fun j => do
  let fields : Json.Fields [Nat, Nat, Nat, Double] :=
    (.required "total" Json.toSize, .required "passed" Json.toSize, .required "failed" Json.toSize,
      .required "pass_rate" Json.toDouble, ())
  let (total, passed, failed, passRate, _) ← fields.decode "SuiteStats" j
  .ok ⟨total, passed, failed, passRate⟩

def toJson (t : Totals) : Json :=
  .object [("total", .ofNat t.total), ("passed", .ofNat t.passed), ("failed", .ofNat t.failed),
    ("pass_rate", .ofDouble t.passRate)]

end Totals

namespace ModuleTotals

def ofJson : Decoder ModuleTotals := fun j => do
  let fields : Json.Fields [Nat, Nat, Nat] :=
    (.required "total" Json.toSize, .required "passed" Json.toSize, .required "failed" Json.toSize,
      ())
  let (total, passed, failed, _) ← fields.decode "ModuleStats" j
  .ok ⟨total, passed, failed⟩

def toJson (t : ModuleTotals) : Json :=
  .object [("total", .ofNat t.total), ("passed", .ofNat t.passed), ("failed", .ofNat t.failed)]

end ModuleTotals

namespace Environment

def ofJson : Decoder Environment := fun j => do
  let fields : Json.Fields [String, String, String, Bool, Bool, Bool] :=
    (.required "host" Json.toText,
      .required "version" Json.toText,
      .required "target" Json.toText,
      .required "headless" Json.toBool,
      .required "skip_service_check" Json.toBool,
      .required "continue_on_failure" Json.toBool, ())
  let (host, version, target, headless, skip, go, _) ← fields.decode "RunEnvironment" j
  .ok ⟨host, version, target, headless, skip, go⟩

def toJson (e : Environment) : Json :=
  .object [("host", .string e.host), ("version", .string e.version), ("target", .string e.target),
    ("headless", .bool e.headless), ("skip_service_check", .bool e.skipServiceCheck),
    ("continue_on_failure", .bool e.continueOnFailure)]

end Environment

def ofJson : Decoder Report := fun j => do
  let fields : Json.Fields [Moment, Moment, Nat, Totals, List (String × ModuleTotals),
      List PageResult, Environment] :=
    (.required "start_time" Json.toMoment,
      .required "end_time" Json.toMoment,
      .required "total_duration_ms" Json.toCount,
      .required "stats" Totals.ofJson,
      .required "by_module" (Json.toTable ModuleTotals.ofJson),
      .required "results" (Json.toList PageResult.ofJson),
      .required "environment" Environment.ofJson, ())
  let (startTime, endTime, duration, totals, byModule, results, environment, _) ←
    fields.decode "SuiteReport" j
  .ok ⟨startTime, endTime, duration, totals, byModule, results, environment⟩

def toJson (r : Report) : Json :=
  .object [("start_time", .string r.startTime.text), ("end_time", .string r.endTime.text),
    ("total_duration_ms", .ofNat r.totalDurationMs), ("stats", r.totals.toJson),
    ("by_module", .object (r.byModule.map fun (k, t) => (k, t.toJson))),
    ("results", .array (r.results.map PageResult.toJson)), ("environment", r.environment.toJson)]

def parse (text : String) : Except DocumentError Report := Json.decodeString text ofJson

end Report

end PageAudit
