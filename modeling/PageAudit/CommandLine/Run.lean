import PageAudit.Audit.Suite
import PageAudit.Capture.Browser
import PageAudit.Capture.Drawn
import PageAudit.CommandLine.Command
import PageAudit.CommandLine.Outcome
import PageAudit.Recognition.Service
import PageAudit.Registry.File
import PageAudit.Report.Files
import PageAudit.Session

/-!
The command that validates the pages of a registry: a session is made, the suite runs in it, and its
report is saved there and shown. The command succeeds if every page has passed.
-/

namespace PageAudit.CommandLine

open Audit (Aborted Options Run)
open Capture (Drawn Scene Target)
open Recognition (Service)

/-! ## The suite -/

/-- The lines by which a page is drawn: what is expected of it. -/
def expectedLines (p : Page) : List String := p.expectedTitle.toList ++ p.expectedTexts.getD []

def drawnPages (registry : Registry) (directory : String) (v : Viewport) : Drawn :=
  ⟨directory, v, registry.pages.map fun entry => (entry.2.route, expectedLines entry.2)⟩

def browserOf (a : RunArguments) (directory : String) (v : Viewport) : Capture.Browser :=
  ⟨a.browser, a.baseUrl, directory, v, a.headless, a.browserArguments⟩

def optionsOf (a : RunArguments) : Options where
  extent := if a.viewportOnly then .viewport else .full
  skipServiceCheck := a.policy.skipServiceCheck
  tolerance := a.tolerance
  limits := ⟨a.timeout, false⟩

def serviceOf (a : RunArguments) (h : Host) : Service :=
  { Service.ofSettings h.settings with endpoint := a.endpoint }

def probeSeconds : Nat := 5

/-- Asks whether the service is there. The suite runs in any case. -/
def probeService (a : RunArguments) (h : Host) : Host :=
  if a.policy.skipServiceCheck then h
  else (Service.isReachable a.endpoint probeSeconds h).2

variable {S : Type}

def equipmentOn (target : Target (Scene S)) (service : Service) : Audit.Equipment (Scene S) :=
  ⟨target, Capture.onHost service.recognizer, fun w _ => w.host.time⟩

def auditPages (target : Target (Scene S)) (surface : S) (a : RunArguments) (pages : List Page)
    (h : Host) : Option (Except Aborted Run) × Host :=
  let (outcome, s) := Audit.runPages? (equipmentOn target (serviceOf a h)) a.policy (optionsOf a)
    pages (.start ⟨surface, h⟩)
  (outcome, s.world.host)

/-- Validates the pages of a registry; there is no outcome if the program crashes on the way. -/
def audit (a : RunArguments) (registry : Registry) (session : Session) (v : Viewport) (h : Host) :
    Option (Except Aborted Run) × Host :=
  let pages := registry.pages.map Prod.snd
  match a.surface with
  | .browser => auditPages (browserOf a session.screenshots v).target none a pages h
  | .mock => auditPages (drawnPages registry session.screenshots v).target none a pages h

/-! ## What is printed -/

def moduleLine (entry : String × Report.ModuleTotals) : String :=
  "  " ++ Text.padRight 20 entry.1 ++ " " ++ toString entry.2.passed ++ "/" ++
    toString entry.2.total ++ " passed"

def failureLines (p : PageResult) : List String :=
  ["  FAIL " ++ p.pageName ++ " (" ++ p.route ++ ")"] ++
    (p.error.map fun e => "       " ++ e).toList ++
    p.failedChecks.map fun c => "       " ++ c.kind.label ++ ": " ++ c.message

def summaryLines (r : Report) : List String :=
  [toString r.totals.total ++ " pages: " ++ toString r.totals.passed ++ " passed, " ++
    toString r.totals.failed ++ " failed (" ++ r.totals.passRate.fixed 1 ++ "%) in " ++
    toString r.totalDurationMs ++ " ms"] ++
    r.byModule.map moduleLine ++ r.failedPages.flatMap failureLines

def reportLine (path : String) : String := "Report: " ++ path

def sessionLine (s : Session) (screenshots : Nat) : String :=
  "Session: " ++ s.directory ++ " (" ++ toString screenshots ++ " screenshots)"

def verdict (r : Report) (aborted : Option Aborted) : Ending :=
  match aborted with
  | some a => .refused a.message
  | none =>
    if 0 < r.totals.failed then
      .refused (toString r.totals.failed ++ " of " ++ toString r.totals.total ++ " pages failed")
    else .done

def showReport (a : RunArguments) (session : Session) (r : Report) (paths : List String)
    (aborted : Option Aborted) (h : Host) : Outcome :=
  if a.json then .lines [r.render .jsonPretty] (verdict r aborted)
  else
    let shown := summaryLines r ++ [""] ++ paths.map reportLine
    match session.captures h with
    | .error fault => .lines shown (.failed fault.message)
    | .ok captures =>
      .lines (shown ++ [sessionLine session captures.length]) (verdict r aborted)

/-! ## The command -/

def conclude (a : RunArguments) (session : Session) (outcome : Except Aborted Run) (h : Host) :
    Outcome × Host :=
  let (run, aborted) := match outcome with
    | .ok run => (run, none)
    | .error e => (e.run, some e)
  let r := run.report (a.policy.environment h.name a.surface.name a.headless)
  match r.save session.directory h with
  | (.error e, h) => (.silent (.failed e.message), h)
  | (.ok paths, h) => (showReport a session r paths aborted h, h)

def runIn (a : RunArguments) (registry : Registry) (v : Viewport) (session : Session) (h : Host) :
    Outcome × Host :=
  match session.init (some a.registry) a.baseUrl h with
  | (.error fault, h) => (.silent (.failed fault.message), h)
  | (.ok (), h) =>
    match audit a registry session v (probeService a h) with
    | (none, h) => (.silent .crashed, h)
    | (some outcome, h) => conclude a session outcome h

def sessionOf (a : RunArguments) (h : Host) : Session :=
  match a.output with
  | some directory => .inDirectory directory
  | none => .named Session.defaultName h

def headedRefusal : String :=
  "the browser target only captures headless; drop --headless false or use --target mock"

def viewportRefusal (viewport : String) : String :=
  "Invalid viewport '" ++ viewport ++ "'. Use: desktop, laptop, tablet, mobile, or WxH"

def run (a : RunArguments) (h : Host) : Outcome × Host :=
  if a.surface = .browser && !a.headless then (.silent (.refused headedRefusal), h)
  else match Registry.load a.registry h with
  | .error e => (.silent (.failed e.message), h)
  | .ok registry =>
    match Viewport.ofText? a.viewport with
    | none => (.silent (.refused (viewportRefusal a.viewport)), h)
    | some v => runIn a registry v (sessionOf a h) h

end PageAudit.CommandLine
