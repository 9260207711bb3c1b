import PageAudit.CommandLine.Run

/-!
The program: its arguments name a command, which is carried out on a machine.
-/

namespace PageAudit.CommandLine

open Recognition (Service)

/-! ## Listing pages -/

def checksText (p : Page) (tolerance : Double) : String :=
  match p.checks tolerance with
  | [] => "capture only"
  | checks => ", ".intercalate (checks.map fun c => c.kind.label)

def pageLine (tolerance : Double) (p : Page) : String :=
  "  " ++ Text.padRight 32 p.name ++ " " ++ Text.padRight 32 p.route ++ " [" ++
    checksText p tolerance ++ "]"

def moduleLines (tolerance : Double) (m : Module) : List String :=
  (m.name ++ " (" ++ toString m.pages.length ++ " pages)") :: m.pages.map (pageLine tolerance)

def list (registry : String) (h : Host) : Outcome :=
  match Registry.load registry h with
  | .error e => .silent (.failed e.message)
  | .ok r =>
    .lines (r.modules.flatMap (moduleLines h.settings.tolerance) ++
      ["", toString r.size ++ " pages in " ++ toString r.modules.length ++ " modules"]) .done

/-! ## Asking for the service -/

def health (endpoint : String) (seconds : Nat) (h : Host) : Outcome × Host :=
  match Service.isReachable endpoint seconds h with
  | (.error e, h) => (.silent (.failed e.message), h)
  | (.ok true, h) => (.lines ["OCR service responding at " ++ endpoint] .done, h)
  | (.ok false, h) => (.silent (.refused ("OCR service not responding at " ++ endpoint)), h)

/-! ## Rendering reports again -/

/-- The directory for the files that are made from a report: the given one, or that of the report. -/
def renderDirectory (report : String) (output : Option String) : String :=
  (output.or (Files.Path.parent? report)).getD "."

def render (report : String) (format : Option Report.Format) (output : Option String) (h : Host) :
    Outcome × Host :=
  match Report.load report h with
  | .error e => (.silent (.failed e.message), h)
  | .ok r =>
    match format with
    | some format => (⟨r.render format, .done⟩, h)
    | none =>
      match r.save (renderDirectory report output) h with
      | (.error e, h) => (.silent (.failed e.message), h)
      | (.ok paths, h) => (.lines (paths.map reportLine) .done, h)

/-! ## Removing old sessions -/

def clean (hours : Nat) (h : Host) : Outcome × Host :=
  let base := h.settings.sessionBase
  if 2 ^ 64 ≤ hours * 3600 then (.silent .crashed, h)
  else match Session.cleanUp base (.ofSeconds (hours * 3600)) h with
  | (.error fault, h) => (.silent (.failed fault.message), h)
  | (.ok count, h) =>
    let removed := "Removed " ++ toString count ++ " sessions from " ++ base
    match Session.all base h with
    | .error fault => (.lines [removed] (.failed fault.message), h)
    | .ok kept => (.lines (removed :: kept.map fun path => "  kept " ++ path) .done, h)

/-! ## The program -/

def pathsOf (s : Settings) : Command → List String
  | .run a => [a.registry, a.output.getD s.sessionBase]
  | .list registry => [registry]
  | .health _ _ => []
  | .render report _ output => [report, renderDirectory report output]
  | .clean _ => [s.sessionBase]

def execute (command : Command) (h : Host) : Outcome × Host :=
  match command with
  | .run a => run a h
  | .list registry => (list registry h, h)
  | .health endpoint seconds => health endpoint seconds h
  | .render report format output => render report format output h
  | .clean hours => clean hours h

def helpLines : List String := [
  "Validate web application pages by capturing them and checking the recognized text",
  "",
  "Usage: page-vision <COMMAND>",
  "",
  "Commands:",
  "  run     Validate every page of a registry and write reports",
  "  list    Print the pages of a registry grouped by module",
  "  health  Check that the OCR service is reachable",
  "  render  Re-render reports from a saved report.json",
  "  clean   Remove old run sessions"]

def program (arguments : List String) (h : Host) : Outcome × Host :=
  match read h.environment arguments with
  | .error .help => (.lines helpLines .done, h)
  | .error .misuse => (.silent .misused, h)
  | .ok command => execute command h

end PageAudit.CommandLine
