import PageAudit.Audit.Suite
import PageAudit.CommandLine.Arguments
import PageAudit.Report.Format

/-!
The commands of the program and their parameters.
-/

namespace PageAudit.CommandLine

inductive Surface where
  | browser
  /-- A drawing of what is expected of every page. -/
  | mock
  deriving DecidableEq

namespace Surface

def name : Surface → String
  | browser => "browser"
  | mock => "mock"

def ofName? (s : String) : Option Surface := [browser, mock].find? (·.name == s)

end Surface

def formats : List (String × Report.Format) :=
  [("json", .jsonPretty), ("markdown", .markdown), ("html", .html)]

structure RunArguments where
  registry : String
  baseUrl : String
  endpoint : String
  timeout : Span
  output : Option String
  surface : Surface
  browser : String
  browserArguments : List String
  viewport : String
  policy : Audit.Policy
  headless : Bool
  tolerance : Double
  viewportOnly : Bool
  json : Bool
  deriving DecidableEq

inductive Command where
  | run (arguments : RunArguments)
  | list (registry : String)
  | health (endpoint : String) (seconds : Nat)
  | render (report : String) (format : Option Report.Format) (output : Option String)
  | clean (hours : Nat)
  deriving DecidableEq

/-! ## Parameters -/

def isPath (s : String) : Bool := !s.isEmpty

def text (name : String) (source : Option String) : Parameter :=
  ⟨name, none, .one, fun _ => true, source⟩

def path (name : String) (letter : Char) : Parameter := ⟨name, some letter, .one, isPath, none⟩

def count (name : String) (source : Option String) : Parameter :=
  ⟨name, none, .one, fun s => (word64? s).isSome, source⟩

def switch (name source : String) : Parameter :=
  ⟨name, none, .atMostOne, fun s => (Flag.ofArgument? s).isSome, some source⟩

def mark (name : String) : Parameter := ⟨name, none, .none, fun _ => false, none⟩

def runParameters : List Parameter := [
  path "registry" 'r',
  text "base-url" (some Variable.baseUrl),
  text "ocr-endpoint" (some Variable.endpoint),
  count "ocr-timeout-ms" (some Variable.timeout),
  path "output" 'o',
  ⟨"target", none, .one, fun s => (Surface.ofName? s).isSome, none⟩,
  text "browser" (some Variable.browser),
  ⟨"browser-arg", none, .anyOne, fun _ => true, none⟩,
  text "viewport" (some Variable.viewport),
  switch "headless" Variable.headless,
  switch "skip-service-check" Variable.skipServiceCheck,
  switch "continue-on-failure" Variable.continueOnFailure,
  ⟨"tolerance", none, .one, fun s => (Double.ofText? s).isSome, some Variable.tolerance⟩,
  mark "viewport-only",
  mark "json"]

def listParameters : List Parameter := [path "registry" 'r']

def healthParameters : List Parameter :=
  [text "ocr-endpoint" (some Variable.endpoint), count "timeout" none]

def renderParameters : List Parameter :=
  [⟨"format", some 'f', .one, fun s => (formats.lookup s).isSome, none⟩, path "output" 'o']

def cleanParameters : List Parameter := [count "max-age-hours" none]

/-! ## Reading -/

def Given.get {A : Type} (g : Given) (name : String) (read : String → Option A) (fallback : A) : A :=
  ((g.value? name).bind read).getD fallback

/-- The state of a switch: naming it alone switches it on. -/
def Given.flag (g : Given) (name : String) (fallback : Bool) : Bool :=
  if g.has name then g.get name Flag.ofArgument? true else fallback

def defaultRegistry : String := "registry.json"

def runArguments (g : Given) : RunArguments :=
  let fallback := Settings.default
  { registry := g.get "registry" some defaultRegistry
    baseUrl := g.get "base-url" some fallback.baseUrl
    endpoint := g.get "ocr-endpoint" some fallback.endpoint
    timeout := g.get "ocr-timeout-ms" (fun s => (word64? s).map .ofMillis) fallback.timeout
    output := g.value? "output"
    surface := g.get "target" Surface.ofName? .browser
    browser := g.get "browser" some fallback.browser
    browserArguments := g.all "browser-arg"
    viewport := g.get "viewport" some fallback.viewport
    policy := ⟨g.flag "continue-on-failure" fallback.continueOnFailure,
      g.flag "skip-service-check" fallback.skipServiceCheck⟩
    headless := g.flag "headless" fallback.headless
    tolerance := g.get "tolerance" Double.ofText? fallback.tolerance
    viewportOnly := g.has "viewport-only"
    json := g.has "json" }

def readCommand (name : String) (env : Environment) (arguments : List String) :
    Except Halt Command :=
  if name = "run" then
    (readArguments runParameters 0 env arguments).map fun g => .run (runArguments g)
  else if name = "list" then
    (readArguments listParameters 0 env arguments).map fun g =>
      .list (g.get "registry" some defaultRegistry)
  else if name = "health" then
    (readArguments healthParameters 0 env arguments).map fun g =>
      .health (g.get "ocr-endpoint" some Settings.default.endpoint) (g.get "timeout" word64? 5)
  else if name = "render" then
    match readArguments renderParameters 1 env arguments with
    | .error e => .error e
    | .ok g =>
      match g.operands with
      | report :: _ =>
        .ok (.render report (g.get "format" (fun s => (formats.lookup s).map some) none)
          (g.value? "output"))
      | [] => .error .misuse
  else if name = "clean" then
    (readArguments cleanParameters 0 env arguments).map fun g =>
      .clean (g.get "max-age-hours" word64? 24)
  else .error .misuse

def commandNames : List String := ["run", "list", "health", "render", "clean"]

def helpOn : List String → Halt
  | [] => .help
  | [name] => if commandNames.contains name || name = helpName then .help else .misuse
  | _ => .misuse

def read (env : Environment) : List String → Except Halt Command
  | [] => .error .misuse
  | first :: rest =>
    match shapeOf first with
    | .plain => if first = helpName then .error (helpOn rest) else readCommand first env rest
    | .long name none => .error (if name = helpName then .help else .misuse)
    | .short letter _ => .error (if letter = helpLetter then .help else .misuse)
    | .long _ (some _) | .divider => .error .misuse

end PageAudit.CommandLine
