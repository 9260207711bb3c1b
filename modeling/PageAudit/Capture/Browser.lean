import PageAudit.Capture.Scene
import PageAudit.Files.Name
import PageAudit.Text.Utf8
import PageAudit.Time.Stamp

/-!
Pages of an application under test, captured by a browser that is called once for every screenshot.
Only a browser without a window takes screenshots in this way.
-/

namespace PageAudit.Capture

structure Browser where
  program : String
  baseUrl : String
  directory : String
  viewport : Viewport
  headless : Bool
  /-- Arguments that are given before the address. -/
  extra : List String
  deriving DecidableEq

namespace Browser

def source : String := "browser"

def ofSettings (s : Settings) : Browser where
  program := s.browser
  baseUrl := s.baseUrl
  directory := "./screenshots"
  viewport := s.size
  headless := s.headless
  extra := []

def urlFor (b : Browser) (route : String) : String :=
  Text.trimBack (· == '/') b.baseUrl ++ "/" ++ Text.trimFront (· == '/') route

/-- The least height of a screenshot that is to show the whole page. -/
def fullHeight : Nat := 4000

def height (b : Browser) (extent : Extent) : Nat :=
  match extent with
  | .viewport => b.viewport.height
  | .full => max b.viewport.height fullHeight

def shoot (b : Browser) (url path : String) (extent : Extent) : Call where
  program := b.program
  arguments :=
    ["--headless=new", "--disable-gpu", "--hide-scrollbars",
      "--window-size=" ++ toString b.viewport.width ++ "," ++ toString (b.height extent),
      "--screenshot=" ++ path] ++ b.extra ++ [url]
  input := none

abbrev Surface := Option (String × String)

/-- Opens a route. A route that does not begin with a slash leaves the open page as it is. -/
def navigate (b : Browser) (route : String) (w : Scene Surface) :
    Except Error Unit × Scene Surface :=
  if route.toList.head? = some '/' then (.ok (), ⟨some (route, b.urlFor route), w.host⟩)
  else (.error (.navigation ("route '" ++ route ++ "' must start with '/'")), w)

def conclude (b : Browser) (url path : String) (completion : Completion) (h : Host) :
    Except Error String :=
  match completion with
  | .missing fault =>
    .error (.capture ("Failed to spawn '" ++ b.program ++ "': " ++ fault.message))
  | .exited status _ errors _ =>
    if status ≠ .code 0 then
      .error (.navigation (b.program ++ " exited with " ++ status.text ++ " for " ++ url ++ ": " ++
        Text.trim (Text.lossy errors)))
    else match h.probe path with
    | .error fault => .error (.io fault)
    | .ok true => .ok path
    | .ok false => .error (.capture ("no screenshot written for " ++ url))

def captureOpen (b : Browser) (route url : String) (extent : Extent) (w : Scene Surface) :
    Except Error String × Scene Surface :=
  w.withDirectory b.directory fun w =>
    let name := Files.screenshotName source route w.host.now.stamp
    let path := Files.Path.join b.directory name
    let (completion, host) := w.host.call (b.shoot url path extent)
    (b.conclude url path completion host, ⟨w.surface, host⟩)

def capture (b : Browser) (extent : Extent) (w : Scene Surface) :
    Except Error String × Scene Surface :=
  match w.surface with
  | none => (.error notOpened, w)
  | some (route, url) =>
    if b.headless then b.captureOpen route url extent w
    else
      (.error (.capture ("cannot capture " ++ url ++
        " with a headed browser, screenshot mode needs headless")), w)

def target (b : Browser) : Target (Scene Surface) := ⟨source, b.navigate, b.capture⟩

end Browser

end PageAudit.Capture
