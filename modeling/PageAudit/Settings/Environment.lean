import PageAudit.Matching
import PageAudit.Settings.Flag
import PageAudit.Settings.Viewport
import PageAudit.Time.Span

/-!
The settings of the program. Each is taken from a variable of the environment; a variable that is
missing or cannot be read leaves the default.
-/

namespace PageAudit

def version : String := "0.1.0"

abbrev Environment := List (String × String)

/-! ## Names of variables -/

namespace Variable

def endpoint : String := "PAGE_VISION_OCR_ENDPOINT"
def timeout : String := "PAGE_VISION_OCR_TIMEOUT_MS"
def connectTimeout : String := "PAGE_VISION_OCR_CONNECT_TIMEOUT"
def sessionBase : String := "PAGE_VISION_SESSION_DIR"
def baseUrl : String := "PAGE_VISION_BASE_URL"
def browser : String := "PAGE_VISION_BROWSER"
def viewport : String := "PAGE_VISION_VIEWPORT"
def headless : String := "PAGE_VISION_HEADLESS"
def skipServiceCheck : String := "PAGE_VISION_SKIP_SERVICE_CHECK"
def continueOnFailure : String := "PAGE_VISION_CONTINUE_ON_FAILURE"
def tolerance : String := "PAGE_VISION_TITLE_TOLERANCE"

def all : List String :=
  [endpoint, timeout, connectTimeout, sessionBase, baseUrl, browser, viewport, headless,
    skipServiceCheck, continueOnFailure, tolerance]

end Variable

/-! ## Settings -/

structure Settings where
  endpoint : String
  timeout : Span
  connectSeconds : Nat
  baseUrl : String
  browser : String
  viewport : String
  size : Viewport
  headless : Bool
  /-- Whether it is enough that pages can be captured. -/
  skipServiceCheck : Bool
  continueOnFailure : Bool
  /-- The fraction of the words that a partial match needs. -/
  tolerance : Double
  sessionBase : String
  deriving DecidableEq

namespace Settings

def default : Settings where
  endpoint := "http://127.0.0.1:8866/ocr"
  timeout := .ofMillis 30000
  connectSeconds := 10
  baseUrl := "http://localhost:3000"
  browser := "chromium"
  viewport := "desktop"
  size := .desktop
  headless := true
  skipServiceCheck := false
  continueOnFailure := true
  tolerance := Matching.defaultTolerance
  sessionBase := "/tmp/page-vision"

instance : Inhabited Settings := ⟨default⟩

def textOf (env : Environment) (name fallback : String) : String :=
  (env.lookup name).getD fallback

/-- The value of a variable, read after trimming. -/
def valueOf {α : Type} (env : Environment) (name : String) (read : String → Option α)
    (fallback : α) : α :=
  ((env.lookup name).bind fun s => read (Text.trim s)).getD fallback

def flagOf (env : Environment) (name : String) (fallback : Bool) : Bool :=
  ((env.lookup name).bind Flag.ofVariable?).getD fallback

def ofEnvironment (env : Environment) : Settings :=
  let viewport := textOf env Variable.viewport default.viewport
  { endpoint := textOf env Variable.endpoint default.endpoint
    timeout := valueOf env Variable.timeout (fun s => (word64? s).map .ofMillis) default.timeout
    connectSeconds := valueOf env Variable.connectTimeout word64? default.connectSeconds
    baseUrl := textOf env Variable.baseUrl default.baseUrl
    browser := textOf env Variable.browser default.browser
    viewport := viewport
    size := (Viewport.ofText? viewport).getD default.size
    headless := flagOf env Variable.headless default.headless
    skipServiceCheck := flagOf env Variable.skipServiceCheck default.skipServiceCheck
    continueOnFailure := flagOf env Variable.continueOnFailure default.continueOnFailure
    tolerance := valueOf env Variable.tolerance Double.ofText? default.tolerance
    sessionBase := textOf env Variable.sessionBase default.sessionBase }

end Settings

end PageAudit
