import PageAudit.Capture.Scene
import PageAudit.Files.Name
import PageAudit.Picture.PageView
import PageAudit.Picture.Png
import PageAudit.Time.Stamp

/-!
Pages that are drawn instead of captured, so that a suite can run without a browser. If pages have
been given, only their routes can be opened; if none have, every route can, and shows itself.
-/

namespace PageAudit.Capture

/-- Drawn pages: the lines that the routes show. Of two pages with one route the later counts. -/
structure Drawn where
  directory : String
  viewport : Viewport
  pages : List (String × List String)
  deriving DecidableEq

namespace Drawn

def source : String := "framebuffer"

def linesOf? (d : Drawn) (route : String) : Option (List String) := d.pages.reverse.lookup route

def linesOf (d : Drawn) (route : String) : List String := (d.linesOf? route).getD [route]

def render (d : Drawn) (extent : Extent) (route : String) : Except OutOfRange Canvas :=
  PageView.render d.viewport extent route (d.linesOf route)

abbrev Surface := Option String

def navigate (d : Drawn) (route : String) (w : Scene Surface) :
    Except Error Unit × Scene Surface :=
  if d.pages.isEmpty || (d.linesOf? route).isSome then (.ok (), ⟨some route, w.host⟩)
  else (.error (.navigation ("no page rendered at '" ++ route ++ "'")), ⟨none, w.host⟩)

def file (d : Drawn) (extent : Extent) (route : String) : Except Error ByteArray :=
  match d.render extent route with
  | .error _ => .error .outOfRange
  | .ok canvas =>
    match Png.encode canvas with
    | .error fault => .error (.capture ("Failed to encode PNG: " ++ fault.message))
    | .ok bytes => .ok bytes

def capture (d : Drawn) (extent : Extent) (w : Scene Surface) :
    Except Error String × Scene Surface :=
  match w.surface with
  | none => (.error notOpened, w)
  | some route =>
    match d.file extent route with
    | .error e => (.error e, w)
    | .ok bytes =>
      let name := Files.screenshotName source route w.host.now.stamp
      let path := Files.Path.join d.directory name
      w.withDirectory d.directory fun w =>
        match w.host.write path (.bytes bytes) with
        | (.error fault, host) => (.error (.io fault), ⟨w.surface, host⟩)
        | (.ok (), host) => (.ok path, ⟨w.surface, host⟩)

def target (d : Drawn) : Target (Scene Surface) := ⟨source, d.navigate, d.capture⟩

end Drawn

end PageAudit.Capture
