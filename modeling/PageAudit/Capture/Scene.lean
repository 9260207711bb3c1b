import PageAudit.Capture.Target
import PageAudit.Host
import PageAudit.Recognition.Recognizer

/-!
A surface together with the machine on which it is captured.
-/

namespace PageAudit.Capture

structure Scene (S : Type) where
  surface : S
  host : Host

variable {S : Type}

def onHost (r : Recognition.Recognizer Host) : Recognition.Recognizer (Scene S) where
  recognize := fun artifact w =>
    let (reply, host) := r.recognize artifact w.host
    (reply, ⟨w.surface, host⟩)

def Scene.withDirectory {A : Type} (w : Scene S) (path : String)
    (next : Scene S → Except Error A × Scene S) : Except Error A × Scene S :=
  match w.host.createDirectories path with
  | (.error fault, host) => (.error (.io fault), ⟨w.surface, host⟩)
  | (.ok (), host) => next ⟨w.surface, host⟩

def notOpened : Error := .capture "navigate before capturing"

end PageAudit.Capture
