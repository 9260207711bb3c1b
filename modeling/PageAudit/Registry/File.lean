import PageAudit.Host
import PageAudit.Registry.Catalogue

/-!
Registries in files.
-/

namespace PageAudit.Registry

inductive FileError where
  | read (path : String) (fault : Files.Fault)
  | undecodable (cause : DocumentError)

def FileError.message : FileError → String
  | read path fault => "Failed to read " ++ path ++ ": " ++ fault.message
  | undecodable cause => "Failed to parse registry: " ++ cause.message

def load (path : String) (h : Host) : Except FileError Registry :=
  match h.readText path with
  | .error fault => .error (.read path fault)
  | .ok text =>
    match parse text with
    | .ok r => .ok r
    | .error cause => .error (.undecodable cause)

end PageAudit.Registry
