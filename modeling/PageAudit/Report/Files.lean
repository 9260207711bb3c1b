import PageAudit.Host
import PageAudit.Report.Format

/-!
Reports in files: a report is saved in several formats side by side, and loaded from its document.
-/

namespace PageAudit.Report

inductive FileError where
  | write (path : String) (fault : Files.Fault)
  | read (path : String) (fault : Files.Fault)
  | undecodable (cause : DocumentError)

def FileError.message : FileError → String
  | write path fault => "Failed to write " ++ path ++ ": " ++ fault.message
  | read path fault => "Failed to read " ++ path ++ ": " ++ fault.message
  | undecodable cause => "Failed to serialize report: " ++ cause.message

/-- Writes the report in each of the formats; the answer are the paths of the files. -/
def writeFormats (r : Report) (directory : String) :
    List Format → Host → Except FileError (List String) × Host
  | [], h => (.ok [], h)
  | format :: rest, h =>
    let path := Files.Path.join directory format.fileName
    match h.write path (.text (r.render format)) with
    | (.error fault, h) => (.error (.write path fault), h)
    | (.ok (), h) =>
      match writeFormats r directory rest h with
      | (.error e, h) => (.error e, h)
      | (.ok paths, h) => (.ok (path :: paths), h)

def save (r : Report) (directory : String) (h : Host) : Except FileError (List String) × Host :=
  match h.createDirectories directory with
  | (.error fault, h) => (.error (.write directory fault), h)
  | (.ok (), h) => writeFormats r directory Format.saved h

def load (path : String) (h : Host) : Except FileError Report :=
  match h.readText path with
  | .error fault => .error (.read path fault)
  | .ok text =>
    match parse text with
    | .ok r => .ok r
    | .error cause => .error (.undecodable cause)

end PageAudit.Report
