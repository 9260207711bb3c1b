/-!
Why an operation on files fails.
-/

namespace PageAudit.Files

inductive Fault where
  | notFound
  | alreadyExists
  | notADirectory
  | isADirectory
  | tooLong
  /-- A path holds a zero, which the system takes for its end. -/
  | unpassable
  /-- The end of a path is not the name of what it leads to. -/
  | unnamed
  | notText
  | other (reason : String)
  deriving DecidableEq

namespace Fault

/-- The reason with the number that the system gives it. -/
def message : Fault → String
  | notFound => "No such file or directory (os error 2)"
  | alreadyExists => "File exists (os error 17)"
  | notADirectory => "Not a directory (os error 20)"
  | isADirectory => "Is a directory (os error 21)"
  | tooLong => "File name too long (os error 36)"
  | unpassable => "file name contained an unexpected NUL byte"
  | unnamed => "Invalid argument (os error 22)"
  | notText => "stream did not contain valid UTF-8"
  | other reason => reason

def kind : Fault → String
  | notFound => "NotFound"
  | alreadyExists => "AlreadyExists"
  | notADirectory => "NotADirectory"
  | isADirectory => "IsADirectory"
  | tooLong => "InvalidFilename"
  | unpassable | unnamed => "InvalidInput"
  | notText => "InvalidData"
  | other _ => "Other"

end Fault

end PageAudit.Files
