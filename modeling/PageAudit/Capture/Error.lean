import PageAudit.Files.Fault

/-!
Why a page could not be captured.
-/

namespace PageAudit.Capture

inductive Error where
  /-- The page could not be opened. -/
  | navigation (reason : String)
  /-- The page was opened and no picture came of it. -/
  | capture (reason : String)
  | io (fault : Files.Fault)
  /-- A number left its range while the picture was made, at which the program crashes. -/
  | outOfRange
  deriving DecidableEq

def Error.message : Error → String
  | navigation reason => "Navigation error: " ++ reason
  | capture reason => "Capture error: " ++ reason
  | io fault => "I/O error: " ++ fault.message
  | outOfRange => "a number left its range"

end PageAudit.Capture
