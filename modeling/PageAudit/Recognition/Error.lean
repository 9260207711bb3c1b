import PageAudit.Files.Fault
import PageAudit.Time.Span
import PageAudit.Json.Decode

/-!
Why a recognition gives no result.
-/

namespace PageAudit.Recognition

inductive ResponseFault where
  /-- It is no document, or not the right one; the account says what is wrong, and where. -/
  | undecodable (cause : DocumentError) (account : String)
  | unknownStatus (status : String)
  | stated (reason : String)

def ResponseFault.message : ResponseFault → String
  | undecodable _ account => account
  | unknownStatus status => "unknown status '" ++ status ++ "'"
  | stated reason => reason

inductive Error where
  | connectionFailed (reason : String)
  | service (reason : String)
  | timeout (after : Span)
  | invalidResponse (fault : ResponseFault)
  | noCapture
  | io (fault : Files.Fault)

def Error.message : Error → String
  | connectionFailed reason => "Connection failed: " ++ reason
  | service reason => "Service error: " ++ reason
  | timeout after => "Recognition timed out after " ++ after.text
  | invalidResponse fault => "Invalid response: " ++ fault.message
  | noCapture => "No capture available to recognize"
  | io fault => "IO error: " ++ fault.message

end PageAudit.Recognition
