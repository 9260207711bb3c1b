import PageAudit.Host
import PageAudit.Recognition.Endpoint
import PageAudit.Recognition.Recognizer
import PageAudit.Recognition.Response
import PageAudit.Text.Base64

/-!
A recognition service that is reached over HTTP. The requests are made by a program for that purpose,
which takes the document from its standard input.
-/

namespace PageAudit.Recognition

def requester : String := "curl"

structure Service where
  endpoint : String
  connectSeconds : Nat
  extractTables : Bool
  deriving DecidableEq

namespace Service

def ofSettings (s : Settings) : Service := ⟨s.endpoint, s.connectSeconds, true⟩

def request (s : Service) (picture : ByteArray) : Json :=
  .object [("extract_tables", .bool s.extractTables), ("format", .string "png"),
    ("image", .string (Text.Base64.encode picture))]

def post (s : Service) (picture : ByteArray) : Call where
  program := requester
  arguments := ["-s", "-S", "-X", "POST", s.endpoint, "-H", "Content-Type: application/json",
    "--data-binary", "@-", "--connect-timeout", toString s.connectSeconds]
  input := some (s.request picture)

def resultOf : Completion → Except Error Result
  | .missing fault => .error (.io fault)
  | .exited status output errors _ =>
    if status = .code 0 then Response.parse output
    else .error (.connectionFailed (Text.trim (Text.lossy errors)))

def recognize (s : Service) (artifact : String) (h : Host) : Except Error Result × Host :=
  match h.read artifact with
  | .error fault => (.error (.io fault), h)
  | .ok picture =>
    let (completion, h) := h.call (s.post picture.toBytes)
    (resultOf completion, h)

/-- How long a recognition took that began and ended on a machine. It is noticed at once that a file or
the program is missing. -/
def delayOf (outcome : Except Error Result) (h h' : Host) : Span :=
  match outcome with
  | .error (.io _) => .zero
  | _ => ⟨h'.time - h.time⟩

/-- The service as a recognizer. A call that is broken off when its time is over is one that takes longer
than that; what it would have answered does not matter. -/
def recognizer (s : Service) : Recognizer Host where
  recognize := fun artifact h =>
    let (outcome, h') := s.recognize artifact h
    (⟨outcome, delayOf outcome h h'⟩, h')

/-! ## Asking whether it is there -/

def probe (endpoint : String) (seconds : Nat) : Call where
  program := requester
  arguments := ["-s", "-o", "/dev/null", "-w", "%\x7bhttp_code\x7d", "--connect-timeout",
    toString seconds, "--max-time", toString seconds, "-I", probeUrl endpoint]
  input := none

/-- The status that the output states, zero if it states none. -/
def statusOf (output : ByteArray) : Nat :=
  (natural? (2 ^ 16) (Text.trim (Text.lossy output)).toList).getD 0

/-- Whether a service answers at an endpoint; any answer will do. -/
def isReachable (endpoint : String) (seconds : Nat) (h : Host) : Except Error Bool × Host :=
  match h.call (probe endpoint seconds) with
  | (.missing fault, h) => (.error (.io fault), h)
  | (.exited _ output _ _, h) => (.ok (decide (0 < statusOf output)), h)

end Service

end PageAudit.Recognition
