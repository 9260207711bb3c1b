import PageAudit.Files.Name
import PageAudit.Host
import PageAudit.Time.Stamp

/-!
Sessions: every run of a suite has a directory of its own for its screenshots and reports. Sessions
lie side by side in a base directory, from which old ones are removed.
-/

namespace PageAudit

structure Session where
  id : String
  directory : String
  /-- Whether the files stay when the session ends. -/
  keep : Bool
  deriving DecidableEq

namespace Session

/-! ## Beginning and ending -/

def defaultName : String := "run"

def newId (name : String) (h : Host) : String :=
  Files.sanitize name ++ "_" ++ h.now.stamp ++ "_" ++ toString h.process

def inBase (base name : String) (h : Host) : Session :=
  ⟨newId name h, Files.Path.join base (newId name h), true⟩

def named (name : String) (h : Host) : Session := inBase h.settings.sessionBase name h

def inDirectory (directory : String) : Session :=
  ⟨(Files.Path.fileName? directory).getD "session", directory, true⟩

def screenshots (s : Session) : String := Files.Path.join s.directory "screenshots"

def recordPath (s : Session) : String := Files.Path.join s.directory ".session.json"

def record (s : Session) (registry : Option String) (baseUrl : String) (created : Moment) : Json :=
  .object [("base_url", .string baseUrl), ("created", .string created.offsetText),
    ("id", .string s.id), ("registry", (registry.map .string).getD .null),
    ("version", .string version)]

def init (s : Session) (registry : Option String) (baseUrl : String) (h : Host) :
    Except Files.Fault Unit × Host :=
  match h.createDirectories s.screenshots with
  | (.error fault, h) => (.error fault, h)
  | (.ok (), h) => h.write s.recordPath (.text (s.record registry baseUrl h.now).pretty)

/-- Ends the session: its files are removed unless they are to stay. -/
def close (s : Session) (h : Host) : Host :=
  if s.keep then h else (h.removeDirectory s.directory).2

/-! ## Looking around -/

def sorted (names : List String) : List String := names.mergeSort fun a b => !decide (b < a)

def captures (s : Session) (h : Host) : Except Files.Fault (List String) :=
  if h.holds s.screenshots then
    (h.list s.screenshots).map fun entries =>
      (sorted ((entries.map Prod.fst).filter Files.Path.isPicture)).map (Files.Path.join s.screenshots)
  else .ok []

def isDirectory : Files.Node → Bool
  | .directory _ => true
  | .file _ => false

def all (base : String) (h : Host) : Except Files.Fault (List String) :=
  if h.holds base then
    (h.list base).map fun entries =>
      (sorted ((entries.filter fun e => isDirectory e.2).map Prod.fst)).map (Files.Path.join base)
  else .ok []

/-! ## Cleaning up -/

def isExpired (now : Nat) (limit : Span) : Files.Node → Bool
  | .directory changed => (limit.nanos : Int) < (now : Int) - changed
  | .file _ => false

def removeAll (base : String) : List String → Host → Nat × Host
  | [], h => (0, h)
  | name :: rest, h =>
    match h.removeDirectory (Files.Path.join base name) with
    | (.ok (), h) =>
      let (count, h) := removeAll base rest h
      (count + 1, h)
    | (.error _, h) => removeAll base rest h

/-- Removes the sessions in a base directory that were last changed longer ago than the limit allows,
and counts them. -/
def cleanUp (base : String) (limit : Span) (h : Host) : Except Files.Fault Nat × Host :=
  if h.holds base then
    match h.list base with
    | .error fault => (.error fault, h)
    | .ok entries =>
      let expired := (entries.filter fun e => isExpired h.time limit e.2).map Prod.fst
      let (count, h) := removeAll base expired h
      (.ok count, h)
  else (.ok 0, h)

end Session

end PageAudit
