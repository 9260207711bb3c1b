import PageAudit.Files.Tree
import PageAudit.Json.Printer
import PageAudit.Settings.Environment
import PageAudit.Time.Moment

/-!
The machine on which an audit runs: its files, its clock and the programs that can be called. Nothing
is assumed of the clock and of the programs; what a program answers may depend on all calls before.
-/

namespace PageAudit

structure Call where
  program : String
  arguments : List String
  input : Option Json

/-- Whether the machine can pass the call on: a zero would end the program's name or an argument. -/
def Call.isPassable (c : Call) : Bool :=
  (c.program :: c.arguments).all fun s => !s.toList.contains '\x00'

/-- How a program has ended: with a code, or by a signal. -/
inductive ExitStatus where
  | code (n : Nat)
  | signal (n : Nat) (dumped : Bool)
  deriving DecidableEq

namespace ExitStatus

/-- The names of the signals, in the order of their numbers, which begin at one. -/
def signals : List String :=
  ["SIGHUP", "SIGINT", "SIGQUIT", "SIGILL", "SIGTRAP", "SIGABRT", "SIGBUS", "SIGFPE", "SIGKILL",
    "SIGUSR1", "SIGSEGV", "SIGUSR2", "SIGPIPE", "SIGALRM", "SIGTERM", "SIGSTKFLT", "SIGCHLD",
    "SIGCONT", "SIGSTOP", "SIGTSTP", "SIGTTIN", "SIGTTOU", "SIGURG", "SIGXCPU", "SIGXFSZ",
    "SIGVTALRM", "SIGPROF", "SIGWINCH", "SIGIO", "SIGPWR", "SIGSYS"]

def signalText (n : Nat) : String :=
  match ("" :: signals.map fun name => " (" ++ name ++ ")")[n]? with
  | some name => toString n ++ name
  | none => toString n

def text : ExitStatus → String
  | code n => "exit status: " ++ toString n
  | signal n dumped => "signal: " ++ signalText n ++ if dumped then " (core dumped)" else ""

end ExitStatus

inductive Completion where
  | missing (fault : Files.Fault)
  /-- The program has ended, and has written files meanwhile. -/
  | exited (status : ExitStatus) (output errors : ByteArray) (files : List (String × Files.Content))

structure Host where
  name : String
  process : Nat
  environment : Environment
  current : Files.Place
  files : Files.Tree
  /-- What the clock shows after a number of steps, in nanoseconds since the start of 1970. -/
  clock : Nat → Nat
  steps : Nat
  calls : List Call
  programs : List Call → Call → Completion

namespace Host

def time (h : Host) : Nat := h.clock h.steps

def now (h : Host) : Moment := .ofNanos h.time

def settings (h : Host) : Settings := .ofEnvironment h.environment

def withFiles (h : Host) (files : Files.Tree) : Host := { h with files := files, steps := h.steps + 1 }

def attempt (h : Host) (outcome : Except Files.Fault Unit × Files.Tree) :
    Except Files.Fault Unit × Host := (outcome.1, h.withFiles outcome.2)

/-! ## Files -/

def holds (h : Host) (path : String) : Bool := h.files.holds h.current path

def probe (h : Host) (path : String) : Except Files.Fault Bool := h.files.probe h.current path

def read (h : Host) (path : String) : Except Files.Fault Files.Content := h.files.read h.current path

def readText (h : Host) (path : String) : Except Files.Fault String :=
  match h.read path with
  | .ok content => content.toText
  | .error e => .error e

def list (h : Host) (path : String) : Except Files.Fault (List (String × Files.Node)) :=
  h.files.list h.current path

def write (h : Host) (path : String) (content : Files.Content) : Except Files.Fault Unit × Host :=
  match h.files.write h.current path content h.time with
  | .ok files => h.attempt (.ok (), files)
  | .error e => h.attempt (.error e, h.files)

def createDirectories (h : Host) (path : String) : Except Files.Fault Unit × Host :=
  h.attempt (h.files.createDirectories h.current path h.time)

def removeDirectory (h : Host) (path : String) : Except Files.Fault Unit × Host :=
  h.attempt (h.files.removeDirectory h.current path h.time)

/-! ## Programs -/

/-- Writes the files of a program; those that cannot be written are left out. -/
def writeAll (h : Host) : List (String × Files.Content) → Host
  | [] => h
  | (path, content) :: rest => writeAll (h.write path content).2 rest

def answer (h : Host) (c : Call) : Completion :=
  if c.isPassable then h.programs h.calls c
  else .missing (.other "nul byte found in provided data")

def call (h : Host) (c : Call) : Completion × Host :=
  let completion := h.answer c
  let called : Host := { h with calls := h.calls ++ [c], steps := h.steps + 1 }
  match completion with
  | .missing fault => (.missing fault, { h with steps := h.steps + 1 })
  | .exited status output errors files => (.exited status output errors files, called.writeAll files)

end Host

end PageAudit
