import PageAudit.CommandLine.Program
import PageAudit.Files.Change

/-!
The command line. The machine is looked at before the command is carried out, as far as the command
can reach, and what has become of its files is written afterwards. Programs are not started from
here: every call finds its program missing.
-/

namespace PageAudit.Machine

open Files (Change Node Place Tree)

def readVariables : IO Environment :=
  Variable.all.filterMapM fun name => do
    return (← IO.getEnv name).map fun value => (name, value)

def readOr (path fallback : String) : IO String := do
  try IO.FS.readFile path catch _ => return fallback

def pathOf (place : Place) : String := "/" ++ "/".intercalate place

/-- How many levels of a base directory sessions take up: it, theirs, and the screenshots. -/
def sessionLevels : Nat := 4

def nanos (t : IO.FS.SystemTime) : Int := t.sec * 1000000000 + t.nsec.toNat

def look (place : Place) : Nat → IO (List (Place × Node))
  | 0 => return []
  | levels + 1 => do
    try
      let here := (← IO.currentDir) / pathOf place
      let facts ← here.metadata
      if facts.type == .dir then
        let names := (← here.readDir).toList.map (·.fileName)
        let below ← names.mapM fun name => look (place ++ [name]) levels
        return (place, .directory (nanos facts.modified)) :: below.flatten
      else return [(place, .file (.bytes (← IO.FS.readBinFile here)))]
    catch _ => return []

def lookOnTheWay (place : Place) : IO (List (Place × Node)) := do
  let outer := ((List.range place.length).map place.take).filter (!·.isEmpty)
  return (← outer.mapM fun place => look place 1).flatten

/-- The tree of some nodes; of several for one place the first one counts. -/
def treeOf (nodes : List (Place × Node)) : Tree :=
  ⟨nodes.foldl (fun seen n => if seen.any (·.1 == n.1) then seen else seen ++ [n]) []⟩

def readClock : IO Nat := do
  let (_, path) ← IO.FS.createTempFile
  let facts ← path.metadata
  IO.FS.removeFile path
  return (nanos facts.modified).toNat

def readHost (environment : Environment) (paths : List String) : IO Host := do
  let current := (Files.Path.ofText (← IO.currentDir).toString).parts
  let places := paths.map fun path =>
    let path := Files.Path.ofText path
    Tree.resolve (Tree.origin current path) path.parts
  let around ← (places ++ [current ++ [Files.Path.here]]).mapM lookOnTheWay
  let below ← places.mapM fun place => look place sessionLevels
  let start ← readClock
  return {
    name := Text.trim (← readOr "/etc/hostname" "unknown")
    process := ((← readOr "/proc/self/stat" "").splitOn " ").head?.bind String.toNat? |>.getD 0
    environment := environment
    current := current
    files := treeOf (around.flatten ++ below.flatten)
    clock := fun steps => start + steps
    steps := 0
    calls := []
    programs := fun _ _ => .missing .notFound }

def perform : Change → IO Unit
  | .remove place => IO.FS.removeDirAll (pathOf place)
  | .makeDirectory place => IO.FS.createDirAll (pathOf place)
  | .write place content => IO.FS.writeBinFile (pathOf place) content.toBytes

def carryOut (arguments : List String) : IO UInt32 := do
  let environment ← readVariables
  let paths := match CommandLine.read environment arguments with
    | .ok command => CommandLine.pathsOf (.ofEnvironment environment) command
    | .error _ => []
  let before ← readHost environment paths
  let (outcome, after) := CommandLine.program arguments before
  (before.files.changes after.files).forM perform
  IO.print outcome.output
  outcome.ending.complaint?.forM IO.eprintln
  return outcome.ending.status.toUInt32

end PageAudit.Machine

def main (arguments : List String) : IO UInt32 := PageAudit.Machine.carryOut arguments
