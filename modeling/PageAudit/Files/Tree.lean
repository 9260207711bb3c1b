import PageAudit.Files.Fault
import PageAudit.Files.Path
import PageAudit.Text.Utf8

/-!
Trees of directories and files. Places in a tree are lists of names; paths are followed to places
from a current directory, and every directory on the way has to be there.
-/

namespace PageAudit.Files

inductive Content where
  | text (s : String)
  | bytes (b : ByteArray)

namespace Content

def toBytes : Content → ByteArray
  | text s => s.toUTF8
  | bytes b => b

def toText : Content → Except Fault String
  | text s => .ok s
  | bytes b =>
    match Text.strict? b with
    | some s => .ok s
    | none => .error .notText

end Content

/-- A file with its content, or a directory with the time at which it was last changed. -/
inductive Node where
  | file (content : Content)
  | directory (changed : Int)

abbrev Place := List String

/-- The files and directories of a tree. The root is always a directory. -/
structure Tree where
  nodes : List (Place × Node)

namespace Tree

def empty : Tree := ⟨[]⟩

def find? (t : Tree) (place : Place) : Option Node :=
  if place.isEmpty then some (.directory 0) else t.nodes.lookup place

def isDirectory (t : Tree) (place : Place) : Bool :=
  match t.find? place with
  | some (.directory _) => true
  | _ => false

def assign (place : Place) (node : Node) : List (Place × Node) → List (Place × Node)
  | [] => [(place, node)]
  | (p, n) :: rest => if p = place then (p, node) :: rest else (p, n) :: assign place node rest

def touch (t : Tree) (place : Place) (time : Int) : Tree :=
  ⟨t.nodes.map fun (p, n) =>
    match n with
    | .directory old => (p, .directory (if p = place then time else old))
    | .file c => (p, .file c)⟩

/-- Puts a new node at a place, which changes the directory that it lies in. -/
def add (t : Tree) (place : Place) (node : Node) (time : Int) : Tree :=
  (Tree.mk (assign place node t.nodes)).touch place.dropLast time

def prune (t : Tree) (place : Place) (time : Int) : Tree :=
  (Tree.mk (t.nodes.filter fun (p, _) => !place.isPrefixOf p)).touch place.dropLast time

def nameWithin? (directory place : Place) : Option String :=
  if directory.isPrefixOf place then
    match place.drop directory.length with
    | [name] => some name
    | _ => none
  else none

def entries (t : Tree) (directory : Place) : List (String × Node) :=
  t.nodes.filterMap fun (p, n) => (nameWithin? directory p).map fun name => (name, n)

/-- The place to which parts lead from a place, whether or not there is anything. -/
def resolve (place : Place) (parts : List String) : Place :=
  parts.foldl (fun spot part =>
    if part = Path.here then spot else if part = Path.above then spot.dropLast else spot ++ [part]) place

/-! ## Following paths -/

def passable (t : Tree) (place : Place) : Except Fault Unit :=
  match t.find? place with
  | some (.directory _) => .ok ()
  | some (.file _) => .error .notADirectory
  | none => .error .notFound

/-- Follows the parts of a path from a place. Nothing needs to be at the place where it ends. -/
def follow (t : Tree) (place : Place) : List String → Except Fault Place
  | [] => .ok place
  | part :: rest =>
    match t.passable place with
    | .error e => .error e
    | .ok () =>
      if Path.nameLimit < part.utf8ByteSize then .error .tooLong
      else if part = Path.here then follow t place rest
      else if part = Path.above then follow t place.dropLast rest
      else follow t (place ++ [part]) rest

def origin (current : Place) (path : Path) : Place := if path.absolute then [] else current

def refusal? (path : String) : Option Fault :=
  if path.toList.contains '\x00' then some .unpassable
  else if Path.pathLimit ≤ path.utf8ByteSize then some .tooLong
  else none

def locate (t : Tree) (current : Place) (path : String) : Except Fault Place :=
  match refusal? path with
  | some fault => .error fault
  | none =>
    if path.isEmpty then .error .notFound
    else t.follow (origin current (.ofText path)) (Path.ofText path).parts

/-- Whether there is something at the end of a path, if that can be found out. -/
def probe (t : Tree) (current : Place) (path : String) : Except Fault Bool :=
  match t.locate current path with
  | .ok place => .ok (t.find? place).isSome
  | .error .notFound => .ok false
  | .error e => .error e

def holds (t : Tree) (current : Place) (path : String) : Bool :=
  match t.locate current path with
  | .error _ => false
  | .ok place => (t.find? place).isSome

def holdsDirectory (t : Tree) (current : Place) (path : String) : Bool :=
  match t.locate current path with
  | .error _ => false
  | .ok place => t.isDirectory place

/-! ## Reading and writing -/

def read (t : Tree) (current : Place) (path : String) : Except Fault Content :=
  match t.locate current path with
  | .error e => .error e
  | .ok place =>
    match t.find? place with
    | none => .error .notFound
    | some (.directory _) => .error .isADirectory
    | some (.file c) => if (Path.ofText path).closed then .error .notADirectory else .ok c

/-- Writes a file; the directory that it lies in has to be there. -/
def write (t : Tree) (current : Place) (path : String) (content : Content) (time : Int) :
    Except Fault Tree :=
  match t.locate current path with
  | .error e => .error e
  | .ok place =>
    match t.find? place with
    | some (.directory _) => .error .isADirectory
    | some (.file _) =>
      if (Path.ofText path).closed then .error .notADirectory
      else .ok ⟨assign place (.file content) t.nodes⟩
    | none =>
      if (Path.ofText path).closed then .error .isADirectory
      else .ok (t.add place (.file content) time)

def makeDirectory (t : Tree) (origin : Place) (parts : List String) (time : Int) :
    Except Fault Tree :=
  match t.follow origin parts with
  | .error e => .error e
  | .ok place =>
    match t.find? place with
    | some _ => .error .alreadyExists
    | none => .ok (t.add place (.directory time) time)

def leadsToDirectory (t : Tree) (origin : Place) (parts : List String) : Bool :=
  match t.follow origin parts with
  | .error _ => false
  | .ok place => t.isDirectory place

def ensureDirectory (t : Tree) (origin : Place) (parts : List String) (time : Int) :
    Except Fault Unit × Tree :=
  match t.makeDirectory origin parts time with
  | .ok t => (.ok (), t)
  | .error e => (if t.leadsToDirectory origin parts then .ok () else .error e, t)

/-- Makes a directory and the directories above it that are missing; those that have been made stay
if one further in cannot be made. The parts of the path are given backwards. -/
def ensureAll (t : Tree) (origin : Place) (time : Int) : List String → Except Fault Unit × Tree
  | [] => (.ok (), t)
  | part :: rest =>
    match t.makeDirectory origin (part :: rest).reverse time with
    | .error .notFound =>
      match ensureAll t origin time (Path.outer (part :: rest)) with
      | (.error e, t) => (.error e, t)
      | (.ok (), t) => t.ensureDirectory origin (part :: rest).reverse time
    | _ => t.ensureDirectory origin (part :: rest).reverse time
termination_by parts => parts.length
decreasing_by exact Path.outer_length_lt part rest

def createDirectories (t : Tree) (current : Place) (path : String) (time : Int) :
    Except Fault Unit × Tree :=
  match refusal? path with
  | some fault => (.error fault, t)
  | none =>
    let p := Path.ofText path
    t.ensureAll (origin current p) time p.parts.reverse

def clear (t : Tree) (place : Place) (time : Int) : Tree :=
  (Tree.mk (t.nodes.filter fun (p, _) => p == place || !place.isPrefixOf p)).touch place time

/-- Removes the directory at a place with all that is in it. The directory itself stays, empty, if
the path to it does not end in its name. -/
def removeAt (t : Tree) (place : Place) (last : Option String) (time : Int) :
    Except Fault Unit × Tree :=
  if last = some Path.here then (.error .unnamed, t.clear place time)
  else if last = some Path.above then (.ok (), t.clear place time)
  else (.ok (), t.prune place time)

def removeDirectory (t : Tree) (current : Place) (path : String) (time : Int) :
    Except Fault Unit × Tree :=
  match t.locate current path with
  | .error e => (.error e, t)
  | .ok place =>
    match t.find? place with
    | none => (.error .notFound, t)
    | some (.file _) => (.error .notADirectory, t)
    | some (.directory _) => t.removeAt place (Path.ofText path).parts.getLast? time

def list (t : Tree) (current : Place) (path : String) : Except Fault (List (String × Node)) :=
  match t.locate current path with
  | .error e => .error e
  | .ok place =>
    match t.find? place with
    | none => .error .notFound
    | some (.file _) => .error .notADirectory
    | some (.directory _) => .ok (t.entries place)

end Tree

end PageAudit.Files
