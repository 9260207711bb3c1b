import PageAudit.Text.Blank
import PageAudit.Text.Search

/-!
Paths of files. A path keeps the spelling that it was given, because messages show it; its parts are
what leads through the directories.
-/

namespace PageAudit.Files

structure Path where
  absolute : Bool
  /-- The parts between slashes, with `.` and `..` as they stand. -/
  parts : List String
  /-- Whether a slash ends the path, which then can only be that of a directory. -/
  closed : Bool
  deriving DecidableEq

namespace Path

def here : String := "."

def above : String := ".."

def nameLimit : Nat := 255

def pathLimit : Nat := 4096

def isHere (part : String) : Bool := part == here

def ofText (s : String) : Path where
  absolute := s.toList.head? == some '/'
  parts := ((Text.piecesAt (· == '/') s.toList).filter (!·.isEmpty)).map String.ofList
  closed := s.toList.getLast? == some '/'

/-- The path within a directory; an absolute path leads away from it. -/
def join (directory path : String) : String :=
  if (ofText path).absolute then path
  else if directory.isEmpty || (ofText directory).closed then directory ++ path
  else directory ++ "/" ++ path

/-- The name at the end of a path; there is none if the path ends by going up. -/
def fileName? (s : String) : Option String :=
  match (ofText s).parts.reverse.dropWhile isHere with
  | [] => none
  | name :: _ => if name = above then none else some name

/-- The parts of the directory that holds the last part; all parts are given backwards. -/
def outer (parts : List String) : List String :=
  ((parts.dropWhile isHere).drop 1).dropWhile isHere

theorem length_dropWhile_le (p : String → Bool) (l : List String) :
    (l.dropWhile p).length ≤ l.length := by
  induction l with
  | nil => simp
  | cons a l ih =>
    simp only [List.dropWhile_cons]
    split
    · simp only [List.length_cons]; omega
    · simp

theorem outer_length_lt (part : String) (parts : List String) :
    (outer (part :: parts)).length < (part :: parts).length := by
  have h₁ := length_dropWhile_le isHere (((part :: parts).dropWhile isHere).drop 1)
  have h₂ := length_dropWhile_le isHere (part :: parts)
  simp only [outer, List.length_drop, List.length_cons] at *
  omega

/-- The characters of a path without slashes, and dots that stay, at its end. -/
def trimEnd : List Char → List Char
  | [] => []
  | '/' :: rest => trimEnd rest
  | '.' :: '/' :: rest => trimEnd ('/' :: rest)
  | cs => cs

/-- The path of the directory that holds the last part, in the spelling of the path; a path of one
part lies in the empty path. There is none for the root and for the empty path. -/
def parent? (s : String) : Option String :=
  match trimEnd s.toList.reverse with
  | [] => none
  | cs =>
    let directory := cs.dropWhile (· != '/')
    match trimEnd directory with
    | [] => some (if directory.isEmpty then "" else "/")
    | rest => some (String.ofList rest.reverse)

def isPicture (name : String) : Bool :=
  ".png".toList.isSuffixOf name.toList && name != ".png"

end Path

end PageAudit.Files
