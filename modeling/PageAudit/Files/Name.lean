import PageAudit.Text.Blank

/-!
Names of files that are made from names of other things. Only letters, digits, hyphens and
underscores get through, so a name never leads into another directory.
-/

namespace PageAudit.Files

def isSafe (c : Char) : Bool :=
  ('a' ≤ c && c ≤ 'z') || ('A' ≤ c && c ≤ 'Z') || ('0' ≤ c && c ≤ '9') || c == '-' || c == '_'

def sanitize (name : String) : String :=
  String.ofList (name.toList.map fun c => if isSafe c then c else '_')

def trimSlashes (route : String) : String :=
  Text.trimBack (· == '/') (Text.trimFront (· == '/') route)

/-- What stands for a route that has nothing but slashes. -/
def rootSlug : String := "root"

def slug (route : String) : String :=
  let s := sanitize (trimSlashes route)
  if s.isEmpty then rootSlug else s

def screenshotName (source route stamp : String) : String :=
  source ++ "_" ++ slug route ++ "_" ++ stamp ++ ".png"

end PageAudit.Files
