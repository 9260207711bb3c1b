import PageAudit.Registry.Page

/-!
The registry of the pages of an application, grouped by functional module and in the order in which
they are visited.
-/

namespace PageAudit

structure Module where
  name : String
  pages : List Page
  deriving DecidableEq, Inhabited

structure Registry where
  modules : List Module
  deriving DecidableEq, Inhabited

namespace Module

def ofJson : Decoder Module := fun j => do
  let fields : Json.Fields [String, List Page] :=
    (.required "name" Json.toText, .defaulting "pages" (Json.toList Page.ofJson) [], ())
  let (name, pages, _) ← fields.decode "ModuleSpec" j
  .ok ⟨name, pages⟩

def toJson (m : Module) : Json :=
  .object [("name", .string m.name), ("pages", .array (m.pages.map Page.toJson))]

end Module

namespace Registry

/-- Every page with the name of its module, in the order of visits. -/
def pages (r : Registry) : List (String × Page) :=
  r.modules.flatMap fun m => m.pages.map fun p => (m.name, p)

def size (r : Registry) : Nat := (r.modules.map fun m => m.pages.length).sum

def isEmpty (r : Registry) : Bool := r.size == 0

def addModule (r : Registry) (name : String) (pages : List Page) : Registry :=
  ⟨r.modules ++ [⟨name, pages⟩]⟩

def ofJson : Decoder Registry := fun j => do
  let fields : Json.Fields [List Module] :=
    (.defaulting "modules" (Json.toList Module.ofJson) [], ())
  let (modules, _) ← fields.decode "Registry" j
  .ok ⟨modules⟩

def toJson (r : Registry) : Json := .object [("modules", .array (r.modules.map Module.toJson))]

def parse (text : String) : Except DocumentError Registry := Json.decodeString text ofJson

end Registry

end PageAudit
