import PageAudit.Check.Kind
import PageAudit.Text.Blank

/-!
A page of the application under test and what is expected of it. An expectation that is not stated is
not checked.
-/

namespace PageAudit

structure Page where
  name : String
  /-- Where the page is, relative to the address of the application. -/
  route : String
  expectedTitle : Option String
  expectedTexts : Option (List String)
  /-- Words of a broken page besides the known ones; an empty list asks for the known ones. -/
  forbiddenTexts : Option (List String)
  /-- Words of success; an empty list asks for the known ones. -/
  successTexts : Option (List String)
  expectTable : Option Bool
  minTableRows : Option Nat
  textRequirement : Option Check.Requirement
  deriving DecidableEq

namespace Page

def bare (name route : String) : Page := ⟨name, route, none, none, none, none, none, none, none⟩

instance : Inhabited Page := ⟨bare "" ""⟩

/-! ## Stating expectations -/

def withTitle (p : Page) (title : String) : Page := { p with expectedTitle := some title }

def withTexts (p : Page) (texts : List String) : Page := { p with expectedTexts := some texts }

def requiring (p : Page) (r : Check.Requirement) : Page := { p with textRequirement := some r }

def forbidding (p : Page) (words : List String) : Page := { p with forbiddenTexts := some words }

def succeeding (p : Page) (words : List String) : Page := { p with successTexts := some words }

def withTable (p : Page) (minRows : Nat) : Page :=
  { p with expectTable := some true, minTableRows := some minRows }

/-! ## The checks of a page -/

def titleCheck (p : Page) (tolerance : Double) : List Check.Spec :=
  match p.expectedTitle with
  | some title => if Text.isBlankText title then [] else [.title title tolerance]
  | none => []

def textsCheck (p : Page) (tolerance : Double) : List Check.Spec :=
  match p.expectedTexts with
  | some (text :: texts) =>
    [.requiredTexts (text :: texts) (p.textRequirement.getD .default) tolerance]
  | _ => []

def forbiddenCheck (p : Page) : List Check.Spec :=
  (p.forbiddenTexts.map .forbiddenTexts).toList

def successCheck (p : Page) : List Check.Spec :=
  (p.successTexts.map .successMessage).toList

/-- Whether rows of a table are expected: the flag decides, and without it the number of rows. -/
def wantsTable (p : Page) : Bool := p.expectTable.getD p.minTableRows.isSome

def tableCheck (p : Page) : List Check.Spec :=
  if p.wantsTable then [.tableMinRows (p.minTableRows.getD 1)] else []

/-- The checks of the page, in the order of the catalogue. The tolerance is that of the title and the
expected texts. -/
def checks (p : Page) (tolerance : Double) : List Check.Spec :=
  p.titleCheck tolerance ++ p.textsCheck tolerance ++ p.forbiddenCheck ++ p.successCheck ++
    p.tableCheck

/-! ## Documents -/

def ofJson : Decoder Page := fun j => do
  let fields : Json.Fields [String, String, Option String, Option (List String),
      Option (List String), Option (List String), Option Bool, Option Nat,
      Option Check.Requirement] :=
    (.required "name" Json.toText,
      .required "route" Json.toText,
      .optional "expectedTitle" Json.toText,
      .optional "expectedTexts" (Json.toList Json.toText),
      .optional "forbiddenTexts" (Json.toList Json.toText),
      .optional "successTexts" (Json.toList Json.toText),
      .optional "expectTable" Json.toBool,
      .optional "minTableRows" Json.toSize,
      .optional "textRequirement" Check.Requirement.ofJson, ())
  let (name, route, title, texts, forbidden, success, table, rows, requirement, _) ←
    fields.decode "PageSpec" j
  .ok ⟨name, route, title, texts, forbidden, success, table, rows, requirement⟩

def toJson (p : Page) : Json :=
  .object ([("name", .string p.name), ("route", .string p.route)] ++
    Json.optional "expectedTitle" (p.expectedTitle.map .string) ++
    Json.optional "expectedTexts" (p.expectedTexts.map .ofStrings) ++
    Json.optional "forbiddenTexts" (p.forbiddenTexts.map .ofStrings) ++
    Json.optional "successTexts" (p.successTexts.map .ofStrings) ++
    Json.optional "expectTable" (p.expectTable.map .bool) ++
    Json.optional "minTableRows" (p.minTableRows.map .ofNat) ++
    Json.optional "textRequirement" (p.textRequirement.map Check.Requirement.toJson))

end Page

end PageAudit
