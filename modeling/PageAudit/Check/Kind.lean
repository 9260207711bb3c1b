import PageAudit.Json.Record
import PageAudit.Matching

/-!
The catalogue of checks, their settings and their outcomes.
-/

namespace PageAudit.Check

inductive Kind where
  | title
  | requiredTexts
  | forbiddenTexts
  | successMessage
  | tableMinRows
  deriving DecidableEq

namespace Kind

def label : Kind → String
  | title => "title"
  | requiredTexts => "requiredTexts"
  | forbiddenTexts => "forbiddenTexts"
  | successMessage => "successMessage"
  | tableMinRows => "tableMinRows"

def all : List Kind := [title, requiredTexts, forbiddenTexts, successMessage, tableMinRows]

def ofJson : Decoder Kind := Json.toVariant (all.map fun k => (k.label, k))

def toJson (k : Kind) : Json := .string k.label

end Kind

inductive Requirement where
  | all
  | any
  deriving DecidableEq

namespace Requirement

def name : Requirement → String
  | all => "all"
  | any => "any"

def variants : List Requirement := [all, any]

def ofJson : Decoder Requirement := Json.toVariant (variants.map fun r => (r.name, r))

def toJson (r : Requirement) : Json := .string r.name

def default : Requirement := any

end Requirement

inductive Spec where
  | title (expected : String) (tolerance : Double)
  | requiredTexts (texts : List String) (requirement : Requirement) (tolerance : Double)
  /-- The custom words are sought in addition to the known ones. -/
  | forbiddenTexts (custom : List String)
  /-- Without keywords the known ones are sought. -/
  | successMessage (keywords : List String)
  | tableMinRows (minRows : Nat)
  deriving DecidableEq

def Spec.kind : Spec → Kind
  | title .. => .title
  | requiredTexts .. => .requiredTexts
  | forbiddenTexts .. => .forbiddenTexts
  | successMessage .. => .successMessage
  | tableMinRows .. => .tableMinRows

structure Outcome where
  kind : Kind
  passed : Bool
  message : String
  /-- The beginning of the recognized text, if there is one. -/
  snapshot : Option String
  deriving DecidableEq

namespace Outcome

def ofJson : Decoder Outcome := fun j => do
  let fields : Json.Fields [Kind, Bool, String, Option String] :=
    (.required "kind" Kind.ofJson,
      .required "passed" Json.toBool,
      .required "message" Json.toText,
      .optional "recognized_text_snapshot" Json.toText, ())
  let (kind, passed, message, snapshot, _) ← fields.decode "CheckOutcome" j
  .ok ⟨kind, passed, message, snapshot⟩

def toJson (o : Outcome) : Json :=
  .object ([("kind", o.kind.toJson), ("passed", .bool o.passed), ("message", .string o.message)] ++
    Json.optional "recognized_text_snapshot" (o.snapshot.map .string))

end Outcome

end PageAudit.Check
