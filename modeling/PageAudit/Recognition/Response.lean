import PageAudit.Json.Outline
import PageAudit.Recognition.Error
import PageAudit.Recognition.Result
import PageAudit.Text.Case

/-!
The answer of a recognition service. Every field may be missing; an answer with a status of failure
is an error and never a result.
-/

namespace PageAudit.Recognition

structure Response where
  status : Option String
  text : String
  tables : List (List String × List (List String))
  confidence : Double
  error : Option String

namespace Response

/-- The cells of a table, headers first. -/
def cellsOfJson : Decoder (List String × List (List String)) := fun j => do
  let fields : Json.Fields [List String, List (List String)] :=
    (.defaulting "headers" (Json.toList Json.toText) [],
      .defaulting "rows" (Json.toList (Json.toList Json.toText)) [], ())
  let (headers, rows, _) ← fields.decode "ServiceTable" j
  .ok (headers, rows)

def ofJson : Decoder Response := fun j => do
  let fields : Json.Fields
      [Option String, String, List (List String × List (List String)), Double, Option String] :=
    (.optional "status" Json.toText,
      (Json.Field.defaulting "text" Json.toText "").orNamed ["raw_text", "rawText"],
      .defaulting "tables" (Json.toList cellsOfJson) [],
      .defaulting "confidence" Json.toDouble .zero,
      (Json.Field.optional "error" Json.toText).orNamed ["errorMessage", "error_message"], ())
  let (status, text, tables, confidence, error, _) ← fields.decode "ServiceResponse" j
  .ok ⟨status, text, tables, confidence, error⟩

def outline : Json.Outline :=
  .record "ServiceResponse" [
    (["status"], .textOrNull),
    (["text", "raw_text", "rawText"], .text),
    (["tables"], .list (.record "ServiceTable" [
      (["headers"], .list .text),
      (["rows"], .list (.list .text))])),
    (["confidence"], .real),
    (["error", "errorMessage", "error_message"], .textOrNull)]

def successWords : List String := ["completed", "success", "ok"]

def failureWords : List String := ["failed", "error"]

def result (r : Response) : Except Error Result :=
  let found := Result.completed r.text r.confidence (r.tables.map fun t => .ofCells t.1 t.2)
  match r.status.map Text.lower with
  | none => .ok found
  | some status =>
    if successWords.contains status then .ok found
    else if failureWords.contains status then
      .error (.service (r.error.getD "service reported failure"))
    else .error (.invalidResponse (.unknownStatus status))

def parse (body : ByteArray) : Except Error Result :=
  match (Json.Source.ofBytes body).decode ofJson with
  | .ok r => r.result
  | .error e =>
    .error (.invalidResponse (.undecodable e ((outline.account? body).getD e.message)))

end Response

end PageAudit.Recognition
