import PageAudit.Json.Record

/-!
What a recognition service found in a screenshot: text and tables, or the reason why it failed.
-/

namespace PageAudit

structure Table where
  headers : List String
  rows : List (List String)
  rowCount : Nat
  columnCount : Nat
  deriving DecidableEq, Inhabited

namespace Table

/-- The table with the given cells, as wide as its widest row. -/
def ofCells (headers : List String) (rows : List (List String)) : Table :=
  ⟨headers, rows, rows.length, (rows.map List.length).foldl max headers.length⟩

def ofJson : Decoder Table := fun j => do
  let fields : Json.Fields [List String, List (List String), Nat, Nat] :=
    (.required "headers" (Json.toList Json.toText),
      .required "rows" (Json.toList (Json.toList Json.toText)),
      .required "row_count" Json.toSize,
      .required "col_count" Json.toSize, ())
  let (headers, rows, rowCount, columnCount, _) ← fields.decode "Table" j
  .ok ⟨headers, rows, rowCount, columnCount⟩

def toJson (t : Table) : Json :=
  .object [("headers", .ofStrings t.headers), ("rows", .array (t.rows.map .ofStrings)),
    ("row_count", .ofNat t.rowCount), ("col_count", .ofNat t.columnCount)]

end Table

namespace Recognition

inductive Status where
  | completed
  | failed
  deriving DecidableEq

namespace Status

def name : Status → String
  | completed => "completed"
  | failed => "failed"

def all : List Status := [completed, failed]

def ofJson : Decoder Status := Json.toVariant (all.map fun s => (s.name, s))

def toJson (s : Status) : Json := .string s.name

end Status

structure Result where
  status : Status
  rawText : String
  tables : List Table
  confidence : Double
  errorMessage : Option String
  deriving DecidableEq

namespace Result

def completed (text : String) (confidence : Double) (tables : List Table) : Result :=
  ⟨.completed, text, tables, confidence, none⟩

/-- What stands for a recognition that gave no result. -/
def failed (message : String) : Result := ⟨.failed, "", [], .zero, some message⟩

instance : Inhabited Result := ⟨completed "" .zero []⟩

def isFailed (r : Result) : Bool := r.status == .failed

def failureReason (r : Result) : String := r.errorMessage.getD "recognition failed"

/-- The number of rows in all tables together, as the tables state it. -/
def totalRows (r : Result) : Nat := (r.tables.map Table.rowCount).sum

/-- Adds the rows of a table to others; there is no sum if it has more than 64 bits. -/
def addRows? (rows : Nat) (t : Table) : Option Nat :=
  if rows + t.rowCount < 2 ^ 64 then some (rows + t.rowCount) else none

/-- Counts the rows of all tables, in 64 bits. -/
def countRows? (r : Result) : Option Nat := r.tables.foldlM addRows? 0

def ofJson : Decoder Result := fun j => do
  let fields : Json.Fields [Status, String, List Table, Double, Option String] :=
    (.required "status" Status.ofJson,
      .required "raw_text" Json.toText,
      .defaulting "tables" (Json.toList Table.ofJson) [],
      .required "confidence" Json.toDouble,
      .optional "error_message" Json.toText, ())
  let (status, rawText, tables, confidence, errorMessage, _) ← fields.decode "RecognitionResult" j
  .ok ⟨status, rawText, tables, confidence, errorMessage⟩

def toJson (r : Result) : Json :=
  .object ([("status", r.status.toJson), ("raw_text", .string r.rawText),
    ("tables", .array (r.tables.map Table.toJson)), ("confidence", .ofDouble r.confidence)] ++
    Json.optional "error_message" (r.errorMessage.map .string))

end Result

end Recognition

end PageAudit
