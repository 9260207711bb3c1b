import PageAudit.Check.Keywords
import PageAudit.Check.Kind
import PageAudit.Recognition.Result

/-!
Evaluating checks against a recognition. A failed recognition is no evidence of a broken page, so the
checks pass and say that they were skipped; only a success message is never taken on trust.
-/

namespace PageAudit.Check

open Recognition (Result)

def snapshotLength : Nat := 200

def snapshotOf (r : Result) : String := String.ofList (r.rawText.toList.take snapshotLength)

def conclude (r : Result) (kind : Kind) (passed : Bool) (message : String) : Outcome :=
  ⟨kind, passed, message, some (snapshotOf r)⟩

def skip (r : Result) (kind : Kind) : Outcome :=
  ⟨kind, true,
    "Recognition failed (" ++ r.failureReason ++ "), " ++ kind.label ++ " check skipped", none⟩

def isFound (r : Result) (tolerance : Double) (text : String) : Bool :=
  Matching.isMatch r.rawText text .partially tolerance

/-! ## The checks -/

def title (r : Result) (expected : String) (tolerance : Double) : Outcome :=
  if r.isFailed then skip r .title
  else
    let passed := isFound r tolerance expected
    conclude r .title passed <|
      if passed then "Title '" ++ expected ++ "' found"
      else "Title '" ++ expected ++ "' not found (word match " ++
        ((Matching.ratio r.rawText expected).mul (.ofNat 100)).fixed 0 ++ "%)"

def requiredTexts (r : Result) (texts : List String) (requirement : Requirement)
    (tolerance : Double) : Outcome :=
  if r.isFailed then skip r .requiredTexts
  else
    let found := texts.filter (isFound r tolerance)
    let missing := texts.filter (!isFound r tolerance ·)
    let passed := match requirement with
      | .all => missing.isEmpty
      | .any => texts.isEmpty || !found.isEmpty
    conclude r .requiredTexts passed <|
      if missing.isEmpty then "All " ++ toString texts.length ++ " expected texts found"
      else if passed then
        toString found.length ++ "/" ++ toString texts.length ++ " expected texts found, missing: " ++
          Text.quotedList missing
      else "Expected texts not found: " ++ Text.quotedList missing

def normalize (keyword : String) : String := Text.lower (Text.trim keyword)

/-- Adds the keywords in order, without blank ones and without repetitions. -/
def addKeywords : List String → List String → List String
  | known, [] => known
  | known, keyword :: rest =>
    let keyword := normalize keyword
    if keyword.isEmpty || known.contains keyword then addKeywords known rest
    else addKeywords (known ++ [keyword]) rest

def occurring (r : Result) (keywords : List String) : List String :=
  keywords.filter (Text.contains (Text.lower r.rawText))

def forbiddenTexts (r : Result) (custom : List String) : Outcome :=
  if r.isFailed then skip r .forbiddenTexts
  else
    let found := occurring r (addKeywords errorKeywords custom)
    conclude r .forbiddenTexts found.isEmpty <|
      if found.isEmpty then "No error text found"
      else "Error text found: " ++ Text.quotedList found

/-- The keywords of success: the given ones that are not blank, or else the known ones. -/
def wantedKeywords (keywords : List String) : List String :=
  let wanted := (keywords.map normalize).filter (!·.isEmpty)
  if wanted.isEmpty then successKeywords else wanted

def successMessage (r : Result) (keywords : List String) : Outcome :=
  if r.isFailed then
    ⟨.successMessage, false, "Cannot confirm success, recognition failed: " ++ r.failureReason, none⟩
  else
    let wanted := wantedKeywords keywords
    match wanted.find? (Text.contains (Text.lower r.rawText)) with
    | some keyword =>
      conclude r .successMessage true ("Success message found: '" ++ keyword ++ "'")
    | none =>
      conclude r .successMessage false
        ("No success message found (looked for " ++ Text.quotedList wanted ++ ")")

/-- What is said of the tables of a completed recognition that have a number of rows together. -/
def tableOutcome (r : Result) (minRows rows : Nat) : Outcome :=
  let passed := !r.tables.isEmpty && minRows ≤ rows
  conclude r .tableMinRows passed <|
    if r.tables.isEmpty then "No table recognized"
    else if passed then
      toString r.tables.length ++ " table(s) with " ++ toString rows ++ " rows (minimum " ++
        toString minRows ++ ")"
    else
      "Only " ++ toString rows ++ " table rows recognized, expected at least " ++ toString minRows

def tableMinRows (r : Result) (minRows : Nat) : Outcome :=
  if r.isFailed then skip r .tableMinRows else tableOutcome r minRows r.totalRows

/-- The check as it is run: the rows are counted in 64 bits, and without a count there is no outcome. -/
def tableMinRows? (r : Result) (minRows : Nat) : Option Outcome :=
  if r.isFailed then some (skip r .tableMinRows)
  else r.countRows?.map (tableOutcome r minRows)

/-! ## All of them -/

def evaluateOne (r : Result) : Spec → Outcome
  | .title expected tolerance => title r expected tolerance
  | .requiredTexts texts requirement tolerance => requiredTexts r texts requirement tolerance
  | .forbiddenTexts custom => forbiddenTexts r custom
  | .successMessage keywords => successMessage r keywords
  | .tableMinRows minRows => tableMinRows r minRows

def evaluate (r : Result) (checks : List Spec) : List Outcome := checks.map (evaluateOne r)

def evaluateOne? (r : Result) : Spec → Option Outcome
  | .tableMinRows minRows => tableMinRows? r minRows
  | c => some (evaluateOne r c)

/-- The checks as they are run. There are no outcomes if the program crashes, which it does while it
counts the rows of tables that state too many. -/
def evaluate? (r : Result) (checks : List Spec) : Option (List Outcome) :=
  checks.mapM (evaluateOne? r)

def allPassed (outcomes : List Outcome) : Bool := outcomes.all Outcome.passed

end PageAudit.Check
