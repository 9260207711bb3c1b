import PageAudit.Json.Scan

/-!
Outlines of documents, and what is said about a document that does not follow its outline: the first
fault that a reader meets who takes the document from left to right, with its line and column.
-/

namespace PageAudit.Json

inductive Outline where
  | text
  | textOrNull
  | real
  | list (item : Outline)
  /-- A record, each of whose fields may be missing and may go by several names. The first name is the
  one that diagnostics use. -/
  | record (name : String) (fields : List (List String × Outline))

namespace Outline

def shape : Outline → Shape
  | text | textOrNull => .text
  | real => .real
  | list _ => .list
  | record name _ => .record name

variable {α : Type}

def blameValue (found : Json) (expected : Shape) (rest : Bytes) : Except Blame α :=
  .error ⟨.content (.wrongShape found expected), rest.length⟩

/-- Blames what stands where a value of a shape is expected. Lists and objects are not looked into. -/
def blameMisfit (expected : Shape) (rest : Bytes) : Except Blame α := do
  match rest with
  | 'n' :: rest => blameValue .null expected (← scanWord ['u', 'l', 'l'] rest)
  | 't' :: rest => blameValue (.bool true) expected (← scanWord ['r', 'u', 'e'] rest)
  | 'f' :: rest => blameValue (.bool false) expected (← scanWord ['a', 'l', 's', 'e'] rest)
  | '"' :: rest =>
    let (s, rest) ← readText rest
    blameValue (.string s) expected rest
  | '[' :: _ => blameValue (.array []) expected rest
  | '\x7b' :: _ => blameValue (.object []) expected rest
  | c :: _ =>
    if c = '-' || c.isDigit then
      let (n, rest) ← readNumeral rest
      blameValue (.number n) expected rest
    else blameNext .noValue rest
  | [] => blameHere .endInValue []

/-- What follows the next item of a list; there is none if the list ends. -/
def scanItem (isFirst : Bool) (rest : Bytes) : Except Blame (Option Bytes) :=
  match isFirst, dropSpace rest with
  | _, ']' :: _ => .ok none
  | _, [] => blameHere .endInList []
  | true, rest => .ok (some rest)
  | false, ',' :: rest =>
    match dropSpace rest with
    | ']' :: rest => blameNext .trailingComma (']' :: rest)
    | [] => blameHere .endInValue []
    | rest => .ok (some rest)
  | false, rest => blameNext .noListSeparator rest

def scanListEnd (rest : Bytes) : Except Blame Bytes :=
  match dropSpace rest with
  | ']' :: rest => .ok rest
  | [] => blameHere .endInList []
  | ',' :: rest =>
    match dropSpace rest with
    | ']' :: rest => blameNext .trailingComma (']' :: rest)
    | rest => blameNext .trailingCharacters rest
  | rest => blameNext .trailingCharacters rest

/-- The name of the next member of an object and what follows it; there is none if the object ends. -/
def scanName (isFirst : Bool) (rest : Bytes) : Except Blame (Option (String × Bytes)) :=
  match isFirst, dropSpace rest with
  | _, '\x7d' :: _ => .ok none
  | _, [] => blameHere .endInObject []
  | true, '"' :: rest => (readText rest).map some
  | true, rest => blameNext .noName rest
  | false, ',' :: rest =>
    match dropSpace rest with
    | '"' :: rest => (readText rest).map some
    | '\x7d' :: rest => blameNext .trailingComma ('\x7d' :: rest)
    | [] => blameHere .endInValue []
    | rest => blameNext .noName rest
  | false, rest => blameNext .noObjectSeparator rest

/-- Blames a name that is there for the second time. The place is that at which an object could end. -/
def blameRepeated (name : String) (rest : Bytes) : Except Blame α :=
  let rest := match dropSpace rest with
    | '\x7d' :: rest => rest
    | rest => rest
  .error ⟨.content (.duplicateField name), rest.length⟩

mutual

/-- Takes what follows an outline. Every call uses up one unit of fuel. -/
def scan : Nat → Outline → Bytes → Except Blame Bytes
  | 0, _, rest => .ok rest
  | fuel + 1, o, rest =>
    match o, dropSpace rest with
    | .textOrNull, 'n' :: rest => scanWord ['u', 'l', 'l'] rest
    | .text, '"' :: rest | .textOrNull, '"' :: rest => (readText rest).map fun found => found.2
    | .real, c :: rest =>
      if c = '-' || c.isDigit then (readNumeral (c :: rest)).map fun found => found.2
      else blameMisfit .real (c :: rest)
    | .list item, '[' :: rest => scanItems fuel item true rest
    | .record _ fields, '\x7b' :: rest => scanMembers fuel fields [] true rest
    | .record _ fields, '[' :: rest => scanFields fuel (fields.map Prod.snd) true rest
    | o, rest => blameMisfit o.shape rest

def scanItems : Nat → Outline → Bool → Bytes → Except Blame Bytes
  | 0, _, _, rest => .ok rest
  | fuel + 1, item, isFirst, rest =>
    match scanItem isFirst rest with
    | .error blame => .error blame
    | .ok none => scanListEnd rest
    | .ok (some rest) => (scan fuel item rest).bind (scanItems fuel item false)

def scanFields : Nat → List Outline → Bool → Bytes → Except Blame Bytes
  | 0, _, _, rest => .ok rest
  | _ + 1, [], _, rest => scanListEnd rest
  | fuel + 1, o :: more, isFirst, rest =>
    match scanItem isFirst rest with
    | .error blame => .error blame
    | .ok none => scanListEnd rest
    | .ok (some rest) => (scan fuel o rest).bind (scanFields fuel more false)

/-- Takes the members of an object and the closing brace; the names in `seen` have been there. -/
def scanMembers : Nat → List (List String × Outline) → List String → Bool → Bytes →
    Except Blame Bytes
  | 0, _, _, _, rest => .ok rest
  | fuel + 1, fields, seen, isFirst, rest =>
    match scanName isFirst rest with
    | .error blame => .error blame
    | .ok none => .ok ((dropSpace rest).drop 1)
    | .ok (some (name, rest)) =>
      match fields.find? fun field => field.1.contains name with
      | none =>
        ((scanColon rest).bind (skipValue fuel)).bind (scanMembers fuel fields seen false)
      | some (names, o) =>
        let primary := names.headD name
        if seen.contains primary then blameRepeated primary rest
        else
          ((scanColon rest).bind (scan fuel o)).bind
            (scanMembers fuel fields (primary :: seen) false)

end

def scanDocument (o : Outline) (document : Bytes) : Except Blame Unit := do
  match dropSpace (← scan (2 * document.length + 2) o document) with
  | [] => .ok ()
  | rest => blameNext .trailingCharacters rest

end Outline

/-! ## Accounts -/

def Blame.account (b : Blame) (document : Bytes) : String :=
  let front := document.take (document.length - b.following)
  let line := front.count '\n' + 1
  let column := (front.reverse.takeWhile (· != '\n')).length
  b.complaint.message ++ " at line " ++ toString line ++ " column " ++ toString column

def Outline.account? (o : Outline) (bytes : ByteArray) : Option String :=
  let document : Bytes := bytes.toList.map fun b => Char.ofNat b.toNat
  match o.scanDocument document with
  | .ok () => none
  | .error blame => some (blame.account document)

end PageAudit.Json
