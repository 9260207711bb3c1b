import PageAudit.Json.Printer
import PageAudit.Json.Reader
import PageAudit.Time.Rfc3339
import PageAudit.Text.Quoted

/-!
From documents to typed values. A decoder takes a value that has been read and either gives the typed
value or says what is wrong with it. Of several things that are wrong, the one that comes first in
the document is reported, and missing fields are reported last.
-/

namespace PageAudit

inductive Shape where
  | text
  | boolean
  | size
  | count
  | real
  | list
  | map
  | path
  | moment
  | nothing
  | record (name : String)
  deriving DecidableEq

def Shape.phrase : Shape → String
  | text => "a string"
  | boolean => "a boolean"
  | size => "usize"
  | count => "u64"
  | real => "f64"
  | list => "a sequence"
  | map => "a map"
  | path => "path string"
  | moment => "an RFC 3339 formatted date and time string"
  | nothing => "unit"
  | record name => "struct " ++ name

inductive DecodeError where
  | wrongShape (found : Json) (expected : Shape)
  | wrongValue (found : Json) (expected : Shape)
  | missingField (name : String)
  | duplicateField (name : String)
  | unknownVariant (name : String) (known : List String)
  | tooFewFields (found : Nat) (record : String) (fields : Nat)
  | tooManyFields
  /-- Neither a name nor an object with one name as its only member. -/
  | notAVariant
  | badMoment (cause : TimeError)

namespace DecodeError

def describe : Json → String
  | .null => "null"
  | .bool b => "boolean \x60" ++ (if b then "true" else "false") ++ "\x60"
  | .number n =>
    let whole := if n.negative then "-" else ""
    if n.fraction.isEmpty && n.exponent.isNone && !(n.negative && Digit.value n.whole = 0) &&
        Digit.value n.whole < (if n.negative then 2 ^ 63 + 1 else 2 ^ 64) then
      "integer \x60" ++ whole ++ toString (Digit.value n.whole) ++ "\x60"
    else
      let shown := (n.read.bind Double.numeral?).getD n
      "floating point \x60" ++ String.ofList shown.text ++ "\x60"
  | .string s => "string " ++ Text.quoted s
  | .garbled => "string"
  | .array _ => "sequence"
  | .object _ => "map"

def choices (known : List String) : String :=
  let marked := known.map fun k => "\x60" ++ k ++ "\x60"
  match marked with
  | [a] => a
  | [a, b] => a ++ " or " ++ b
  | _ => "one of " ++ ", ".intercalate marked

def message : DecodeError → String
  | wrongShape found expected =>
    "invalid type: " ++ describe found ++ ", expected " ++ expected.phrase
  | wrongValue found expected =>
    "invalid value: " ++ describe found ++ ", expected " ++ expected.phrase
  | missingField name => "missing field \x60" ++ name ++ "\x60"
  | duplicateField name => "duplicate field \x60" ++ name ++ "\x60"
  | unknownVariant name known =>
    "unknown variant \x60" ++ name ++ "\x60, expected " ++ choices known
  | tooFewFields found record fields =>
    "invalid length " ++ toString found ++ ", expected struct " ++ record ++ " with " ++
      toString fields ++ " elements"
  | tooManyFields => "trailing characters"
  | notAVariant => "expected value"
  | badMoment cause => cause.message

end DecodeError

variable {α : Type}

abbrev Decoder (α : Type) := Json → Except DecodeError α

namespace Json

/-! ## Plain values -/

def toText : Decoder String
  | string s => .ok s
  | j => .error (.wrongShape j .text)

def toPath : Decoder String
  | string s => .ok s
  | j => .error (.wrongShape j .path)

def toBool : Decoder Bool
  | bool b => .ok b
  | j => .error (.wrongShape j .boolean)

/-- A whole number below `2 ^ 64`, under the name that diagnostics give to its kind. -/
def toWord (shape : Shape) : Decoder Nat
  | number n =>
    let value := Digit.value n.whole
    if !n.fraction.isEmpty || n.exponent.isSome then .error (.wrongShape (number n) shape)
    else if n.negative then
      if value = 0 || 2 ^ 63 < value then .error (.wrongShape (number n) shape)
      else .error (.wrongValue (number n) shape)
    else if value < 2 ^ 64 then .ok value
    else .error (.wrongShape (number n) shape)
  | j => .error (.wrongShape j shape)

def toSize : Decoder Nat := toWord .size

def toCount : Decoder Nat := toWord .count

def toDouble : Decoder Double
  | number n =>
    match n.read with
    | some x => .ok x
    | none => .error (.wrongShape (number n) .real)
  | j => .error (.wrongShape j .real)

def toMoment : Decoder Moment
  | string s =>
    match Moment.ofText s with
    | .ok m => .ok m
    | .error e => .error (.badMoment e)
  | j => .error (.wrongShape j .moment)

/-! ## Compound values -/

def decodeItems (decode : Decoder α) : List Json → Except DecodeError (List α)
  | [] => .ok []
  | j :: rest =>
    match decode j with
    | .error e => .error e
    | .ok a =>
      match decodeItems decode rest with
      | .error e => .error e
      | .ok as => .ok (a :: as)

def toList (decode : Decoder α) : Decoder (List α)
  | array items => decodeItems decode items
  | j => .error (.wrongShape j .list)

def toOption (decode : Decoder α) : Decoder (Option α)
  | null => .ok none
  | j => (decode j).map some

/-- Puts a value under a name: in place if the name is there, else at the end. -/
def assign (name : String) (value : α) : List (String × α) → List (String × α)
  | [] => [(name, value)]
  | (n, v) :: rest =>
    if n = name then (n, value) :: rest else (n, v) :: assign name value rest

/-- Decodes the members in order; of several with one name the last counts, at the place of the
first. -/
def decodeMembers (decode : Decoder α) (acc : List (String × α)) :
    List (String × Json) → Except DecodeError (List (String × α))
  | [] => .ok acc
  | (name, j) :: rest =>
    match decode j with
    | .error e => .error e
    | .ok a => decodeMembers decode (assign name a acc) rest

def toTable (decode : Decoder α) : Decoder (List (String × α))
  | object members => decodeMembers decode [] members
  | j => .error (.wrongShape j .map)

/-- One of several names, each of which stands for a value: alone, or as the only member of an object
whose value is null. -/
def toVariant (variants : List (String × α)) : Decoder α
  | string s => find s
  | object [] => .error .notAVariant
  | object ((name, j) :: rest) =>
    match find name, j, rest with
    | .error e, _, _ => .error e
    | .ok a, null, [] => .ok a
    | .ok _, null, _ :: _ => .error .notAVariant
    | .ok _, j, _ => .error (.wrongShape j .nothing)
  | _ => .error .notAVariant
where
  find (s : String) : Except DecodeError α :=
    match variants.lookup s with
    | some a => .ok a
    | none => .error (.unknownVariant s (variants.map (·.1)))

end Json

/-! ## Whole documents -/

inductive DocumentError where
  | malformed
  | mismatch (cause : DecodeError)

namespace DocumentError

def message : DocumentError → String
  | malformed => "malformed JSON"
  | mismatch cause => cause.message

end DocumentError

/-- Decodes a source. A document that gives its value is not asked whether the parts that were
skipped are legible. -/
def Json.Source.decode (src : Json.Source) (decode : Decoder α) : Except DocumentError α :=
  match Json.ofSource? src with
  | none => .error .malformed
  | some j =>
    match decode j with
    | .ok a => .ok a
    | .error e => if j.wellFormed then .error (.mismatch e) else .error .malformed

def Json.decodeString (s : String) (decode : Decoder α) : Except DocumentError α :=
  (Json.Source.ofString s).decode decode

end PageAudit
