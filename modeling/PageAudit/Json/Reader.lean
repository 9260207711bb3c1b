import PageAudit.Json.Value
import PageAudit.Number.Parse
import PageAudit.Text.Hex
import PageAudit.Text.Utf8

/-!
Reading documents. The reader takes characters, with a gap wherever the bytes of a document spell
none; it refuses every text that breaks the grammar. Strings that are grammatical but spell no text
are kept apart as garbled values.
-/

namespace PageAudit.Json

/-- The characters of a document; `none` is a gap. -/
abbrev Source := List (Option Char)

def Source.ofString (s : String) : Source := s.toList.map some

def Source.ofBytes (bytes : ByteArray) : Source := Text.characters bytes.toList

def skipBlanks : Source → Source
  | some c :: rest =>
    if c = ' ' || c = '\n' || c = '\t' || c = '\r' then skipBlanks rest else some c :: rest
  | src => src

/-! ## Strings -/

/-- A part of a string: a character, a code unit given by number, or a gap. -/
inductive Piece where
  | char (c : Char)
  | unit (n : Nat)
  | gap

def hexUnit? (a b c d : Char) : Option Nat := do
  some ((((← Hex.value? a) * 16 + (← Hex.value? b)) * 16 + (← Hex.value? c)) * 16 + (← Hex.value? d))

def escaped? (c : Char) : Option Char :=
  if c = '"' || c = '\\' || c = '/' then some c
  else if c = 'b' then some '\x08'
  else if c = 'f' then some '\x0c'
  else if c = 'n' then some '\n'
  else if c = 'r' then some '\r'
  else if c = 't' then some '\t'
  else none

def pieces : Source → Option (List Piece × Source)
  | [] => none
  | none :: rest => (pieces rest).map fun (ps, after) => (.gap :: ps, after)
  | some '"' :: rest => some ([], rest)
  | some '\\' :: some 'u' :: some a :: some b :: some c :: some d :: rest =>
    match hexUnit? a b c d, pieces rest with
    | some n, some (ps, after) => some (.unit n :: ps, after)
    | _, _ => none
  | some '\\' :: some c :: rest =>
    match escaped? c, pieces rest with
    | some c, some (ps, after) => some (.char c :: ps, after)
    | _, _ => none
  | some c :: rest =>
    if c = '\\' || c.toNat < 32 then none
    else (pieces rest).map fun (ps, after) => (.char c :: ps, after)

/-- The text that the parts spell; two code units may form one character. -/
def spell : List Piece → Option (List Char)
  | [] => some []
  | .char c :: rest => (spell rest).map (c :: ·)
  | .gap :: _ => none
  | .unit n :: rest =>
    if n < 0xd800 || 0xdfff < n then (spell rest).map (Char.ofNat n :: ·)
    else match rest with
      | .unit m :: rest =>
        if n < 0xdc00 && 0xdc00 ≤ m && m ≤ 0xdfff then
          (spell rest).map (Char.ofNat (0x10000 + (n - 0xd800) * 0x400 + (m - 0xdc00)) :: ·)
        else none
      | _ => none

/-- Reads a string after its opening quote; the text is missing if the string spells none. -/
def readString (src : Source) : Option (Option String × Source) :=
  (pieces src).map fun (ps, after) => ((spell ps).map String.ofList, after)

/-! ## Numbers -/

def digits : Source → List Digit × Source
  | some c :: rest =>
    match Digit.ofChar? c with
    | some d => let (ds, after) := digits rest; (d :: ds, after)
    | none => ([], some c :: rest)
  | src => ([], src)

def readFraction : Source → Option (List Digit × Source)
  | some '.' :: rest =>
    match digits rest with
    | ([], _) => none
    | found => some found
  | src => some ([], src)

def readPower (negative : Bool) (src : Source) : Option (Option Int × Source) :=
  match digits src with
  | ([], _) => none
  | (ds, after) =>
    some (some (if negative then -(Digit.value ds : Int) else Digit.value ds), after)

def readExponent : Source → Option (Option Int × Source)
  | some c :: rest =>
    if c = 'e' || c = 'E' then
      match rest with
      | some '-' :: rest => readPower true rest
      | some '+' :: rest => readPower false rest
      | rest => readPower false rest
    else some (none, some c :: rest)
  | src => some (none, src)

/-- Reads a number after its sign. A first zero is the only digit before the point. -/
def readNumber (negative : Bool) (src : Source) : Option (Json × Source) :=
  match digits src with
  | ([], _) => none
  | (whole, rest) =>
    if whole.head? = some 0 && whole.length ≠ 1 then none
    else do
      let (fraction, rest) ← readFraction rest
      let (exponent, rest) ← readExponent rest
      some (number ⟨negative, whole, fraction, exponent⟩, rest)

/-! ## Values -/

mutual

/-- Reads a value. Every call uses up one unit of fuel, and a character of the source. -/
def readValue : Nat → Source → Option (Json × Source)
  | 0, _ => none
  | fuel + 1, src =>
    match skipBlanks src with
    | some 'n' :: some 'u' :: some 'l' :: some 'l' :: rest => some (null, rest)
    | some 't' :: some 'r' :: some 'u' :: some 'e' :: rest => some (bool true, rest)
    | some 'f' :: some 'a' :: some 'l' :: some 's' :: some 'e' :: rest => some (bool false, rest)
    | some '"' :: rest =>
      (readString rest).map fun (s, rest) => (match s with | some s => string s | none => garbled, rest)
    | some '[' :: rest =>
      match skipBlanks rest with
      | some ']' :: rest => some (array [], rest)
      | rest => (readItems fuel rest).map fun (items, rest) => (array items, rest)
    | some '\x7b' :: rest =>
      match skipBlanks rest with
      | some '\x7d' :: rest => some (object [], rest)
      | rest =>
        (readMembers fuel rest).map fun (members, rest) =>
          (match members with | some ms => object ms | none => garbled, rest)
    | some '-' :: rest => readNumber true rest
    | src => readNumber false src

def readItems : Nat → Source → Option (List Json × Source)
  | 0, _ => none
  | fuel + 1, src =>
    match readValue fuel src with
    | none => none
    | some (j, rest) =>
      match skipBlanks rest with
      | some ']' :: rest => some ([j], rest)
      | some ',' :: rest => (readItems fuel rest).map fun (js, rest) => (j :: js, rest)
      | _ => none

/-- Reads one or more members up to the closing brace; they are missing if a name spells no text. -/
def readMembers : Nat → Source → Option (Option (List (String × Json)) × Source)
  | 0, _ => none
  | fuel + 1, src =>
    match skipBlanks src with
    | some '"' :: rest =>
      match readString rest with
      | none => none
      | some (name, rest) =>
        match skipBlanks rest with
        | some ':' :: rest =>
          match readValue fuel rest with
          | none => none
          | some (j, rest) =>
            let member := name.map fun name => (name, j)
            match skipBlanks rest with
            | some '\x7d' :: rest => some (member.map ([·]), rest)
            | some ',' :: rest =>
              (readMembers fuel rest).map fun (more, rest) =>
                (match member, more with
                  | some m, some ms => some (m :: ms)
                  | _, _ => none, rest)
            | _ => none
        | _ => none
    | _ => none

end

def ofSource? (src : Source) : Option Json :=
  match readValue (src.length + 1) src with
  | some (j, rest) => if (skipBlanks rest).isEmpty then some j else none
  | none => none

/-- Whether a source is a document that may be blamed for its content. -/
def Source.isWellFormed (src : Source) : Bool :=
  match ofSource? src with
  | some j => j.wellFormed
  | none => false

def ofString? (s : String) : Option Json := ofSource? (.ofString s)

end PageAudit.Json
