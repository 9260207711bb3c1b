import PageAudit.Json.Decode

/-!
Scanning a document byte by byte, up to the first byte that cannot be used. A blame says what is wrong
and where: before what follows, or at the next byte. Strings and numbers that are only passed over are
not looked at as closely as those that are wanted.
-/

namespace PageAudit.Json

inductive GrammarFault where
  | endInList
  | endInObject
  | endInString
  | endInValue
  | noColon
  | noListSeparator
  | noObjectSeparator
  | noWord
  | noValue
  | badEscape
  | badNumber
  | hugeNumber
  | badCharacter
  | controlCharacter
  | noName
  | halfCharacter
  | openCharacter
  | trailingComma
  | trailingCharacters
  deriving DecidableEq

def GrammarFault.message : GrammarFault → String
  | endInList => "EOF while parsing a list"
  | endInObject => "EOF while parsing an object"
  | endInString => "EOF while parsing a string"
  | endInValue => "EOF while parsing a value"
  | noColon => "expected \x60:\x60"
  | noListSeparator => "expected \x60,\x60 or \x60]\x60"
  | noObjectSeparator => "expected \x60,\x60 or \x60\x7d\x60"
  | noWord => "expected ident"
  | noValue => "expected value"
  | badEscape => "invalid escape"
  | badNumber => "invalid number"
  | hugeNumber => "number out of range"
  | badCharacter => "invalid unicode code point"
  | controlCharacter => "control character (\\u0000-\\u001F) found while parsing a string"
  | noName => "key must be a string"
  | halfCharacter => "lone leading surrogate in hex escape"
  | openCharacter => "unexpected end of hex escape"
  | trailingComma => "trailing comma"
  | trailingCharacters => "trailing characters"

inductive Complaint where
  | grammar (fault : GrammarFault)
  | content (fault : DecodeError)

def Complaint.message : Complaint → String
  | grammar fault => fault.message
  | content fault => fault.message

/-- What is wrong with a document, and how many bytes follow the place. -/
structure Blame where
  complaint : Complaint
  following : Nat

/-- The bytes of a document, each as the character with its number. -/
abbrev Bytes := List Char

variable {α : Type}

def blameHere (fault : GrammarFault) (rest : Bytes) : Except Blame α :=
  .error ⟨.grammar fault, rest.length⟩

def blameNext (fault : GrammarFault) (rest : Bytes) : Except Blame α :=
  .error ⟨.grammar fault, rest.length - 1⟩

def isSpace (c : Char) : Bool := c == ' ' || c == '\n' || c == '\t' || c == '\r'

def dropSpace (rest : Bytes) : Bytes := rest.dropWhile isSpace

def scanWord : Bytes → Bytes → Except Blame Bytes
  | [], rest => .ok rest
  | _ :: _, [] => blameHere .endInValue []
  | expected :: more, c :: rest => if c = expected then scanWord more rest else blameHere .noWord rest

/-! ## Numbers -/

/-- Takes one or more digits; `atEnd` is to blame if the document ends before them. -/
def scanDigits (atEnd : GrammarFault) (rest : Bytes) : Except Blame (List Digit × Bytes) :=
  match rest.span Char.isDigit with
  | ([], []) => blameHere atEnd []
  | ([], rest) => blameNext .badNumber rest
  | (digits, rest) => .ok (digits.filterMap Digit.ofChar?, rest)

/-- Takes the digits before the point. A first zero is the only one. -/
def scanWhole (atEnd : GrammarFault) : Bytes → Except Blame (List Digit × Bytes)
  | '0' :: rest =>
    if (rest.head?.map Char.isDigit).getD false then blameNext .badNumber rest else .ok ([0], rest)
  | rest => scanDigits atEnd rest

def scanFraction (atEnd : GrammarFault) : Bytes → Except Blame (List Digit × Bytes)
  | '.' :: rest => scanDigits atEnd rest
  | rest => .ok ([], rest)

/-- The digits of an exponent that follow those with which it leaves its range of 31 bits. -/
def surplus (value : Nat) : List Digit → Nat
  | [] => 0
  | d :: rest =>
    if 2 ^ 31 ≤ value * 10 + d.val then rest.length else surplus (value * 10 + d.val) rest

def scanExponent (atEnd : GrammarFault) (rest : Bytes) : Except Blame (Option Int × Nat × Bytes) :=
  match rest with
  | [] => .ok (none, 0, [])
  | c :: after => do
    if c ≠ 'e' && c ≠ 'E' then .ok (none, 0, rest)
    else
      let sign := after.head?.filter fun c => c == '-' || c == '+'
      let (digits, after) ← scanDigits atEnd (if sign.isSome then after.drop 1 else after)
      let value : Int := Digit.value digits
      .ok (some (if sign = some '-' then -value else value), surplus 0 digits, after)

def scanNumber (atEnd : GrammarFault) (rest : Bytes) : Except Blame (Numeral × Nat × Bytes) := do
  let negative := rest.head? == some '-'
  let (whole, rest) ← scanWhole atEnd (if negative then rest.drop 1 else rest)
  let (fraction, rest) ← scanFraction atEnd rest
  let (exponent, more, rest) ← scanExponent atEnd rest
  .ok (⟨negative, whole, fraction, exponent⟩, more, rest)

def readNumeral (rest : Bytes) : Except Blame (Numeral × Bytes) := do
  let (n, more, rest) ← scanNumber .endInValue rest
  if n.read.isSome then .ok (n, rest)
  else .error ⟨.grammar .hugeNumber, rest.length + more⟩

def skipNumber (rest : Bytes) : Except Blame Bytes :=
  (scanNumber .badNumber rest).map fun found => found.2.2

/-! ## Strings -/

def bytesOf (n : Nat) : Bytes :=
  (String.singleton (Char.ofNat n)).toUTF8.toList.map fun b => Char.ofNat b.toNat

def scanUnit : Bytes → Except Blame (Nat × Bytes)
  | a :: b :: c :: d :: rest =>
    match hexUnit? a b c d with
    | some n => .ok (n, rest)
    | none => blameHere .badEscape rest
  | _ => blameHere .endInString []

def scanCharacter (rest : Bytes) : Except Blame (Bytes × Bytes) := do
  let (n, rest) ← scanUnit rest
  if n < 0xd800 || 0xdfff < n then .ok (bytesOf n, rest)
  else if 0xdc00 ≤ n then blameHere .halfCharacter rest
  else match rest with
    | '\\' :: 'u' :: rest =>
      let (m, rest) ← scanUnit rest
      if 0xdc00 ≤ m && m ≤ 0xdfff then
        .ok (bytesOf (0x10000 + (n - 0xd800) * 0x400 + (m - 0xdc00)), rest)
      else blameHere .halfCharacter rest
    | [] | ['\\'] => blameHere .endInString []
    | '\\' :: _ :: rest | _ :: rest => blameHere .openCharacter rest

def scanEscape : Bytes → Except Blame (Bytes × Bytes)
  | [] => blameHere .endInString []
  | 'u' :: rest => scanCharacter rest
  | c :: rest =>
    match escaped? c with
    | some c => .ok ([c], rest)
    | none => blameHere .badEscape rest

def skipEscape : Bytes → Except Blame Bytes
  | 'u' :: rest => (scanUnit rest).map fun found => found.2
  | rest => (scanEscape rest).map fun found => found.2

/-- Takes the bytes of a string up to the closing quote; those taken so far are given backwards. Every
call takes a byte at least. -/
def scanString : Nat → Bytes → Bytes → Except Blame (Bytes × Bytes)
  | 0, _, rest => blameHere .endInString rest
  | _ + 1, _, [] => blameHere .endInString []
  | _ + 1, taken, '"' :: rest => .ok (taken.reverse, rest)
  | fuel + 1, taken, '\\' :: rest =>
    match scanEscape rest with
    | .error blame => .error blame
    | .ok (bytes, rest) => scanString fuel (bytes.reverse ++ taken) rest
  | fuel + 1, taken, c :: rest =>
    if c.toNat < 32 then blameHere .controlCharacter rest else scanString fuel (c :: taken) rest

def readText (rest : Bytes) : Except Blame (String × Bytes) := do
  let (bytes, rest) ← scanString (rest.length + 1) [] rest
  match Text.strict? ⟨(bytes.map Char.toUInt8).toArray⟩ with
  | some s => .ok (s, rest)
  | none => blameHere .badCharacter rest

/-- Passes over a string after its opening quote. -/
def skipString : Nat → Bytes → Except Blame Bytes
  | 0, rest => blameHere .endInString rest
  | _ + 1, [] => blameHere .endInString []
  | _ + 1, '"' :: rest => .ok rest
  | fuel + 1, '\\' :: rest =>
    match skipEscape rest with
    | .error blame => .error blame
    | .ok rest => skipString fuel rest
  | fuel + 1, c :: rest =>
    if c.toNat < 32 then blameHere .controlCharacter (c :: rest) else skipString fuel rest

/-! ## Values that are passed over -/

def scanColon (rest : Bytes) : Except Blame Bytes :=
  match dropSpace rest with
  | ':' :: rest => .ok rest
  | [] => blameHere .endInObject []
  | rest => blameNext .noColon rest

mutual

/-- Passes over a value. Every call uses up one unit of fuel. -/
def skipValue : Nat → Bytes → Except Blame Bytes
  | 0, rest => .ok rest
  | fuel + 1, rest =>
    match dropSpace rest with
    | [] => blameHere .endInValue []
    | 'n' :: rest => scanWord ['u', 'l', 'l'] rest
    | 't' :: rest => scanWord ['r', 'u', 'e'] rest
    | 'f' :: rest => scanWord ['a', 'l', 's', 'e'] rest
    | '"' :: rest => skipString (rest.length + 1) rest
    | '[' :: rest =>
      match dropSpace rest with
      | ']' :: rest => .ok rest
      | [] => blameHere .endInList []
      | rest => skipItems fuel rest
    | '\x7b' :: rest =>
      match dropSpace rest with
      | '\x7d' :: rest => .ok rest
      | rest => skipMembers fuel rest
    | c :: rest =>
      if c = '-' || c.isDigit then skipNumber (c :: rest) else blameNext .noValue (c :: rest)

def skipItems : Nat → Bytes → Except Blame Bytes
  | 0, rest => .ok rest
  | fuel + 1, rest =>
    match skipValue fuel rest with
    | .error blame => .error blame
    | .ok rest =>
      match dropSpace rest with
      | ']' :: rest => .ok rest
      | ',' :: rest => skipItems fuel rest
      | [] => blameHere .endInList []
      | rest => blameNext .noListSeparator rest

def skipMembers : Nat → Bytes → Except Blame Bytes
  | 0, rest => .ok rest
  | fuel + 1, rest =>
    match dropSpace rest with
    | [] => blameHere .endInObject []
    | '"' :: rest =>
      match (skipString (rest.length + 1) rest).bind fun rest =>
          (scanColon rest).bind (skipValue fuel) with
      | .error blame => .error blame
      | .ok rest =>
        match dropSpace rest with
        | '\x7d' :: rest => .ok rest
        | ',' :: rest => skipMembers fuel rest
        | [] => blameHere .endInObject []
        | rest => blameNext .noObjectSeparator rest
    | rest => blameNext .noName rest

end

end PageAudit.Json
