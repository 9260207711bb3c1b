import PageAudit.Json.Value
import PageAudit.Text.Hex

/-!
Documents as texts: compact, or laid out with one item on a line and two blanks of indentation for
each bracket.
-/

namespace PageAudit.Json

def escapeChar (c : Char) : List Char :=
  if c = '"' then ['\\', '"']
  else if c = '\\' then ['\\', '\\']
  else if c = '\x08' then ['\\', 'b']
  else if c = '\t' then ['\\', 't']
  else if c = '\n' then ['\\', 'n']
  else if c = '\x0c' then ['\\', 'f']
  else if c = '\r' then ['\\', 'r']
  else if c.toNat < 16 then ['\\', 'u', '0', '0', '0'] ++ Hex.digits c.toNat
  else if c.toNat < 32 then ['\\', 'u', '0', '0'] ++ Hex.digits c.toNat
  else [c]

def stringText (s : String) : List Char := '"' :: s.toList.flatMap escapeChar ++ ['"']

/-- The text of a string that spells nothing. -/
def garbledText : List Char := ['"', '\\', 'u', 'd', '8', '0', '0', '"']

def literal (b : Bool) : List Char :=
  if b then ['t', 'r', 'u', 'e'] else ['f', 'a', 'l', 's', 'e']

def compactText : Json → List Char
  | null => ['n', 'u', 'l', 'l']
  | bool b => literal b
  | number n => n.text
  | string s => stringText s
  | garbled => garbledText
  | array [] => ['[', ']']
  | array (j :: rest) => '[' :: j.compactText ++ itemsText rest ++ [']']
  | object [] => ['\x7b', '\x7d']
  | object ((name, j) :: rest) =>
    '\x7b' :: stringText name ++ ':' :: j.compactText ++ membersText rest ++ ['\x7d']
where
  itemsText : List Json → List Char
    | [] => []
    | j :: rest => ',' :: j.compactText ++ itemsText rest
  membersText : List (String × Json) → List Char
    | [] => []
    | (name, j) :: rest =>
      ',' :: stringText name ++ ':' :: j.compactText ++ membersText rest

/-- A new line inside `level` brackets. -/
def newLine (level : Nat) : List Char := '\n' :: List.replicate (2 * level) ' '

def prettyText (level : Nat) : Json → List Char
  | null => ['n', 'u', 'l', 'l']
  | bool b => literal b
  | number n => n.text
  | string s => stringText s
  | garbled => garbledText
  | array [] => ['[', ']']
  | array (j :: rest) =>
    '[' :: newLine (level + 1) ++ prettyText (level + 1) j ++ itemsText (level + 1) rest ++
      newLine level ++ [']']
  | object [] => ['\x7b', '\x7d']
  | object ((name, j) :: rest) =>
    '\x7b' :: newLine (level + 1) ++ stringText name ++ [':', ' '] ++ prettyText (level + 1) j ++
      membersText (level + 1) rest ++ newLine level ++ ['\x7d']
where
  itemsText (level : Nat) : List Json → List Char
    | [] => []
    | j :: rest => ',' :: newLine level ++ prettyText level j ++ itemsText level rest
  membersText (level : Nat) : List (String × Json) → List Char
    | [] => []
    | (name, j) :: rest =>
      ',' :: newLine level ++ stringText name ++ [':', ' '] ++ prettyText level j ++
        membersText level rest

def compact (j : Json) : String := String.ofList j.compactText

def pretty (j : Json) : String := String.ofList (prettyText 0 j)

end PageAudit.Json
