import PageAudit.Text.Hex
import PageAudit.Text.QuoteTable

/-!
Texts between double quotes as diagnostics show them: quotes, backslashes, controls and characters
that cannot be told from their surroundings are written as escapes.
-/

namespace PageAudit.Text

/-- Whether the character is a mark that would attach to the one before it. The two halfwidth sound
marks take a place of their own. -/
def attaches (c : Char) : Bool :=
  inRanges graphemeExtendRanges c.toNat && c != '\uff9e' && c != '\uff9f'

def isHidden (c : Char) : Bool :=
  attaches c || inRanges defaultIgnorableRanges c.toNat || inRanges unprintableRanges c.toNat

def quoteChar (c : Char) : List Char :=
  if c = '"' then ['\\', '"']
  else if c = '\\' then ['\\', '\\']
  else if c = '\n' then ['\\', 'n']
  else if c = '\r' then ['\\', 'r']
  else if c = '\t' then ['\\', 't']
  else if c = '\x00' then ['\\', '0']
  else if isHidden c then
    ['\\', 'u', '\x7b'] ++ Hex.digits c.toNat ++ ['\x7d']
  else [c]

def quoted (s : String) : String :=
  String.ofList ('"' :: s.toList.flatMap quoteChar ++ ['"'])

end PageAudit.Text
