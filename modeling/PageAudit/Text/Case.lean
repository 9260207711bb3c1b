import PageAudit.Text.CaseTable

/-!
Lower-casing of whole texts. Every character moves by its own mapping, except the capital sigma,
whose lower-case form depends on whether a word ends there.
-/

namespace PageAudit.Text

def isCased (c : Char) : Bool := inRanges casedRanges c.toNat

/-- Whether the character is skipped when the neighbourhood of a sigma is inspected. -/
def isCaseIgnorable (c : Char) : Bool := inRanges caseIgnorableRanges c.toNat

def lowerChar (c : Char) : List Char :=
  if c.toNat < 128 then [c.toLower]
  else if c = 'İ' then ['i', '\u0307']
  else match lowerRanges.find? (·.covers c.toNat) with
    | some r => [Char.ofNat ((c.toNat : Int) + r.shift).toNat]
    | none => [c]

/-- Whether a cased character comes first once the ignorable ones are skipped. -/
def casedAhead (cs : List Char) : Bool :=
  match cs.dropWhile isCaseIgnorable with
  | [] => false
  | c :: _ => isCased c

/-- The lower-case form of a capital sigma: the final form where a word ends. -/
def lowerSigma (before after : List Char) : Char :=
  if casedAhead before && !casedAhead after then 'ς' else 'σ'

/-- Lower-cases the characters that follow `before`, which is given backwards. -/
def lowerAfter (before : List Char) : List Char → List Char
  | [] => []
  | c :: rest =>
    (if c = 'Σ' then [lowerSigma before rest] else lowerChar c) ++ lowerAfter (c :: before) rest

def lower (s : String) : String := String.ofList (lowerAfter [] s.toList)

end PageAudit.Text
