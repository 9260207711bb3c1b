import PageAudit.Number.Numeral
import PageAudit.Text.Blank
import PageAudit.Text.Case
import PageAudit.Text.Search
import PageAudit.Json.Decode

/-!
Whether a text that was sought is on a page. Recognized text has characters merged, split or dropped,
so a partial match asks only that enough of the sought words occur somewhere in the page's text.
-/

namespace PageAudit

inductive MatchMode where
  | exact
  /-- The text occurs, or enough of its words do. -/
  | partially
  deriving DecidableEq

namespace MatchMode

def name : MatchMode → String
  | exact => "exact"
  | partially => "partial"

def all : List MatchMode := [exact, partially]

def ofJson : Decoder MatchMode := Json.toVariant (all.map fun m => (m.name, m))

def toJson (m : MatchMode) : Json := .string m.name

end MatchMode

namespace Matching

def defaultTolerance : Double := Numeral.nearest ⟨false, [0], [8], none⟩

def foundWords (text : List Char) (words : List (List Char)) : List (List Char) :=
  words.filter (Text.occursIn · text)

/-- The fraction of the words that occur in the text; one if there are no words. -/
def wordRatio (text : List Char) (words : List (List Char)) : Double :=
  if words.isEmpty then .one else .fraction (foundWords text words).length words.length

def ratio (text sought : String) : Double :=
  wordRatio (Text.lower text).toList (Text.words (Text.lower sought).toList)

/-- Whether the sought text is in the text. A partial match needs a fraction of the words that is at
least the tolerance, taken to lie between zero and one; an exact match has no tolerance. -/
def isMatch (text sought : String) (mode : MatchMode) (tolerance : Double) : Bool :=
  match mode with
  | .exact => Text.lower text == Text.lower sought
  | .partially =>
    Text.contains (Text.lower text) (Text.lower sought) ||
      (tolerance.clamp .zero .one).le (ratio text sought)

end Matching

end PageAudit
