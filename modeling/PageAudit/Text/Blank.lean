/-!
Blanks are the characters with the Unicode property `White_Space`. Texts are trimmed at them and cut
into words at them.
-/

namespace PageAudit.Text

/-- The Unicode property `White_Space`. -/
def isBlank (c : Char) : Bool :=
  let n := c.toNat
  (9 ≤ n && n ≤ 13) || n == 0x20 || n == 0x85 || n == 0xa0 || n == 0x1680 ||
    (0x2000 ≤ n && n ≤ 0x200a) || n == 0x2028 || n == 0x2029 || n == 0x202f || n == 0x205f ||
    n == 0x3000

def trimFront (p : Char → Bool) (s : String) : String := String.ofList (s.toList.dropWhile p)

def trimBack (p : Char → Bool) (s : String) : String :=
  String.ofList (s.toList.reverse.dropWhile p).reverse

def trim (s : String) : String := trimBack isBlank (trimFront isBlank s)

/-- Cuts at every character that satisfies `p`; there is one piece more than there are cuts. -/
def piecesAt (p : Char → Bool) : List Char → List (List Char)
  | [] => [[]]
  | c :: rest =>
    if p c then [] :: piecesAt p rest
    else match piecesAt p rest with
      | [] => [[c]]
      | piece :: more => (c :: piece) :: more

def words (cs : List Char) : List (List Char) := (piecesAt isBlank cs).filter (!·.isEmpty)

def isBlankText (s : String) : Bool := s.toList.all isBlank

end PageAudit.Text
