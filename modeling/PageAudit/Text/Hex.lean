/-!
Numbers and bytes in base sixteen. Letters are written in lower case and read in either.
-/

namespace PageAudit.Hex

def digits (n : Nat) : List Char := Nat.toDigits 16 n

def padded (width n : Nat) : String :=
  String.ofList (List.replicate (width - (digits n).length) '0' ++ digits n)

def value? (c : Char) : Option Nat :=
  if '0' ≤ c && c ≤ '9' then some (c.toNat - '0'.toNat)
  else if 'a' ≤ c && c ≤ 'f' then some (c.toNat - 'a'.toNat + 10)
  else if 'A' ≤ c && c ≤ 'F' then some (c.toNat - 'A'.toNat + 10)
  else none

/-- The bytes that pairs of digits stand for; other text and an odd last digit are no bytes. -/
def bytes? : List Char → Option (List UInt8)
  | [] => some []
  | [_] => none
  | a :: b :: rest => do
    let high ← value? a
    let low ← value? b
    some ((high * 16 + low).toUInt8 :: (← bytes? rest))

end PageAudit.Hex
