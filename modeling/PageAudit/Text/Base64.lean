import PageAudit.Core

/-!
Bytes as texts in base sixty-four: three bytes make four characters, and the last group is filled up
with equals signs.
-/

namespace PageAudit.Text.Base64

def alphabet : Array Char :=
  "ABCDEFGHIJKLMNOPQRSTUVWXYZabcdefghijklmnopqrstuvwxyz0123456789+/".toList.toArray

def digit (n : Nat) : Char := alphabet.getD (n % 64) '='

/-- The four characters of one, two or three bytes; the bytes that are missing count as zero. -/
def group (count a b c : Nat) : List Char :=
  let n := (a * 256 + b) * 256 + c
  [digit (n / 64 ^ 3), digit (n / 64 ^ 2), if count < 2 then '=' else digit (n / 64),
    if count < 3 then '=' else digit n]

def byteAt (bytes : ByteArray) (i : Nat) : Nat := (bytes[i]?.getD 0).toNat

def encodeFrom (bytes : ByteArray) (i : Nat) (acc : String) : String :=
  if bytes.size ≤ i then acc
  else
    let cs := group (bytes.size - i) (byteAt bytes i) (byteAt bytes (i + 1)) (byteAt bytes (i + 2))
    encodeFrom bytes (i + 3) (cs.foldl String.push acc)
termination_by bytes.size - i

def encode (bytes : ByteArray) : String := encodeFrom bytes 0 ""

end PageAudit.Text.Base64
