import PageAudit.Number.Double

/-!
Decimal numerals as they are written: digits before and after the point and an exponent, and the
doubles that they denote.
-/

namespace PageAudit

abbrev Digit := Fin 10

namespace Digit

def ofChar? (c : Char) : Option Digit :=
  if h : '0'.toNat ≤ c.toNat ∧ c.toNat ≤ '9'.toNat then
    some ⟨c.toNat - '0'.toNat, by
      have h₁ : '0'.toNat = 48 := rfl
      have h₂ : '9'.toNat = 57 := rfl
      omega⟩
  else none

def toChar (d : Digit) : Char := Char.ofNat (d.val + '0'.toNat)

def value (ds : List Digit) : Nat := ds.foldl (fun n d => n * 10 + d.val) 0

/-- The digits of a number, the first one not zero, but for zero itself. -/
def ofNat (n : Nat) : List Digit := (Nat.toDigits 10 n).filterMap ofChar?

end Digit

/-- A numeral: sign, digits before the point, digits after it (none means no point) and, if one is
written, an exponent. -/
structure Numeral where
  negative : Bool
  whole : List Digit
  fraction : List Digit
  exponent : Option Int
  deriving DecidableEq, Inhabited

namespace Numeral

def ofNat (n : Nat) : Numeral := ⟨false, Digit.ofNat n, [], none⟩

/-- An exponent is always written with its sign. -/
def exponentText (e : Int) : List Char :=
  'e' :: (if e < 0 then '-' else '+') :: (Digit.ofNat e.natAbs).map Digit.toChar

def text (n : Numeral) : List Char :=
  (if n.negative then ['-'] else []) ++ n.whole.map Digit.toChar ++
    (if n.fraction.isEmpty then [] else '.' :: n.fraction.map Digit.toChar) ++
    (match n.exponent with | none => [] | some e => exponentText e)

/-! ## Nearest doubles -/

/-- The double nearest to what the numeral denotes. Exponents far beyond the range of doubles are
decided without computing the power. -/
def nearest (n : Numeral) : Double :=
  let m := Digit.value (n.whole ++ n.fraction)
  let e := n.exponent.getD 0 - n.fraction.length
  let size := e + (Digit.ofNat m).length
  .num n.negative <|
    if m = 0 then .zero
    else if 310 < size then .infinity
    else if size < -330 then .zero
    else if 0 ≤ e then .ofRatio (m * 10 ^ e.toNat) 1
    else .ofRatio m (10 ^ (-e).toNat)

/-! ## Doubles by way of a 64-bit significand

Documents are read differently: the digits are first gathered into a 64-bit significand, that is
rounded to a double, and the double is then multiplied or divided by a power of ten, which rounds a
second time. -/

/-- Appends digits to a significand as long as it stays below `2 ^ 64`; the rest is returned. -/
def gather (significand : Nat) : List Digit → Nat × List Digit
  | [] => (significand, [])
  | d :: ds =>
    if significand * 10 + d.val < 2 ^ 64 then gather (significand * 10 + d.val) ds
    else (significand, d :: ds)

/-- Scales by `10 ^ exponent`, in steps that a double can hold; `none` if the result is too large. -/
def scale (m : Magnitude) (exponent : Int) : Option Magnitude :=
  if exponent.natAbs ≤ 308 then
    if 0 ≤ exponent then
      let r := m.mul (.tenPower exponent.natAbs)
      if r.isInfinite then none else some r
    else some (m.div (.tenPower exponent.natAbs))
  else if m.isZero then some m
  else if 0 ≤ exponent then none
  else scale (m.div (.tenPower 308)) (exponent + 308)
termination_by exponent.natAbs

/-- The double that a document's numeral is read as; `none` if it is too large for one. Digits of
the whole part that find no room count as zeros, digits of the fraction that find none are dropped. -/
def read (n : Numeral) : Option Double :=
  let (high, dropped) := gather 0 n.whole
  let (significand, unread) := gather high n.fraction
  let used := n.fraction.length - unread.length
  let exponent := n.exponent.getD 0 + dropped.length - used
  (scale (.ofNat significand) exponent).map (.num n.negative)

end Numeral

end PageAudit
