import PageAudit.Core

/-!
Double-precision numbers with exact arithmetic underneath. A finite magnitude is known by its place
in the increasing order of all magnitudes, so comparing is comparing places, and its value is a whole
number of the smallest units, `2 ^ -1074`. Every operation computes the exact result and rounds once,
to the nearest magnitude, ties going to the even place.
-/

namespace PageAudit

/-- The quotient rounded to the nearest whole number, an exact half to the even neighbour. -/
def roundQuotient (num den : Nat) : Nat :=
  let q := num / den
  let r := num % den
  if den < 2 * r then q + 1
  else if 2 * r = den then q + q % 2
  else q

/-- The place of infinity in the order of magnitudes, which is also its bit pattern. -/
def infinityPlace : Nat := 0x7ff0000000000000

/-- A magnitude, finite or infinite, given by its place in their order. -/
structure Magnitude where
  place : Nat
  le_infinity : place ≤ infinityPlace
  deriving DecidableEq

namespace Magnitude

def ofPlace (n : Nat) : Magnitude := ⟨min n infinityPlace, Nat.min_le_right ..⟩

def zero : Magnitude := ofPlace 0
def infinity : Magnitude := ofPlace infinityPlace

instance : Inhabited Magnitude := ⟨zero⟩

def isInfinite (m : Magnitude) : Bool := m.place == infinityPlace
def isZero (m : Magnitude) : Bool := m.place == 0

/-- The value of the magnitude at place `n`, counted in units of `2 ^ -1074`. Within each stretch of
`2 ^ 52` places the steps are equal, and from one stretch to the next they double. -/
def unitsAt (n : Nat) : Nat :=
  if n < 2 ^ 52 then n else (2 ^ 52 + n % 2 ^ 52) * 2 ^ (n / 2 ^ 52 - 1)

def units (m : Magnitude) : Nat := unitsAt m.place

def unit : Nat := 2 ^ 1074

def ofRatio (num den : Nat) : Magnitude :=
  let scaled := num * unit
  let doublings := Nat.log2 (scaled / den) - 52
  ofPlace (doublings * 2 ^ 52 + roundQuotient scaled (den * 2 ^ doublings))

def ofNat (n : Nat) : Magnitude := ofRatio n 1

def tenPower (n : Nat) : Magnitude := ofNat (10 ^ n)

def mul (a b : Magnitude) : Magnitude := ofRatio (a.units * b.units) (unit * unit)

/-- The quotient of two finite magnitudes, rounded, for a divisor other than zero. -/
def div (a b : Magnitude) : Magnitude := ofRatio a.units b.units

end Magnitude

inductive Double where
  | nan
  | num (negative : Bool) (magnitude : Magnitude)
  deriving DecidableEq, Inhabited

namespace Double

def zero : Double := .num false .zero
def one : Double := .num false (.ofNat 1)
def infinity : Double := .num false .infinity

def ofNat (n : Nat) : Double := .num false (.ofNat n)

def neg : Double → Double
  | nan => nan
  | num s m => num (!s) m

/-- The place on the signed line, where both zeros coincide. -/
def signedPlace (negative : Bool) (m : Magnitude) : Int :=
  if negative then -(m.place : Int) else m.place

/-- The order of the numbers; nothing compares with `nan`. -/
def le : Double → Double → Bool
  | num s m, num t n => signedPlace s m ≤ signedPlace t n
  | _, _ => false

def lt : Double → Double → Bool
  | num s m, num t n => signedPlace s m < signedPlace t n
  | _, _ => false

def mul : Double → Double → Double
  | num s m, num t n =>
    if m.isInfinite || n.isInfinite then
      if m.isZero || n.isZero then nan else num (s != t) .infinity
    else num (s != t) (m.mul n)
  | _, _ => nan

def div : Double → Double → Double
  | num s m, num t n =>
    if m.isInfinite then if n.isInfinite then nan else num (s != t) .infinity
    else if n.isInfinite then num (s != t) .zero
    else if n.isZero then if m.isZero then nan else num (s != t) .infinity
    else num (s != t) (m.div n)
  | _, _ => nan

/-- The number itself if it lies between the bounds, else the bound it has passed; `nan` stays. -/
def clamp (x low high : Double) : Double :=
  if x.lt low then low else if high.lt x then high else x

def bits? : Double → Option Nat
  | nan => none
  | num s m => some ((if s then 2 ^ 63 else 0) + m.place)

def fraction (part whole : Nat) : Double := (ofNat part).div (ofNat whole)

def percent (part whole : Nat) : Double := (fraction part whole).mul (ofNat 100)

end Double

end PageAudit
