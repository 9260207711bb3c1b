import PageAudit.Number.Numeral

/-!
The shortest decimal that reads back as a given double, and how it is laid out as a numeral.
-/

namespace PageAudit

structure Decimal where
  digits : Nat
  scale : Int
  deriving DecidableEq, Inhabited

namespace Magnitude

/-- Whether the decimal lies among the reals that round to the magnitude: between the middles of the
gaps on either side, the middles included when the place is even. -/
def holds (m : Magnitude) (d : Decimal) : Bool :=
  let low := unitsAt (m.place - 1) + m.units
  let high := m.units + unitsAt (m.place + 1)
  let num := d.digits * 10 ^ d.scale.toNat * (2 * unit)
  let den := 10 ^ (-d.scale).toNat
  if m.place % 2 = 0 then low * den ≤ num && num ≤ high * den
  else low * den < num && num < high * den

/-- The distance between the decimal and the magnitude, scaled by a factor that depends on nothing
but the decimal's scale. -/
def gap (m : Magnitude) (d : Decimal) : Nat :=
  let num := d.digits * 10 ^ d.scale.toNat * unit
  let exact := m.units * 10 ^ (-d.scale).toNat
  if num ≤ exact then exact - num else num - exact

/-- How many digits stand before the point in the decimal notation of the magnitude; a negative count
is that of the zeros which follow the point. -/
def pointPosition (m : Magnitude) : Int :=
  ((Nat.toDigits 10 (m.units * 10 ^ 400 / unit)).length : Int) - 400

/-- The two multiples of `10 ^ scale` next to the magnitude, from below and from above. -/
def neighbours (m : Magnitude) (scale : Int) : Decimal × Decimal :=
  let below := m.units * 10 ^ (-scale).toNat / (unit * 10 ^ scale.toNat)
  (⟨below, scale⟩, ⟨below + 1, scale⟩)

/-- The decimal with `count` digits that reads back as the magnitude and is nearest to it, if there
is one; the even one if two are equally near. -/
def withDigits? (m : Magnitude) (count : Nat) : Option Decimal :=
  let (below, above) := m.neighbours (m.pointPosition - count)
  match m.holds below, m.holds above with
  | true, false => some below
  | false, true => some above
  | true, true =>
    if m.gap below < m.gap above then some below
    else if m.gap above < m.gap below then some above
    else if below.digits % 2 = 0 then some below else some above
  | false, false => none

/-- The decimal with the fewest digits that reads back as the magnitude; seventeen always do. -/
def shortest (m : Magnitude) : Decimal :=
  ((List.range 17).findSome? fun n => m.withDigits? (n + 1)).getD
    (m.neighbours (m.pointPosition - 17)).1

end Magnitude

def dropFinalZeros (ds : List Digit) : List Digit := (ds.reverse.dropWhile (· == 0)).reverse

namespace Double

/-- The notation without exponent is used for numbers from `10 ^ -5` up to below `10 ^ 16`. -/
def lowestPlain : Int := -5
def highestPlain : Int := 15

def layOut (negative : Bool) (ds : List Digit) (point : Int) : Numeral :=
  let first := point - 1
  if first < lowestPlain || highestPlain < first then
    ⟨negative, ds.take 1, ds.drop 1, some first⟩
  else if point ≤ 0 then
    ⟨negative, [0], List.replicate (-point).toNat 0 ++ ds, none⟩
  else
    let whole := ds.take point.toNat ++ List.replicate (point.toNat - ds.length) 0
    let fraction := ds.drop point.toNat
    ⟨negative, whole, if fraction.isEmpty then [0] else fraction, none⟩

/-- The numeral of a finite double in a document: the fewest digits, with a point or an exponent.
There is none for what is not finite. -/
def numeral? : Double → Option Numeral
  | nan => none
  | num s m =>
    if m.isInfinite then none
    else if m.isZero then some ⟨s, [0], [0], none⟩
    else
      let d := m.shortest
      let ds := Digit.ofNat d.digits
      some (layOut s (dropFinalZeros ds) (ds.length + d.scale))

/-- The text of a double with a fixed number of decimals: the exact value, a half going to the even
neighbour. -/
def fixed (places : Nat) : Double → String
  | nan => "NaN"
  | num s m =>
    let sign := if s then "-" else ""
    if m.isInfinite then sign ++ "inf"
    else
      let ds := (Nat.toDigits 10 (roundQuotient (m.units * 10 ^ places) Magnitude.unit))
      let ds := List.replicate (places + 1 - ds.length) '0' ++ ds
      let (whole, fraction) := ds.splitAt (ds.length - places)
      sign ++ String.ofList (if places = 0 then whole else whole ++ '.' :: fraction)

end Double

end PageAudit
