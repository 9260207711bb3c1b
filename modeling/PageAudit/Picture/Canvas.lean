import PageAudit.Settings.Viewport

/-!
Canvases: rectangles of colored pixels. Whatever is painted outside of a canvas is lost. Positions and
sizes are numbers of 32 bits, and so is the number of bytes that a canvas takes; an operation that
needs a larger number is refused.
-/

namespace PageAudit

structure Color where
  red : UInt8
  green : UInt8
  blue : UInt8
  deriving DecidableEq

namespace Color

def black : Color := ⟨0, 0, 0⟩

instance : Inhabited Color := ⟨black⟩

end Color

/-- A number that an operation needs has more than 32 bits. -/
inductive OutOfRange where
  | outOfRange
  deriving DecidableEq

def inRange (n : Nat) : Except OutOfRange Nat :=
  if n < sizeLimit then .ok n else .error .outOfRange

/-- A rectangle of pixels, row by row from the top. -/
structure Canvas where
  width : Nat
  height : Nat
  pixels : Array Color
  width_lt : width < sizeLimit
  height_lt : height < sizeLimit
  bytes_lt : 3 * (width * height) < sizeLimit
  size_eq : pixels.size = width * height

structure Cell where
  x : Nat
  y : Nat
  color : Color
  deriving DecidableEq

namespace Canvas

def create (width height : Nat) (color : Color) : Except OutOfRange Canvas :=
  if h : width < sizeLimit ∧ height < sizeLimit ∧ 3 * (width * height) < sizeLimit then
    .ok ⟨width, height, Array.replicate (width * height) color, h.1, h.2.1, h.2.2, by simp⟩
  else .error .outOfRange

def fill (c : Canvas) (color : Color) : Canvas :=
  { c with pixels := Array.replicate (c.width * c.height) color, size_eq := by simp }

/-- The color of a pixel; outside of the canvas all is black. -/
def pixel (c : Canvas) (x y : Nat) : Color :=
  if x < c.width && y < c.height then c.pixels.getD (y * c.width + x) .black else .black

def set (c : Canvas) (cell : Cell) : Canvas :=
  if cell.x < c.width && cell.y < c.height then
    { c with
      pixels := c.pixels.setIfInBounds (cell.y * c.width + cell.x) cell.color
      size_eq := by simp [c.size_eq] }
  else c

def paint (c : Canvas) (cells : List Cell) : Canvas := cells.foldl set c

def span (low high : Nat) : List Nat := List.range' low (high - low)

def rectangle (left right top bottom : Nat) (color : Color) : List Cell :=
  (span top bottom).flatMap fun y => (span left right).map fun x => ⟨x, y, color⟩

def drawRect (c : Canvas) (x y width height : Nat) (color : Color) : Except OutOfRange Canvas := do
  let bottom ← inRange (y + height)
  if min bottom c.height ≤ y then .ok c
  else
    let right ← inRange (x + width)
    .ok (c.paint (rectangle x (min right c.width) y (min bottom c.height) color))

def row (c : Canvas) (y : Nat) : List Color := (List.range c.width).map fun x => c.pixel x y

end Canvas

end PageAudit
