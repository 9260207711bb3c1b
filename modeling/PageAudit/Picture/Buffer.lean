import PageAudit.Picture.PageView

/-!
Surfaces as they lie in memory: three bytes for each pixel, row by row. They are drawn on byte by byte. All
sums and products are computed in 32 bits, in the order in which the loops come to them, and every access
is checked against the end of the bytes.
-/

namespace PageAudit

/-- Why drawing on bytes stops. -/
inductive Trap where
  /-- A number has more than 32 bits. -/
  | overflow
  /-- A byte beyond the end is read or written. -/
  | beyond

def Color.bytes (color : Color) : List UInt8 := [color.red, color.green, color.blue]

structure Buffer where
  width : Nat
  height : Nat
  bytes : List UInt8

namespace Buffer

/-! ## Single pixels -/

def word (n : Nat) : Except Trap Nat := if n < sizeLimit then .ok n else .error .overflow

/-- Where the bytes of a pixel begin. -/
def place (b : Buffer) (x y : Nat) : Except Trap Nat := do
  let row ← word (y * b.width)
  let pixel ← word (row + x)
  word (pixel * 3)

def store (b : Buffer) (i : Nat) (color : Color) : Except Trap Buffer :=
  if i + 3 ≤ b.bytes.length then
    .ok { b with
      bytes := ((b.bytes.set i color.red).set (i + 1) color.green).set (i + 2) color.blue }
  else .error .beyond

def load (b : Buffer) (i : Nat) : Except Trap Color :=
  match b.bytes[i]?, b.bytes[i + 1]?, b.bytes[i + 2]? with
  | some red, some green, some blue => .ok ⟨red, green, blue⟩
  | _, _, _ => .error .beyond

def set (b : Buffer) (cell : Cell) : Except Trap Buffer :=
  if cell.x < b.width && cell.y < b.height then do b.store (← b.place cell.x cell.y) cell.color
  else .ok b

def pixel (b : Buffer) (x y : Nat) : Except Trap Color :=
  if x < b.width && y < b.height then do b.load (← b.place x y) else .ok .black

/-! ## Areas and letters -/

/-- Gives three bytes after three bytes the color. -/
def fillBytes (color : Color) : List UInt8 → List UInt8
  | _ :: _ :: _ :: rest => color.bytes ++ fillBytes color rest
  | rest => rest

def fill (b : Buffer) (color : Color) : Buffer := { b with bytes := fillBytes color b.bytes }

def create (width height : Nat) (color : Color) : Except Trap Buffer := do
  let area ← word (width * height)
  let size ← word (area * 3)
  .ok (fill ⟨width, height, List.replicate size 0⟩ color)

def drawRect (b : Buffer) (x y width height : Nat) (color : Color) : Except Trap Buffer := do
  let bottom ← word (y + height)
  (Canvas.span y (min bottom b.height)).foldlM (fun b py => do
    let right ← word (x + width)
    (Canvas.span x (min right b.width)).foldlM (fun b px => b.set ⟨px, py, color⟩) b) b

/-- The columns of a row of a glyph, as far as the right edge. -/
def drawColumns (glyph row x y : Nat) (ink paper : Color) : List Nat → Buffer → Except Trap Buffer
  | [], b => .ok b
  | column :: rest, b => do
    let px ← word (x + column)
    if b.width ≤ px then .ok b
    else do
      let b ← b.set ⟨px, y, if Glyph.shows glyph row column then ink else paper⟩
      drawColumns glyph row x y ink paper rest b

/-- The rows of a glyph, as far as the lower edge. -/
def drawRows (glyph x y : Nat) (ink paper : Color) : List Nat → Buffer → Except Trap Buffer
  | [], b => .ok b
  | row :: rest, b => do
    let py ← word (y + row)
    if b.height ≤ py then .ok b
    else do
      let b ← drawColumns glyph row x py ink paper (List.range Glyph.size) b
      drawRows glyph x y ink paper rest b

def drawText (y : Nat) (ink paper : Color) : Nat → List Char → Buffer → Except Trap Buffer
  | _, [], b => .ok b
  | x, c :: rest, b => do
    let b ← drawRows (Glyph.ofChar c) x y ink paper (List.range Glyph.size) b
    let next ← word (x + Glyph.size)
    if b.width ≤ next then .ok b else drawText y ink paper next rest b

/-! ## Pages -/

/-- A count or an index of lines as a number of 32 bits: higher bits are lost. -/
def narrow (n : Nat) : Nat := n % sizeLimit

open PageView in
def lineStart (index : Nat) : Except Trap Nat := do
  let below ← word (narrow index * lineHeight)
  word (headerHeight + margin + below)

open PageView in
def drawLines (index : Nat) : List String → Buffer → Except Trap Buffer
  | [], b => .ok b
  | line :: rest, b => do
    let top ← lineStart index
    let b ← drawText top ink background margin line.toList b
    drawLines (index + 1) rest b

open PageView in
def contentEnd (lines : Nat) : Except Trap Nat := do
  let below ← word (narrow lines * lineHeight)
  word (headerHeight + margin * 2 + below)

def surface (v : Viewport) (extent : Capture.Extent) (content : Nat) : Nat :=
  if extent = .full then max v.height content else v.height

open PageView in
def render (v : Viewport) (extent : Capture.Extent) (route : String) (lines : List String) :
    Except Trap Buffer := do
  let content ← contentEnd lines.length
  let b ← create v.width (surface v extent content) background
  let b ← b.drawRect 0 0 v.width headerHeight headerPaper
  let b ← drawText margin headerInk headerPaper margin route.toList b
  drawLines 0 lines b

end Buffer

/-! ## Calls -/

namespace Canvas

/-- What can be asked of a surface. -/
inductive Call where
  | fill (color : Color)
  | rectangle (x y width height : UInt32) (color : Color)
  | text (x y : UInt32) (letters : String) (ink paper : Color)
  | pixel (x y : UInt32)

/-- The surface after a call, and the colors that have been read. -/
def perform (c : Canvas) : Call → Except OutOfRange (Canvas × List Color)
  | .fill color => .ok (c.fill color, [])
  | .rectangle x y w h color => (c.drawRect x.toNat y.toNat w.toNat h.toNat color).map (·, [])
  | .text x y letters ink paper => (c.drawText x.toNat y.toNat letters ink paper).map (·, [])
  | .pixel x y => .ok (c, [c.pixel x.toNat y.toNat])

def performAll (c : Canvas) : List Call → Except OutOfRange (Canvas × List Color)
  | [] => .ok (c, [])
  | call :: rest => do
    let first ← c.perform call
    let more ← first.1.performAll rest
    .ok (more.1, first.2 ++ more.2)

end Canvas

namespace Buffer

def perform (b : Buffer) : Canvas.Call → Except Trap (Buffer × List Color)
  | .fill color => .ok (b.fill color, [])
  | .rectangle x y w h color => (b.drawRect x.toNat y.toNat w.toNat h.toNat color).map (·, [])
  | .text x y letters ink paper => (drawText y.toNat ink paper x.toNat letters.toList b).map (·, [])
  | .pixel x y => (b.pixel x.toNat y.toNat).map fun color => (b, [color])

def performAll (b : Buffer) : List Canvas.Call → Except Trap (Buffer × List Color)
  | [] => .ok (b, [])
  | call :: rest => do
    let first ← b.perform call
    let more ← first.1.performAll rest
    .ok (more.1, first.2 ++ more.2)

/-- Draws a page and then on it. -/
def draw (v : Viewport) (extent : Capture.Extent) (route : String) (lines : List String)
    (calls : List Canvas.Call) : Except Trap (Buffer × List Color) := do
  let b ← render v extent route lines
  b.performAll calls

end Buffer

end PageAudit
