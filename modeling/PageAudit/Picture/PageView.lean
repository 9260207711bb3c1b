import PageAudit.Capture.Target
import PageAudit.Picture.Glyph

/-!
Drawn pages: a band with the route at the top and the lines of the page below it.
-/

namespace PageAudit.PageView

def lineHeight : Nat := 12
def margin : Nat := 10
def headerHeight : Nat := 28

def background : Color := ⟨255, 255, 255⟩
def headerPaper : Color := ⟨30, 41, 59⟩
def headerInk : Color := ⟨248, 250, 252⟩
def ink : Color := ⟨15, 23, 42⟩

def contentHeight (lines : Nat) : Nat := headerHeight + margin * 2 + lines * lineHeight

def height (v : Viewport) (extent : Capture.Extent) (lines : Nat) : Nat :=
  match extent with
  | .viewport => v.height
  | .full => max v.height (contentHeight lines)

def lineTop (index : Nat) : Nat := headerHeight + margin + index * lineHeight

def drawLines (index : Nat) : List String → Canvas → Except OutOfRange Canvas
  | [], c => .ok c
  | line :: rest, c => do
    drawLines (index + 1) rest (← c.drawText margin (lineTop index) line ink background)

def render (v : Viewport) (extent : Capture.Extent) (route : String) (lines : List String) :
    Except OutOfRange Canvas := do
  let _ ← inRange (contentHeight lines.length)
  let c ← Canvas.create v.width (height v extent lines.length) background
  let c ← c.drawRect 0 0 v.width headerHeight headerPaper
  let c ← c.drawText margin margin route headerInk headerPaper
  drawLines 0 lines c

end PageAudit.PageView
