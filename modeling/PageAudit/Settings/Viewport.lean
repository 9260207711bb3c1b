import PageAudit.Number.Parse
import PageAudit.Text.Case
import PageAudit.Text.Search

/-!
The size of the visible part of a page: one of four presets, or a width and a height.
-/

namespace PageAudit

def sizeLimit : Nat := 2 ^ 32

structure Viewport where
  width : Nat
  height : Nat
  width_lt : width < sizeLimit
  height_lt : height < sizeLimit
  deriving DecidableEq

namespace Viewport

def desktop : Viewport := ⟨1920, 1080, by decide, by decide⟩
def laptop : Viewport := ⟨1366, 768, by decide, by decide⟩
def tablet : Viewport := ⟨768, 1024, by decide, by decide⟩
def mobile : Viewport := ⟨390, 844, by decide, by decide⟩

instance : Inhabited Viewport := ⟨desktop⟩

def presets : List (String × Viewport) :=
  [("desktop", desktop), ("laptop", laptop), ("tablet", tablet), ("mobile", mobile)]

/-- The viewport of the given size, if both numbers are within the limit. -/
def of? (width height : Nat) : Option Viewport :=
  if h : width < sizeLimit ∧ height < sizeLimit then some ⟨width, height, h.1, h.2⟩ else none

/-- Reads a width and a height with an `x` between them. -/
def ofSize? (cs : List Char) : Option Viewport :=
  match Text.splitOnce ['x'] cs with
  | none => none
  | some (before, after) =>
    match natural? sizeLimit before, natural? sizeLimit after with
    | some width, some height => of? width height
    | _, _ => none

def ofText? (s : String) : Option Viewport :=
  match presets.lookup (Text.lower s) with
  | some v => some v
  | none => ofSize? (Text.lower s).toList

end Viewport

end PageAudit
