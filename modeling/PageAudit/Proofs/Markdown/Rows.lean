import PageAudit.Report.Markdown
import PageAudit.Proofs.Markdown.Lines

/-!
# Rows and their cells

A row is read from the left: a bar ends a cell, unless there is a backslash before it, which makes it
a character of the cell. What is read from a row of escaped texts are these texts, whatever characters
they have, so that the row has one bar more than it has cells.
-/

namespace PageAudit.Report.Markdown

/-! ## Reading rows -/

/-- What a line spells: characters, and bars that end cells. -/
def spelled : List Char → List (Option Char)
  | '\\' :: '|' :: rest => some '|' :: spelled rest
  | '|' :: rest => none :: spelled rest
  | c :: rest => some c :: spelled rest
  | [] => []

/-- The line with every escaped bar deleted. -/
def withoutEscapes : List Char → List Char
  | '\\' :: '|' :: rest => withoutEscapes rest
  | c :: rest => c :: withoutEscapes rest
  | [] => []

/-- The number of bars that are not escaped. -/
def bars (line : String) : Nat := (withoutEscapes line.toList).count '|'

/-- The cells between the first and the last bar, each without the blanks around it. -/
def cellsOf (line : String) : List String :=
  ((spelled line.toList).splitOn none).tail.dropLast.map fun cell =>
    String.ofList (cell.tail.dropLast.filterMap id)

theorem bars_eq (line : String) : bars line = (spelled line.toList).count none := by
  unfold bars
  induction line.toList using spelled.induct with
  | case1 rest ih => simpa [withoutEscapes, spelled] using ih
  | case2 rest ih => simpa [withoutEscapes, spelled] using ih
  | case3 c rest hescaped hbar ih =>
      rw [withoutEscapes, spelled, List.count_cons_of_ne hbar,
        List.count_cons_of_ne (Option.some_ne_none c), ih]
      · exact hescaped
      · exact hbar
      · exact hescaped
  | case4 => rfl

/-! ## Escaped texts -/

def escapedChar (c : Char) : List Char := if c = '|' then ['\\', '|'] else [c]

theorem toList_cell (s : String) : (cell s).toList = s.toList.flatMap escapedChar :=
  String.toList_ofList

theorem flatMap_escapedChar {cs : List Char} (h : '|' ∉ cs) : cs.flatMap escapedChar = cs := by
  induction cs with
  | nil => rfl
  | cons c cs ih =>
      rw [List.mem_cons, not_or] at h
      rw [List.flatMap_cons, escapedChar, if_neg (Ne.symm h.1), ih h.2, List.singleton_append]

/-- A text without bars needs no escapes. -/
theorem cell_eq_self {s : String} (h : '|' ∉ s.toList) : cell s = s := by
  rw [← String.toList_inj, toList_cell, flatMap_escapedChar h]

theorem mem_cell_iff {c : Char} {s : String} (hslash : c ≠ '\\') :
    c ∈ (cell s).toList ↔ c ∈ s.toList := by
  rw [toList_cell, List.mem_flatMap]
  constructor
  · rintro ⟨d, hd, hc⟩
    unfold escapedChar at hc
    split at hc
    · next hbar =>
        rw [List.mem_cons, List.mem_singleton, hbar.symm] at hc
        exact hc.resolve_left hslash ▸ hd
    · exact List.mem_singleton.mp hc ▸ hd
  · intro hc
    refine ⟨c, hc, ?_⟩
    unfold escapedChar
    split
    · next hbar => exact hbar ▸ List.mem_cons_of_mem _ List.mem_cons_self
    · exact List.mem_cons_self

section Spelling

variable {c : Char} {cs rest : List Char}

theorem spelled_cons (hbar : c ≠ '|') (hrest : rest.head? ≠ some '|') :
    spelled (c :: rest) = some c :: spelled rest := by
  rw [spelled]
  · rintro rest' - rfl
    exact hrest rfl
  · exact hbar

/-- An escaped text begins with no bar, and so a backslash before it escapes none. -/
theorem head?_escaped (hrest : rest.head? ≠ some '|') :
    (cs.flatMap escapedChar ++ rest).head? ≠ some '|' := by
  cases cs with
  | nil => exact hrest
  | cons c cs =>
      rw [List.flatMap_cons, escapedChar]
      split
      · nofun
      · next hbar =>
          rintro ⟨⟩
          exact hbar rfl

theorem spelled_escaped (hrest : rest.head? ≠ some '|') :
    spelled (cs.flatMap escapedChar ++ rest) = cs.map some ++ spelled rest := by
  induction cs with
  | nil => rfl
  | cons c cs ih =>
      rw [List.flatMap_cons, List.append_assoc, List.map_cons, List.cons_append, ← ih]
      by_cases hbar : c = '|'
      · subst c
        rfl
      · rw [escapedChar, if_neg hbar, List.singleton_append, spelled_cons hbar (head?_escaped hrest)]

end Spelling

/-! ## Rows of escaped texts -/

/-- What a cell spells together with the blanks around it. -/
def spelledCell (s : String) : List (Option Char) := some ' ' :: (s.toList.map some ++ [some ' '])

theorem toList_row (s : String) (ss : List String) :
    (row (s :: ss)).toList =
      '|' :: (s :: ss).flatMap fun s => ' ' :: (s.toList ++ [' ', '|']) := by
  have hcells : (" | ".intercalate (s :: ss)).toList ++ [' ', '|'] =
      s.toList ++ [' ', '|'] ++ ss.flatMap fun s => ' ' :: (s.toList ++ [' ', '|']) := by
    induction ss generalizing s with
    | nil => simp
    | cons t ss ih =>
        rw [String.intercalate_cons_cons, String.toList_append, List.append_assoc, ih t]
        simp
  rw [row, String.toList_append, String.toList_append, List.append_assoc]
  change '|' :: ' ' :: ((" | ".intercalate (s :: ss)).toList ++ [' ', '|']) = _
  rw [hcells, List.flatMap_cons, List.cons_append]

theorem spelled_cell (s : String) (rest : List Char) :
    spelled (' ' :: ((cell s).toList ++ ' ' :: '|' :: rest)) =
      spelledCell s ++ none :: spelled rest := by
  have hblank (rest : List Char) : (' ' :: rest).head? ≠ some '|' := by simp
  rw [toList_cell, spelled_cons (by decide) (head?_escaped (hblank _)), spelled_escaped (hblank _)]
  simp [spelledCell, spelled]

theorem spelled_cells (texts : List String) :
    spelled ((texts.map cell).flatMap fun s => ' ' :: (s.toList ++ [' ', '|'])) =
      texts.flatMap fun s => spelledCell s ++ [none] := by
  induction texts with
  | nil => rfl
  | cons s texts ih =>
      simp only [List.map_cons, List.flatMap_cons, List.cons_append, List.append_assoc,
        List.nil_append]
      rw [spelled_cell, ih]

theorem spelled_row {texts : List String} (h : texts ≠ []) :
    spelled (row (texts.map cell)).toList =
      none :: texts.flatMap fun s => spelledCell s ++ [none] := by
  obtain ⟨s, texts, rfl⟩ := List.exists_cons_of_ne_nil h
  rw [List.map_cons, toList_row, ← List.map_cons, spelled, spelled_cells]

/-- A row of escaped texts has one bar more than it has cells. -/
theorem bars_row {texts : List String} (h : texts ≠ []) :
    bars (row (texts.map cell)) = texts.length + 1 := by
  have hcell (s : String) : (spelledCell s ++ [none]).count none = 1 := by
    have hnone : none ∉ spelledCell s := by simp [spelledCell]
    rw [List.count_append, List.count_eq_zero.mpr hnone, List.count_singleton_self]
  rw [bars_eq, spelled_row h, List.count_cons_self, List.count_flatMap]
  simp [Function.comp_def, hcell]

/-- The texts of a row are read back. -/
theorem cellsOf_row {texts : List String} (h : texts ≠ []) :
    cellsOf (row (texts.map cell)) = texts := by
  have hcut (s : String) : (spelledCell s).splitOn none = [spelledCell s] :=
    List.splitOn_eq_singleton (by simp [spelledCell])
  have hread (s : String) :
      String.ofList ((spelledCell s).tail.dropLast.filterMap id) = s := by
    simp [spelledCell]
  have hsplit : (none :: texts.flatMap fun s => spelledCell s ++ [none]).splitOn none =
      [] :: (texts.map spelledCell ++ [[]]) := by
    have hfirst := List.splitOn_append_cons_self (a := none) []
      (texts.flatMap fun s => spelledCell s ++ [none])
    rw [List.nil_append, List.splitOn_nil] at hfirst
    rw [hfirst, splitOn_flatMap]
    simp only [hcut]
    rw [← List.map_eq_flatMap, List.singleton_append]
  rw [cellsOf, spelled_row h, hsplit, List.tail_cons, List.dropLast_concat, List.map_map]
  exact List.map_id'' hread texts

end PageAudit.Report.Markdown
