import Mathlib.Data.List.Basic

/-!
# Lines and tables

A line of a text that begins with a bar is a row, and the rows that follow one another are a table. A
text brings no row with it if it does not begin with one and no bar comes first after a line break.
-/

namespace PageAudit.Report.Markdown

/-! ## Lines -/

def linesOf (text : String) : List String := (text.toList.splitOn '\n').map String.ofList

def isRow (line : String) : Bool := line.toList.head? == some '|'

section Pieces

variable {α : Type} [BEq α] [LawfulBEq α] {b : α} {xs : List α}

theorem notMem_of_mem_splitOn {piece : List α} (h : piece ∈ xs.splitOn b) : b ∉ piece := by
  induction xs generalizing piece with
  | nil =>
      rw [List.splitOn_nil, List.mem_singleton] at h
      rw [h]
      exact List.not_mem_nil
  | cons x xs ih =>
      rw [List.splitOn_cons_eq_if_modifyHead] at h
      split at h
      · next =>
          rcases List.mem_cons.mp h with rfl | h
          · exact List.not_mem_nil
          · exact ih h
      · next hx =>
          obtain ⟨first, more, hxs⟩ := List.exists_cons_of_ne_nil (List.splitOn_ne_nil b xs)
          rw [hxs] at h ih
          rcases List.mem_cons.mp h with rfl | h
          · exact List.not_mem_cons_of_ne_of_not_mem (fun heq => hx (beq_of_eq heq.symm))
              (ih List.mem_cons_self)
          · exact ih (List.mem_cons_of_mem _ h)

/-- Cutting after every list gives the cuts of the lists, and nothing after the last one. -/
theorem splitOn_flatMap {β : Type} (b : α) (f : β → List α) (ys : List β) :
    (ys.flatMap fun y => f y ++ [b]).splitOn b = ys.flatMap (fun y => (f y).splitOn b) ++ [[]] := by
  induction ys with
  | nil => exact List.splitOn_nil b
  | cons y ys ih =>
      rw [List.flatMap_cons, List.append_assoc, List.singleton_append,
        List.splitOn_append_cons_self, ih, List.flatMap_cons, List.append_assoc]

end Pieces

theorem linesOf_eq_self {s : String} (h : '\n' ∉ s.toList) : linesOf s = [s] := by
  rw [linesOf, List.splitOn_eq_singleton h, List.map_singleton, String.ofList_toList]

theorem notMem_of_mem_linesOf {s line : String} (h : line ∈ linesOf s) : '\n' ∉ line.toList := by
  obtain ⟨piece, hpiece, rfl⟩ := List.mem_map.mp h
  rw [String.toList_ofList]
  exact notMem_of_mem_splitOn hpiece

/-- Lines of which each may be broken have their own lines in turn, and an empty one in the end. -/
theorem linesOf_join (lines : List String) :
    linesOf (String.join (lines.map (· ++ "\n"))) = lines.flatMap linesOf ++ [""] := by
  have hchars : (String.join (lines.map (· ++ "\n"))).toList =
      lines.flatMap fun s => s.toList ++ ['\n'] := by
    rw [String.toList_join, List.flatMap_map]
    exact List.flatMap_congr fun s _ => String.toList_append
  rw [linesOf, hchars, splitOn_flatMap, List.map_append, List.map_flatMap]
  rfl

/-! ## Tables -/

def tablesIn (lines : List String) : List (List String) :=
  (lines.splitOnP (!isRow ·)).filter (!·.isEmpty)

def tablesOf (text : String) : List (List String) := tablesIn (linesOf text)

section Tables

variable {rows lines rest : List String} {line : String}

theorem tablesIn_append (h : isRow line = false) (lines rest : List String) :
    tablesIn (lines ++ line :: rest) = tablesIn lines ++ tablesIn rest := by
  rw [tablesIn, List.splitOnP_append_cons lines rest (by rw [h]; rfl), List.filter_append]
  rfl

theorem tablesIn_other (h : ∀ line ∈ lines, isRow line = false) (rest : List String) :
    tablesIn (lines ++ rest) = tablesIn rest := by
  induction lines with
  | nil => rfl
  | cons line lines ih =>
      rw [List.forall_mem_cons] at h
      have hfirst := tablesIn_append h.1 [] (lines ++ rest)
      rw [List.nil_append] at hfirst
      rw [List.cons_append, hfirst, ih h.2]
      rfl

theorem tablesIn_rows (hne : rows ≠ []) (h : ∀ line ∈ rows, isRow line = true) :
    tablesIn rows = [rows] := by
  have hone : rows.splitOnP (!isRow ·) = [rows] :=
    List.splitOnP_eq_singleton fun line hline => by rw [h line hline]; rfl
  rw [tablesIn, hone, List.filter_cons_of_pos]
  · rfl
  · rw [List.isEmpty_eq_false_iff.mpr hne]
    rfl

/-- The rows of the tables are the rows among the lines. -/
theorem flatten_tablesIn (lines : List String) :
    (tablesIn lines).flatten = lines.filter isRow := by
  rw [tablesIn, List.flatten_filter_not_isEmpty]
  induction lines with
  | nil => rfl
  | cons line lines ih =>
      rw [List.splitOnP_cons_eq_if_modifyHead]
      cases hline : isRow line with
      | false =>
          rw [List.filter_cons_of_neg (by rw [hline]; decide), ← ih]
          rfl
      | true =>
          rw [List.filter_cons_of_pos hline, ← ih]
          obtain ⟨first, more, hlines⟩ :=
            List.exists_cons_of_ne_nil (List.splitOnP_ne_nil (!isRow ·) lines)
          rw [hlines]
          rfl

end Tables

/-! ## Texts that bring rows with them -/

/-- Whether a line after the first one begins with a bar. -/
def OpensRow (s : List Char) : Prop := ['\n', '|'] <:+: s

instance (s : List Char) : Decidable (OpensRow s) :=
  inferInstanceAs (Decidable (['\n', '|'] <:+: s))

section OpensRow

variable {c : Char} {cs before after : List Char}

theorem opensRow_cons_iff : OpensRow (c :: cs) ↔ (c = '\n' ∧ cs.head? = some '|') ∨ OpensRow cs := by
  have hhead : ['|'] <+: cs ↔ cs.head? = some '|' := by
    cases cs with
    | nil => simp
    | cons d cs => simp [List.cons_prefix_cons, eq_comm]
  rw [OpensRow, List.infix_cons_iff, List.cons_prefix_cons, hhead, eq_comm (a := c)]
  rfl

theorem opensRow_append_iff (h : '\n' ∉ before) : OpensRow (before ++ cs) ↔ OpensRow cs := by
  induction before with
  | nil => rfl
  | cons b before ih =>
      rw [List.mem_cons, not_or] at h
      rw [List.cons_append, opensRow_cons_iff, ih h.2]
      exact or_iff_right fun hb => h.1 hb.1.symm

theorem opensRow_append_cons_iff (h : c ≠ '|') :
    OpensRow (before ++ c :: after) ↔ OpensRow before ∨ OpensRow (c :: after) := by
  induction before with
  | nil => exact (or_iff_right (by decide)).symm
  | cons b before ih =>
      have hhead : (before ++ c :: after).head? = some '|' ↔ before.head? = some '|' := by
        cases before with
        | nil => simp [h]
        | cons d before => rfl
      rw [List.cons_append, opensRow_cons_iff, opensRow_cons_iff, hhead, ih, or_assoc]

/-- A text between others keeps them apart if it has no line break and does not begin with a bar. -/
theorem opensRow_around_iff {text : List Char} (hne : text ≠ []) (hbar : text.head? ≠ some '|')
    (hbreak : '\n' ∉ text) :
    OpensRow (before ++ (text ++ after)) ↔ OpensRow before ∨ OpensRow after := by
  obtain ⟨c, text, rfl⟩ := List.exists_cons_of_ne_nil hne
  have hc : c ≠ '|' := fun heq => hbar (congrArg some heq)
  rw [List.cons_append, opensRow_append_cons_iff hc, ← List.cons_append, opensRow_append_iff hbreak]

/-- The pieces after the first one tell whether a row is opened. -/
theorem splitOn_opensRow (cs : List Char) : ∃ first more, cs.splitOn '\n' = first :: more ∧
    (first.head? = some '|' ↔ cs.head? = some '|') ∧
    ((∃ piece ∈ more, piece.head? = some '|') ↔ OpensRow cs) := by
  induction cs with
  | nil => exact ⟨[], [], List.splitOn_nil _, Iff.rfl, by decide⟩
  | cons c cs ih =>
      obtain ⟨first, more, hcs, hfirst, hmore⟩ := ih
      rw [List.splitOn_cons_eq_if_modifyHead, hcs]
      by_cases hc : c = '\n'
      · subst c
        refine ⟨[], first :: more, rfl, by simp, ?_⟩
        rw [List.exists_mem_cons_iff, hfirst, hmore, opensRow_cons_iff]
        simp
      · refine ⟨c :: first, more, by simp [hc], Iff.rfl, ?_⟩
        rw [hmore, opensRow_cons_iff]
        simp [hc]

theorem filter_linesOf_eq_nil_iff {s : String} (h : isRow s = false) :
    (linesOf s).filter isRow = [] ↔ ¬ OpensRow s.toList := by
  obtain ⟨first, more, hs, hfirst, hmore⟩ := splitOn_opensRow s.toList
  have hrow (piece : List Char) : isRow (String.ofList piece) = true ↔ piece.head? = some '|' := by
    rw [isRow, String.toList_ofList, beq_iff_eq]
  have hhead : ¬ first.head? = some '|' := by
    rw [hfirst, ← beq_iff_eq]
    exact Bool.eq_false_iff.mp h
  rw [List.filter_eq_nil_iff, linesOf, hs, ← hmore, List.forall_mem_map]
  simp only [hrow, List.forall_mem_cons, not_exists, not_and]
  exact and_iff_right hhead

theorem filter_linesOf_of_notMem {s : String} (hrow : isRow s = false) (h : '\n' ∉ s.toList) :
    (linesOf s).filter isRow = [] := by
  rw [linesOf_eq_self h, List.filter_cons_of_neg (Bool.eq_false_iff.mp hrow), List.filter_nil]

end OpensRow

end PageAudit.Report.Markdown
