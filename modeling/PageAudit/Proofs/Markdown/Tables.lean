import Mathlib.Algebra.BigOperators.Group.List.Basic
import PageAudit.Proofs.Markdown.Rows
import PageAudit.Proofs.Text.Characters

/-!
# The tables of a report

A report has a table of its totals, one of its modules if it has any, and one of its pages if it has
any, with a row for every entry in turn. No bar in an entry disturbs them. A line break in an entry
cuts its row, though, and a line break before a bar in a text outside of the tables opens a row that
belongs to none of them. Where there are no such line breaks, and only there, the tables of the text
are those of the report.
-/

namespace PageAudit.Report.Markdown

/-! ## Tables -/

def tableRows (headers : List String) (rule : String) (rows : List (List String)) : List String :=
  row headers :: rule :: rows.map row

def summaryTable (r : Report) : List String :=
  tableRows ["Metric", "Value"] "|--------|------:|" (summaryRows r.totals)

def moduleTable (r : Report) : List String :=
  tableRows ["Module", "Total", "Passed", "Failed"] "|--------|------:|-------:|-------:|"
    (r.byModule.map moduleRow)

def pageTable (r : Report) : List String :=
  tableRows ["Status", "Page", "Route", "Duration"] "|:------:|------|-------|---------:|"
    (r.results.map pageRow)

/-- The rows of a table with the lines before it. -/
structure Block where
  before : List String
  rows : List String

def Block.lines (b : Block) : List String := b.before ++ b.rows ++ [""]

def blocks (r : Report) : List Block :=
  ⟨headLines r ++ ["## Summary", ""], summaryTable r⟩ ::
    ((if r.byModule.isEmpty then [] else [⟨["## Modules", ""], moduleTable r⟩]) ++
      if r.results.isEmpty then [] else [⟨["## Pages", ""], pageTable r⟩])

def tables (r : Report) : List (List String) :=
  summaryTable r :: ((if r.byModule.isEmpty then [] else [moduleTable r]) ++
    if r.results.isEmpty then [] else [pageTable r])

theorem lines_eq (r : Report) : lines r = (blocks r).flatMap Block.lines ++ failuresLines r := by
  have hsummary : Block.lines ⟨headLines r ++ ["## Summary", ""], summaryTable r⟩ =
      headLines r ++ summaryLines r := by
    rw [Block.lines, List.append_assoc, List.append_assoc]
    rfl
  have hmodules : (if r.byModule.isEmpty then [] else [Block.mk ["## Modules", ""] (moduleTable r)]
      ).flatMap Block.lines = moduleLines r := by
    unfold moduleLines
    split
    · rfl
    · exact List.append_nil _
  have hpages : (if r.results.isEmpty then [] else [Block.mk ["## Pages", ""] (pageTable r)]
      ).flatMap Block.lines = pageLines r := by
    unfold pageLines
    split
    · rfl
    · exact List.append_nil _
  rw [lines, blocks, List.flatMap_cons, List.flatMap_append, hsummary, hmodules, hpages]
  simp only [List.append_assoc]

theorem rows_blocks (r : Report) : (blocks r).map Block.rows = tables r := by
  unfold blocks tables
  split <;> split <;> rfl

/-! ## Rows -/

theorem foreign_bar : Text.Foreign '|' := by decide

theorem foreign_break : Text.Foreign '\n' := by decide

/-- What the row of a module says. -/
def moduleTexts (entry : String × ModuleTotals) : List String :=
  [entry.1, toString entry.2.total, toString entry.2.passed, toString entry.2.failed]

/-- What the row of a page says. -/
def pageTexts (p : PageResult) : List String :=
  [mark p.passed, p.pageName, code p.route, toString p.durationMs ++ " ms"]

theorem code_cell (s : String) : code (cell s) = cell (code s) := by
  rw [← String.toList_inj, toList_cell]
  simp [code, toList_cell, escapedChar]

theorem cell_toString (n : Nat) : cell (toString n) = toString n :=
  cell_eq_self (foreign_bar.notMem_toString n)

theorem summaryRow_eq (t : Totals) :
    ∀ cells ∈ summaryRows t, cells = cells.map cell ∧ cells.length = 2 := by
  have hrate : cell (t.passRate.fixed 1 ++ "%") = t.passRate.fixed 1 ++ "%" := by
    refine cell_eq_self ?_
    rw [String.toList_append]
    exact List.not_mem_append (foreign_bar.notMem_fixed _ _) (by decide)
  simp only [summaryRows, List.forall_mem_cons, List.map_cons, List.map_nil, cell_toString, hrate]
  rw [cell_eq_self (by decide), cell_eq_self (by decide), cell_eq_self (by decide),
    cell_eq_self (by decide)]
  exact ⟨⟨rfl, rfl⟩, ⟨rfl, rfl⟩, ⟨rfl, rfl⟩, ⟨rfl, rfl⟩, List.forall_mem_nil _⟩

theorem moduleRow_eq (entry : String × ModuleTotals) :
    moduleRow entry = (moduleTexts entry).map cell := by
  simp only [moduleRow, moduleTexts, List.map_cons, List.map_nil, cell_toString]

theorem pageRow_eq (p : PageResult) : pageRow p = (pageTexts p).map cell := by
  have hmark : cell (mark p.passed) = mark p.passed := by
    cases p.passed <;> exact cell_eq_self (by decide)
  have htime : cell (toString p.durationMs ++ " ms") = toString p.durationMs ++ " ms" := by
    refine cell_eq_self ?_
    rw [String.toList_append]
    exact List.not_mem_append (foreign_bar.notMem_toString _) (by decide)
  simp only [pageRow, pageTexts, List.map_cons, List.map_nil, code_cell, hmark, htime]

section Reading

variable {α : Type} {headers : List String} {rule : String} {f texts : α → List String} {n : Nat}
  {xs : List α}

theorem bars_tableRows (hheaders : bars (row headers) = n + 1) (hrule : bars rule = n + 1)
    (hn : n ≠ 0) (h : ∀ x ∈ xs, f x = (texts x).map cell ∧ (texts x).length = n) :
    ∀ line ∈ tableRows headers rule (xs.map f), bars line = n + 1 := by
  rw [tableRows, List.forall_mem_cons, List.forall_mem_cons, List.map_map, List.forall_mem_map]
  refine ⟨hheaders, hrule, fun x hx => ?_⟩
  obtain ⟨hf, hlength⟩ := h x hx
  have hne : texts x ≠ [] := List.ne_nil_of_length_pos (by omega)
  rw [Function.comp_apply, hf, bars_row hne, hlength]

theorem cells_tableRows (hn : n ≠ 0)
    (h : ∀ x ∈ xs, f x = (texts x).map cell ∧ (texts x).length = n) :
    ((tableRows headers rule (xs.map f)).drop 2).map cellsOf = xs.map texts := by
  rw [tableRows, List.drop_succ_cons, List.drop_succ_cons, List.drop_zero, List.map_map, List.map_map]
  refine List.map_congr_left fun x hx => ?_
  obtain ⟨hf, hlength⟩ := h x hx
  have hne : texts x ≠ [] := List.ne_nil_of_length_pos (by omega)
  rw [Function.comp_apply, Function.comp_apply, hf, cellsOf_row hne]

end Reading

/-! ## Line breaks in rows -/

theorem break_mem_row_iff {cells : List String} (h : cells ≠ []) :
    '\n' ∈ (row cells).toList ↔ ∃ s ∈ cells, '\n' ∈ s.toList := by
  obtain ⟨s, cells, rfl⟩ := List.exists_cons_of_ne_nil h
  rw [toList_row]
  simp

theorem break_mem_moduleRow_iff (entry : String × ModuleTotals) :
    '\n' ∈ (row (moduleRow entry)).toList ↔ '\n' ∈ entry.1.toList := by
  rw [moduleRow, break_mem_row_iff (List.cons_ne_nil _ _)]
  simp [mem_cell_iff, foreign_break.notMem_digits]

theorem break_mem_pageRow_iff (p : PageResult) :
    '\n' ∈ (row (pageRow p)).toList ↔ '\n' ∈ p.pageName.toList ∨ '\n' ∈ p.route.toList := by
  have hmark : '\n' ∉ (mark p.passed).toList := by cases p.passed <;> decide
  rw [pageRow, break_mem_row_iff (List.cons_ne_nil _ _)]
  simp [code, mem_cell_iff, hmark, foreign_break.notMem_digits]

theorem break_notMem_summaryRow (t : Totals) :
    ∀ cells ∈ summaryRows t, '\n' ∉ (row cells).toList := by
  simp only [summaryRows, List.forall_mem_cons, break_mem_row_iff (List.cons_ne_nil _ _)]
  simp [foreign_break.notMem_digits, foreign_break.notMem_fixed]

theorem break_notMem_tableRows_iff {headers : List String} {rule : String}
    {rows : List (List String)} (hheaders : '\n' ∉ (row headers).toList)
    (hrule : '\n' ∉ rule.toList) :
    (∀ line ∈ tableRows headers rule rows, '\n' ∉ line.toList) ↔
      ∀ cells ∈ rows, '\n' ∉ (row cells).toList := by
  rw [tableRows, List.forall_mem_cons, List.forall_mem_cons, List.forall_mem_map]
  exact ⟨fun h => h.2.2, fun h => ⟨hheaders, hrule, h⟩⟩

/-! ## Rows outside of the tables -/

/-- The rows that lines have when they are cut at the line breaks in them. -/
def rowsOf (lines : List String) : List String := (lines.flatMap linesOf).filter isRow

theorem rowsOf_append (xs ys : List String) : rowsOf (xs ++ ys) = rowsOf xs ++ rowsOf ys := by
  rw [rowsOf, List.flatMap_append, List.filter_append]
  rfl

theorem rowsOf_eq_nil_iff {xs : List String} :
    rowsOf xs = [] ↔ ∀ line ∈ xs, (linesOf line).filter isRow = [] := by
  rw [rowsOf, List.filter_flatMap, List.flatMap_eq_nil_iff]

theorem isRow_eq_false_of_mem {xs : List String} (h : rowsOf xs = []) :
    ∀ line ∈ xs.flatMap linesOf, isRow line = false :=
  fun line hline => Bool.eq_false_iff.mpr (List.filter_eq_nil_iff.mp h line hline)

theorem flatMap_linesOf {rows : List String} (h : ∀ line ∈ rows, '\n' ∉ line.toList) :
    rows.flatMap linesOf = rows := by
  rw [List.flatMap_congr fun line hline => linesOf_eq_self (h line hline)]
  exact List.flatMap_singleton' rows

theorem isRow_of_mem_blocks {r : Report} {b : Block} (hb : b ∈ blocks r) :
    b.rows ≠ [] ∧ ∀ line ∈ b.rows, isRow line = true := by
  have hrow (cells : List String) : isRow (row cells) = true := by simp [isRow, row]
  have htable (headers : List String) (rule : String) (rows : List (List String))
      (hrule : isRow rule = true) : tableRows headers rule rows ≠ [] ∧
        ∀ line ∈ tableRows headers rule rows, isRow line = true := by
    refine ⟨List.cons_ne_nil _ _, ?_⟩
    simp only [tableRows, List.forall_mem_cons, List.forall_mem_map]
    exact ⟨hrow _, hrule, fun cells _ => hrow cells⟩
  simp only [blocks, List.mem_cons, List.mem_append] at hb
  rcases hb with rfl | hb | hb
  · exact htable _ _ _ (by decide)
  · split at hb
    · cases hb
    · rw [List.mem_singleton.mp hb]
      exact htable _ _ _ (by decide)
  · split at hb
    · cases hb
    · rw [List.mem_singleton.mp hb]
      exact htable _ _ _ (by decide)

theorem tablesIn_blocks {bs : List Block} (rest : List String)
    (h : ∀ b ∈ bs, rowsOf b.before = [] ∧ b.rows ≠ [] ∧ (∀ line ∈ b.rows, isRow line = true) ∧
      ∀ line ∈ b.rows, '\n' ∉ line.toList) :
    tablesIn ((bs.flatMap Block.lines).flatMap linesOf ++ rest) =
      bs.map Block.rows ++ tablesIn rest := by
  induction bs with
  | nil => rfl
  | cons b bs ih =>
      rw [List.forall_mem_cons] at h
      obtain ⟨⟨hbefore, hne, hrows, hbreaks⟩, hrest⟩ := h
      have hblank : [""].flatMap linesOf = [""] := by decide
      rw [List.flatMap_cons, Block.lines, List.flatMap_append, List.flatMap_append,
        List.flatMap_append, flatMap_linesOf hbreaks, hblank, List.append_assoc, List.append_assoc,
        List.append_assoc, tablesIn_other (isRow_eq_false_of_mem hbefore), List.singleton_append,
        tablesIn_append (by decide), tablesIn_rows hne hrows, ih hrest]
      rfl

/-- What makes lists no longer is empty. -/
theorem eq_nil_of_flatMap_append {α β : Type} {f g : α → List β} {xs : List α} {ys : List β}
    (h : xs.flatMap (fun x => f x ++ g x) ++ ys = xs.flatMap g) :
    (∀ x ∈ xs, f x = []) ∧ ys = [] := by
  have hlength := congrArg List.length h
  simp only [List.length_append, List.length_flatMap, List.sum_map_add] at hlength
  have hzero : (xs.map fun x => (f x).length).sum = 0 ∧ ys.length = 0 := by omega
  rw [List.sum_eq_zero_iff_forall_eq_nat, List.forall_mem_map] at hzero
  exact ⟨fun x hx => List.eq_nil_of_length_eq_zero (hzero.1 x hx),
    List.eq_nil_of_length_eq_zero hzero.2⟩

theorem linesOf_render (r : Report) :
    linesOf (render r) = ((blocks r).flatMap Block.lines).flatMap linesOf ++
      ((failuresLines r).flatMap linesOf ++ [""]) := by
  rw [render, linesOf_join, lines_eq, List.flatMap_append, List.append_assoc]

/-- Where no row of a table is broken, all other rows of the text come from the other lines. -/
theorem filter_linesOf_render {r : Report}
    (h : ∀ b ∈ blocks r, ∀ line ∈ b.rows, '\n' ∉ line.toList) :
    (linesOf (render r)).filter isRow =
      (blocks r).flatMap (fun b => rowsOf b.before ++ b.rows) ++ rowsOf (failuresLines r) := by
  have hblock : ∀ b ∈ blocks r, rowsOf b.lines = rowsOf b.before ++ b.rows := by
    intro b hb
    have hown : rowsOf b.rows = b.rows := by
      rw [rowsOf, flatMap_linesOf (h b hb)]
      exact List.filter_eq_self.mpr (isRow_of_mem_blocks hb).2
    have hblank : rowsOf [""] = [] := by decide
    rw [Block.lines, rowsOf_append, rowsOf_append, hown, hblank, List.append_nil]
  have hlast : [""].filter isRow = [] := by decide
  rw [linesOf_render, List.filter_append, List.filter_append, hlast, List.append_nil,
    ← List.flatMap_congr hblock]
  simp only [rowsOf, List.flatMap_assoc, List.filter_flatMap]

/-- The tables of the text are those of the report exactly if no row is broken and there are no rows
outside of the tables. -/
theorem tablesOf_render_iff (r : Report) :
    tablesOf (render r) = tables r ↔
      (∀ b ∈ blocks r, rowsOf b.before = [] ∧ ∀ line ∈ b.rows, '\n' ∉ line.toList) ∧
        rowsOf (failuresLines r) = [] := by
  constructor
  · intro h
    have hrows : (linesOf (render r)).filter isRow = (blocks r).flatMap Block.rows := by
      rw [← flatten_tablesIn, ← tablesOf, h, ← rows_blocks, List.flatMap_def]
    -- a broken row is no line of the text, and so it is in none of its tables
    have hbreaks : ∀ b ∈ blocks r, ∀ line ∈ b.rows, '\n' ∉ line.toList := by
      intro b hb line hline
      have hmem : line ∈ (linesOf (render r)).filter isRow :=
        hrows ▸ List.mem_flatMap.mpr ⟨b, hb, hline⟩
      exact notMem_of_mem_linesOf (List.mem_of_mem_filter hmem)
    obtain ⟨hbefore, hfailures⟩ :=
      eq_nil_of_flatMap_append ((filter_linesOf_render hbreaks).symm.trans hrows)
    exact ⟨fun b hb => ⟨hbefore b hb, hbreaks b hb⟩, hfailures⟩
  · rintro ⟨hblocks, hfailures⟩
    have hends : tablesIn ((failuresLines r).flatMap linesOf ++ [""]) = [] := by
      rw [tablesIn_other (isRow_eq_false_of_mem hfailures)]
      decide
    rw [tablesOf, linesOf_render, tablesIn_blocks, hends, rows_blocks, List.append_nil]
    intro b hb
    obtain ⟨hne, hrows⟩ := isRow_of_mem_blocks hb
    exact ⟨(hblocks b hb).1, hne, hrows, (hblocks b hb).2⟩

/-! ## Reports that break no line -/

/-- No line break is in an entry of a table, and none comes before a bar in the other texts. -/
structure Unbroken (r : Report) : Prop where
  modules : ∀ entry ∈ r.byModule, '\n' ∉ entry.1.toList
  pages : ∀ p ∈ r.results, '\n' ∉ p.pageName.toList ∧ '\n' ∉ p.route.toList
  environment : ¬ OpensRow r.environment.host.toList ∧ ¬ OpensRow r.environment.version.toList ∧
    ¬ OpensRow r.environment.target.toList
  failures : ∀ p ∈ r.failedPages, (∀ e ∈ p.error, ¬ OpensRow e.toList) ∧
    ∀ c ∈ p.failedChecks, ¬ OpensRow c.message.toList

def hostLine (e : Environment) : String :=
  "- **Host**: " ++ e.host ++ " (page-vision " ++ e.version ++ ", target " ++ e.target ++ ")"

theorem toList_hostLine (e : Environment) :
    (hostLine e).toList = "- **Host**: ".toList ++ (e.host.toList ++ (" (page-vision ".toList ++
      (e.version.toList ++ (", target ".toList ++ (e.target.toList ++ (")".toList ++ [])))))) := by
  delta hostLine
  simp only [String.toList_append, List.append_assoc, List.append_nil]

theorem filter_hostLine_eq_nil_iff (e : Environment) :
    (linesOf (hostLine e)).filter isRow = [] ↔
      ¬ OpensRow e.host.toList ∧ ¬ OpensRow e.version.toList ∧ ¬ OpensRow e.target.toList := by
  have hrow : isRow (hostLine e) = false := by
    rw [isRow, toList_hostLine]
    rfl
  have hstart : '\n' ∉ "- **Host**: ".toList := by decide
  have hend : ¬ OpensRow [] := by decide
  rw [filter_linesOf_eq_nil_iff hrow, toList_hostLine, opensRow_append_iff hstart,
    opensRow_around_iff (by decide) (by decide) (by decide),
    opensRow_around_iff (by decide) (by decide) (by decide),
    opensRow_around_iff (by decide) (by decide) (by decide), or_iff_left hend, not_or, not_or]

theorem rowsOf_headLines_eq_nil_iff (r : Report) :
    rowsOf (headLines r ++ ["## Summary", ""]) = [] ↔
      ¬ OpensRow r.environment.host.toList ∧ ¬ OpensRow r.environment.version.toList ∧
        ¬ OpensRow r.environment.target.toList := by
  have hstarted : '\n' ∉ ("- **Started**: " ++ r.startTime.displayText).toList := by
    rw [String.toList_append]
    exact List.not_mem_append (by decide) (foreign_break.notMem_displayText _)
  have hduration : '\n' ∉ ("- **Duration**: " ++ toString r.totalDurationMs ++ " ms").toList := by
    rw [String.toList_append, String.toList_append]
    exact List.not_mem_append
      (List.not_mem_append (by decide) (foreign_break.notMem_toString _)) (by decide)
  rw [rowsOf_eq_nil_iff, ← filter_hostLine_eq_nil_iff]
  constructor
  · intro h
    have hmem : hostLine r.environment ∈ headLines r :=
      .tail _ (.tail _ (.tail _ (.tail _ (.head _))))
    exact h _ (List.mem_append_left _ hmem)
  · intro h
    simp only [headLines, List.cons_append, List.nil_append, List.forall_mem_cons]
    exact ⟨by decide, by decide, filter_linesOf_of_notMem (by simp [isRow]) hstarted,
      filter_linesOf_of_notMem (by simp [isRow]) hduration, h, by decide, by decide, by decide,
      List.forall_mem_nil _⟩

theorem rowsOf_failureLines_eq_nil_iff {p : PageResult} (hname : '\n' ∉ p.pageName.toList)
    (hroute : '\n' ∉ p.route.toList) :
    rowsOf (failureLines p) = [] ↔ (∀ e ∈ p.error, ¬ OpensRow e.toList) ∧
      ∀ c ∈ p.failedChecks, ¬ OpensRow c.message.toList := by
  have hheading : rowsOf ["", "### " ++ cell p.pageName ++ " (" ++ code (cell p.route) ++ ")", ""] =
      [] := by
    rw [rowsOf_eq_nil_iff]
    simp only [List.forall_mem_cons]
    refine ⟨by decide, filter_linesOf_of_notMem (by simp [isRow]) ?_, by decide,
      List.forall_mem_nil _⟩
    simp [code, mem_cell_iff, hname, hroute]
  have herror (e : String) :
      (linesOf ("- ❌ " ++ e)).filter isRow = [] ↔ ¬ OpensRow e.toList := by
    rw [filter_linesOf_eq_nil_iff (by simp [isRow]), String.toList_append,
      opensRow_append_iff (by decide)]
  have hcheck (c : Check.Outcome) :
      (linesOf ("- ❌ **" ++ c.kind.label ++ "**: " ++ c.message)).filter isRow = [] ↔
        ¬ OpensRow c.message.toList := by
    have hlabel : '\n' ∉ ("- ❌ **" ++ c.kind.label ++ "**: ").toList := by cases c.kind <;> decide
    rw [filter_linesOf_eq_nil_iff (by simp [isRow]), String.toList_append,
      opensRow_append_iff hlabel]
  rw [failureLines, rowsOf_append, rowsOf_append, hheading, List.nil_append,
    List.append_eq_nil_iff, rowsOf_eq_nil_iff, rowsOf_eq_nil_iff, List.forall_mem_map]
  simp only [hcheck]
  refine and_congr_left' ?_
  cases p.error with
  | none => simp
  | some e => simpa using herror e

theorem rowsOf_failuresLines_eq_nil_iff {r : Report}
    (h : ∀ p ∈ r.results, '\n' ∉ p.pageName.toList ∧ '\n' ∉ p.route.toList) :
    rowsOf (failuresLines r) = [] ↔ ∀ p ∈ r.failedPages, (∀ e ∈ p.error, ¬ OpensRow e.toList) ∧
      ∀ c ∈ p.failedChecks, ¬ OpensRow c.message.toList := by
  have hpages : rowsOf (failuresLines r) = [] ↔
      ∀ p ∈ r.failedPages, rowsOf (failureLines p) = [] := by
    unfold failuresLines
    split
    · next hempty =>
        rw [List.isEmpty_iff.mp hempty]
        exact iff_of_true rfl (List.forall_mem_nil _)
    · have hheading : (linesOf "## Failures").filter isRow = [] := by decide
      simp only [rowsOf_eq_nil_iff, List.forall_mem_cons, List.forall_mem_flatMap, hheading, true_and]
  rw [hpages]
  refine forall₂_congr fun p hp => ?_
  obtain ⟨hname, hroute⟩ := h p (List.mem_of_mem_filter hp)
  exact rowsOf_failureLines_eq_nil_iff hname hroute

/-- A table that is left out if it has no rows is unbroken if its rows are. -/
theorem forall_mem_block_iff {α : Type} {before headers : List String} {rule : String}
    {f : α → List String} (xs : List α) (hbefore : rowsOf before = [])
    (hheaders : '\n' ∉ (row headers).toList) (hrule : '\n' ∉ rule.toList) :
    (∀ b ∈ if xs.isEmpty then [] else [Block.mk before (tableRows headers rule (xs.map f))],
      rowsOf b.before = [] ∧ ∀ line ∈ b.rows, '\n' ∉ line.toList) ↔
      ∀ x ∈ xs, '\n' ∉ (row (f x)).toList := by
  split
  · next hempty =>
      rw [List.isEmpty_iff.mp hempty]
      exact iff_of_true (List.forall_mem_nil _) (List.forall_mem_nil _)
  · rw [List.forall_mem_singleton, break_notMem_tableRows_iff hheaders hrule, List.forall_mem_map]
    exact and_iff_right hbefore

theorem unbroken_iff (r : Report) :
    Unbroken r ↔
      (∀ b ∈ blocks r, rowsOf b.before = [] ∧ ∀ line ∈ b.rows, '\n' ∉ line.toList) ∧
        rowsOf (failuresLines r) = [] := by
  have hsummary : ∀ line ∈ summaryTable r, '\n' ∉ line.toList :=
    (break_notMem_tableRows_iff (by decide) (by decide)).mpr (break_notMem_summaryRow r.totals)
  have hblocks : (∀ b ∈ blocks r, rowsOf b.before = [] ∧ ∀ line ∈ b.rows, '\n' ∉ line.toList) ↔
      (¬ OpensRow r.environment.host.toList ∧ ¬ OpensRow r.environment.version.toList ∧
        ¬ OpensRow r.environment.target.toList) ∧
      (∀ entry ∈ r.byModule, '\n' ∉ entry.1.toList) ∧
      ∀ p ∈ r.results, '\n' ∉ p.pageName.toList ∧ '\n' ∉ p.route.toList := by
    rw [blocks, List.forall_mem_cons, List.forall_mem_append, rowsOf_headLines_eq_nil_iff,
      and_iff_left hsummary]
    refine and_congr_right' (and_congr ?_ ?_)
    · rw [moduleTable, forall_mem_block_iff _ (by decide) (by decide) (by decide)]
      simp only [break_mem_moduleRow_iff]
    · rw [pageTable, forall_mem_block_iff _ (by decide) (by decide) (by decide)]
      simp only [break_mem_pageRow_iff, not_or]
  rw [hblocks]
  constructor
  · intro h
    exact ⟨⟨h.environment, h.modules, h.pages⟩,
      (rowsOf_failuresLines_eq_nil_iff h.pages).mpr h.failures⟩
  · rintro ⟨⟨henvironment, hmodules, hpages⟩, hfailures⟩
    exact ⟨hmodules, hpages, henvironment, (rowsOf_failuresLines_eq_nil_iff hpages).mp hfailures⟩

/-! ## The tables of the text -/

/-- The tables of the text are those of the report exactly if the report is unbroken. Whatever the
texts of a report are, every row of its tables has as many bars as the header, and the texts are read
back from the rows. -/
theorem tables_of_text (r : Report) :
    (∀ line ∈ linesOf (render r), isRow line = true → ∃ rows ∈ tablesOf (render r), line ∈ rows) ∧
      (tablesOf (render r) = tables r ↔ Unbroken r) ∧
      (∀ line ∈ summaryTable r, bars line = 3) ∧
      (∀ line ∈ moduleTable r ++ pageTable r, bars line = 5) ∧
      ((summaryTable r).drop 2).map cellsOf = summaryRows r.totals ∧
      ((moduleTable r).drop 2).map cellsOf = r.byModule.map moduleTexts ∧
      ((pageTable r).drop 2).map cellsOf = r.results.map pageTexts := by
  have hsummary : ∀ cells ∈ summaryRows r.totals, id cells = (id cells).map cell ∧
      (id cells).length = 2 := summaryRow_eq r.totals
  have hmodules : ∀ entry ∈ r.byModule, moduleRow entry = (moduleTexts entry).map cell ∧
      (moduleTexts entry).length = 4 := fun entry _ => ⟨moduleRow_eq entry, rfl⟩
  have hpages : ∀ p ∈ r.results, pageRow p = (pageTexts p).map cell ∧ (pageTexts p).length = 4 :=
    fun p _ => ⟨pageRow_eq p, rfl⟩
  have hid : summaryTable r =
      tableRows ["Metric", "Value"] "|--------|------:|" ((summaryRows r.totals).map id) := by
    rw [List.map_id, summaryTable]
  refine ⟨fun line hline hrow => ?_, (tablesOf_render_iff r).trans (unbroken_iff r).symm, ?_, ?_, ?_,
    cells_tableRows (by decide) hmodules, cells_tableRows (by decide) hpages⟩
  · rw [← List.mem_flatten, tablesOf, flatten_tablesIn]
    exact List.mem_filter.mpr ⟨hline, hrow⟩
  · rw [hid]
    exact bars_tableRows (by decide) (by decide) (by decide) hsummary
  · exact List.forall_mem_append.mpr
      ⟨bars_tableRows (by decide) (by decide) (by decide) hmodules,
        bars_tableRows (by decide) (by decide) (by decide) hpages⟩
  · rw [hid, cells_tableRows (by decide) hsummary, List.map_id]

/-- A page whose name is on two lines cuts its row in two, and the first half lacks bars. -/
theorem row_cut_by_name :
    let page : PageResult := ⟨"a\nb", "/x", true, [], none, none, 1, .epoch⟩
    let r := Report.build [page] .epoch .epoch ⟨"ci", "0.1.0", "mock", true, false, true⟩
    ¬ ∀ line ∈ linesOf (render r), isRow line = true → bars line = 3 ∨ bars line = 5 := by
  intro page r h
  have hrow : row (pageRow page) ∈ lines r := by
    have hpages : row (pageRow page) ∈ pageLines r := by
      rw [pageLines, if_neg (by decide)]
      exact List.mem_cons_of_mem _ (List.mem_cons_of_mem _ (List.mem_append_left _
        (List.mem_cons_of_mem _ (List.mem_cons_of_mem _ List.mem_cons_self))))
    exact List.mem_append_left _ (List.mem_append_right _ hpages)
  have hcut : "| ✅ | a" ∈ linesOf (row (pageRow page)) := by decide +kernel
  have hline : "| ✅ | a" ∈ linesOf (render r) := by
    rw [render, linesOf_join]
    exact List.mem_append_left _ (List.mem_flatMap.mpr ⟨_, hrow, hcut⟩)
  exact absurd (h _ hline (by decide)) (by decide)

end PageAudit.Report.Markdown
