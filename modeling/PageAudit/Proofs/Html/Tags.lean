import PageAudit.Proofs.Html.Tokens
import PageAudit.Report.Format

/-!
# The tags of a report depend on its shape alone

How many modules and pages there are, and for every page whether it passed, whether it has an error
and which of its checks passed: that decides all tags of a rendered report, with their attributes.
Nothing that a page, a route, a recognized text or an error says can add, remove or change one.
-/

namespace PageAudit.Report

/-- What of a page result can be told from the tags. -/
structure PageShape where
  passed : Bool
  hasError : Bool
  checks : List Bool
  deriving DecidableEq

structure Shape where
  modules : Nat
  pages : List PageShape
  deriving DecidableEq

def pageShape (p : PageResult) : PageShape :=
  ⟨p.passed, p.error.isSome, p.checks.map Check.Outcome.passed⟩

def shape (r : Report) : Shape := ⟨r.byModule.length, r.results.map pageShape⟩

namespace Html

def Token.tag? : Token → Option String
  | tag inside => some inside
  | char _ => none

/-- The tags of a document in their order, each with all its attributes. -/
def tags (s : String) : List String := (tokens s).filterMap Token.tag?

example : tags "a > b <p class=\"x\">1 &lt; 2</p> <c" = ["p class=\"x\"", "/p"] := by
  decide

/-! ## The tags of pieces -/

def pieceTags (ps : List Piece) : List String := (ps.flatMap Piece.tokens).filterMap Token.tag?

@[simp] theorem pieceTags_nil : pieceTags [] = [] := rfl

@[simp] theorem pieceTags_tag (inside : String) (ps : List Piece) :
    pieceTags (.tag inside :: ps) = inside :: pieceTags ps := rfl

@[simp] theorem pieceTags_text (s : String) (ps : List Piece) :
    pieceTags (.text s :: ps) = pieceTags ps := by
  simp [pieceTags, Piece.tokens, Token.tag?]

@[simp] theorem pieceTags_plain (s : String) (ps : List Piece) :
    pieceTags (.plain s :: ps) = pieceTags ps := by
  simp [pieceTags, Piece.tokens, Token.tag?]

@[simp] theorem pieceTags_append (ps qs : List Piece) :
    pieceTags (ps ++ qs) = pieceTags ps ++ pieceTags qs := by
  simp [pieceTags]

theorem pieceTags_flatMap {α : Type} (f : α → List Piece) (as : List α) :
    pieceTags (as.flatMap f) = as.flatMap fun a => pieceTags (f a) := by
  induction as with
  | nil => rfl
  | cons a as ih => simp [ih]

@[simp] theorem pieceTags_newLine (ps : List Piece) : pieceTags (newLine :: ps) = pieceTags ps :=
  pieceTags_plain "\n" ps

@[simp] theorem pieceTags_element (name : String) (content : List Piece) :
    pieceTags (element name content) = name :: pieceTags content ++ ["/" ++ name] := by
  simp [element]

@[simp] theorem pieceTags_classed (name cls : String) (content : List Piece) :
    pieceTags (classed name cls content) =
      withClass name cls :: pieceTags content ++ ["/" ++ name] := by
  simp [classed]

/-! ## The tags of rows -/

def moduleRowTags : List String :=
  ["tr", "td", "/td", "td", "/td", "td", "/td", "td", "/td", "/tr"]

theorem pieceTags_moduleRow (entry : String × ModuleTotals) :
    pieceTags (moduleRow entry) = moduleRowTags := by
  simp [moduleRow, moduleRowTags]

def itemTags (passed : Bool) : List String := [withClass "li" (outcomeClass passed), "/li"]

def PageShape.tags (s : PageShape) : List String :=
  ["tr", withClass "td" ("status " ++ outcomeClass s.passed), "/td", "td", "/td", "td", "code",
      "/code", "/td", "td", withClass "ul" "checks"] ++
    (if s.hasError then itemTags false else []) ++ s.checks.flatMap itemTags ++
    ["/ul", "/td", "td", "/td", "/tr"]

theorem pieceTags_errors (error : Option String) :
    pieceTags (error.toList.flatMap errorItem) = if error.isSome then itemTags false else [] := by
  cases error with
  | none => rfl
  | some e => simp [errorItem, itemTags, outcomeClass]

theorem pieceTags_checks (checks : List Check.Outcome) :
    pieceTags (checks.flatMap checkItem) =
      (checks.map Check.Outcome.passed).flatMap itemTags := by
  simp [pieceTags_flatMap, checkItem, itemTags, List.flatMap_map]

theorem pieceTags_pageRow (p : PageResult) : pieceTags (pageRow p) = PageShape.tags (pageShape p) := by
  simp only [pageRow, PageShape.tags, pieceTags_element, pieceTags_classed, pieceTags_append,
    pieceTags_errors, pieceTags_checks, pieceTags_plain, pieceTags_text, pieceTags_nil,
    List.append_assoc, List.cons_append, List.nil_append]
  rfl

theorem pieceTags_table (headings : List String) (rows : List (List Piece)) :
    pieceTags (table headings rows) = ["table", "tr"] ++
      headings.flatMap (fun _ => ["th", "/th"]) ++ ["/tr"] ++ rows.flatMap pieceTags ++
        ["/table"] := by
  simp [table, pieceTags_flatMap]

/-! ## The tags of a report -/

theorem pieceTags_particulars (r : Report) :
    pieceTags (particulars r) = [withClass "p" "meta", "/p"] := by
  simp [particulars]

theorem pieceTags_card (kind value label : String) :
    pieceTags (card kind value label) = [withClass "div" kind, withClass "span" "value", "/span",
      withClass "span" "label", "/span", "/div"] := by
  simp [card]

theorem pieceTags_cards (t u : Totals) : pieceTags (cards t) = pieceTags (cards u) := by
  simp only [cards, pieceTags_append, pieceTags_card]

theorem pieceTags_modules (r : Report) : (r.byModule.map moduleRow).flatMap pieceTags =
    (List.replicate r.shape.modules moduleRowTags).flatten := by
  rw [List.flatMap_map]
  simp only [pieceTags_moduleRow]
  rw [List.flatMap_def, List.map_const']
  rfl

theorem pieceTags_pages (r : Report) :
    (r.results.map pageRow).flatMap pieceTags = r.shape.pages.flatMap PageShape.tags := by
  simp [List.flatMap_map, pieceTags_pageRow, shape]

theorem pieceTags_content {r s : Report} (h : r.shape = s.shape) :
    pieceTags (content r) = pieceTags (content s) := by
  simp only [content, pieceTags_append, pieceTags_particulars, pieceTags_table, pieceTags_modules,
    pieceTags_pages, h, pieceTags_cards r.totals s.totals]

theorem tags_render (r : Report) :
    tags (render r) = pieceTags head ++ pieceTags (content r) ++ pieceTags foot := by
  rw [tags, tokens_render, ← pieceTags_append, ← pieceTags_append]
  rfl

end Html

/-- Two reports of one shape are rendered with the same tags, whatever else they contain. -/
theorem tags_eq_of_shape_eq {r s : Report} (h : r.shape = s.shape) :
    Html.tags (r.render .html) = Html.tags (s.render .html) := by
  have htags (r : Report) : Html.tags (r.render .html) = Html.pieceTags Html.head ++
      Html.pieceTags (Html.content r) ++ Html.pieceTags Html.foot := Html.tags_render r
  rw [htags, htags, Html.pieceTags_content h]

/-- A report that says one thing wherever something can be said. -/
def repeating (text : String) (count : Nat) : Report where
  startTime := .epoch
  endTime := .epoch
  totalDurationMs := count
  totals := ⟨count, count, count, .ofNat count⟩
  byModule := [(text, ⟨count, count, count⟩)]
  results := [⟨text, text, false, [⟨.title, true, text, some text⟩, ⟨.forbiddenTexts, false, text,
    none⟩], some text, some text, count, .epoch⟩]
  environment := ⟨text, text, text, true, true, true⟩

theorem script_adds_no_tag :
    let harmless := repeating "Saved" 0
    let hostile := repeating "</td><script src='x'>&lt;</script><!--" 7
    harmless.shape = hostile.shape ∧
      Html.tags (harmless.render .html) = Html.tags (hostile.render .html) :=
  ⟨rfl, tags_eq_of_shape_eq rfl⟩

end PageAudit.Report
