import PageAudit.Proofs.Html.Layout

/-!
# What a rendered report shows

A rendered report is read back by its tags: the summary cards by their labels, the two tables by
the headings above them, the rows of a table cell by cell. Every entity is replaced by the character
that it stands for. What is read are the totals, the modules and the page results of the report.
-/

namespace PageAudit

namespace Report

/-! ## What is shown -/

/-- A page as a report shows it: the error, if there is one, stands before the checks as one more
item that failed. -/
structure PageLine where
  passed : Bool
  name : String
  route : String
  items : List (Bool × String)
  durationMs : Nat
  deriving DecidableEq

structure Shown where
  total : Nat
  passed : Nat
  failed : Nat
  modules : List (String × ModuleTotals)
  pages : List PageLine
  deriving DecidableEq

def checkText (kind message : String) : String := kind ++ ": " ++ message

def pageLine (p : PageResult) : PageLine :=
  ⟨p.passed, p.pageName, p.route, (p.error.toList.map fun error => (false, error)) ++
    p.checks.map fun c => (c.passed, checkText c.kind.label c.message), p.durationMs⟩

def shown (r : Report) : Shown :=
  ⟨r.totals.total, r.totals.passed, r.totals.failed, r.byModule, r.results.map pageLine⟩

namespace Html

/-! ## Finding elements -/

namespace Element

/-- The text of the element, its entities replaced. -/
def shownText (e : Element) : String := String.ofList (unescape e.text)

def named (e : Element) (name : String) : List Element := e.children.filter (·.name == name)

/-- The elements that are found by going from child to child by their names. -/
def path : List String → Element → List Element
  | [], e => [e]
  | name :: names, e => (e.named name).flatMap (path names)

end Element

/-- The table that follows a heading. -/
def tableUnder? (heading : String) : List Element → Option Element
  | e :: table :: rest =>
    if e.name = "h2" ∧ e.shownText = heading ∧ table.name = "table" then some table
    else tableUnder? heading (table :: rest)
  | _ => none

/-- The rows of a table without that of its headings. -/
def dataRows (table : Element) : List Element := (table.named "tr").tail

/-! ## Reading cells -/

/-- The number that is written before the unit. -/
def countBefore? (unit : String) (text : List Char) : Option Nat :=
  let (ds, rest) := leadingDigits text
  if ds ≠ [] ∧ rest = unit.toList then some (Digit.value ds) else none

def verdict? (text : String) : Option Bool :=
  if text = "PASS" then some true else if text = "FAIL" then some false else none

def cardText? (card : Element) : Option (String × List Char) :=
  match card.named "span" with
  | [value, label] => some (label.shownText, value.text)
  | _ => none

def cardCount? (cards : List Element) (label : String) : Option Nat :=
  ((cards.filterMap cardText?).lookup label).bind (countBefore? "")

def moduleOf? (row : Element) : Option (String × ModuleTotals) :=
  match row.named "td" with
  | [key, total, passed, failed] => do
    let total ← countBefore? "" total.text
    let passed ← countBefore? "" passed.text
    let failed ← countBefore? "" failed.text
    some (key.shownText, ⟨total, passed, failed⟩)
  | _ => none

def itemOf? (item : Element) : Option (Bool × String) :=
  if item.tag = "li class=\"passed\"" then some (true, item.shownText)
  else if item.tag = "li class=\"failed\"" then some (false, item.shownText)
  else none

def pageOf? (row : Element) : Option PageLine :=
  match row.named "td" with
  | [status, name, route, checks, duration] => do
    let passed ← verdict? status.shownText
    let route ← (route.named "code").head?
    let items ← (checks.path ["ul", "li"]).mapM itemOf?
    let duration ← countBefore? " ms" duration.text
    some ⟨passed, name.shownText, route.shownText, items, duration⟩
  | _ => none

/-- What a document shows, if it is laid out as a report is. -/
def shown? (document : String) : Option Shown := do
  let root ← Element.ofText? document
  let container ← (root.path ["html", "body", "div"]).head?
  let cards := container.path ["div", "div"]
  let modules ← tableUnder? "Modules" container.children
  let pages ← tableUnder? "Pages" container.children
  some {
    total := ← cardCount? cards "Total"
    passed := ← cardCount? cards "Passed"
    failed := ← cardCount? cards "Failed"
    modules := ← (dataRows modules).mapM moduleOf?
    pages := ← (dataRows pages).mapM pageOf? }

/-! ## Texts and children -/

theorem shownText_plain {s : String} (h : '&' ∉ s.toList) (tag : String) (children : List Element) :
    (⟨tag, s.toList, children⟩ : Element).shownText = s := by
  have hplain := unescape_plain h []
  rw [List.append_nil, unescape_nil, List.append_nil] at hplain
  rw [Element.shownText, hplain, String.ofList_toList]

theorem shownText_escaped (s : String) (tag : String) (children : List Element) :
    (⟨tag, (escape s).toList, children⟩ : Element).shownText = s := by
  rw [Element.shownText, unescape_escape, String.ofList_toList]

theorem named_eq_self {e : Element} {name : String} (h : ∀ c ∈ e.children, c.name = name) :
    e.named name = e.children := by
  refine List.filter_eq_self.mpr fun c hc => ?_
  rw [h c hc, beq_self_eq_true]

theorem path_singleton (name : String) (e : Element) : e.path [name] = e.named name := by
  simp [Element.path]

/-! ## Counts -/

theorem countBefore?_toString (unit : String) (h : EndsDigits unit.toList) (n : Nat) :
    countBefore? unit ((toString n).toList ++ unit.toList) = some n := by
  simp only [countBefore?, Digit.toList_toString, leadingDigits_append _ h]
  rw [if_pos ⟨Digit.ofNat_ne_nil n, trivial⟩, Digit.value_ofNat]

theorem countBefore?_digits (n : Nat) : countBefore? "" (toString n).toList = some n := by
  have hcount := countBefore?_toString "" endsDigits_nil n
  rwa [String.toList_empty, List.append_nil] at hcount

/-! ## Rows -/

theorem mapM_map {α β γ : Type} {f : β → Option γ} {g : α → β} {h : α → γ}
    (hf : ∀ a, f (g a) = some (h a)) (as : List α) : (as.map g).mapM f = some (as.map h) := by
  have hcomp : f ∘ g = fun a => pure (h a) := funext hf
  rw [List.mapM_map, hcomp, List.mapM_pure]
  rfl

theorem text_cell (text : List Char) : (cell text).text = text := rfl

theorem moduleOf?_moduleElement (entry : String × ModuleTotals) :
    moduleOf? (moduleElement entry) = some entry := by
  have hcells : (moduleElement entry).named "td" = (moduleElement entry).children :=
    named_eq_self (by simp [moduleElement])
  have hkey : (cell (escape entry.1).toList).shownText = entry.1 := shownText_escaped _ _ _
  rw [moduleOf?, hcells]
  simp only [moduleElement, text_cell, countBefore?_digits, hkey, Option.bind_eq_bind,
    Option.bind_some]

theorem itemOf?_itemElement (passed : Bool) (text : List Char) :
    itemOf? (itemElement passed text) = some (passed, String.ofList (unescape text)) := by
  have hpassed : withClass "li" (outcomeClass true) = "li class=\"passed\"" := by decide
  have hfailed : withClass "li" (outcomeClass false) = "li class=\"failed\"" := by decide
  cases passed with
  | true => exact if_pos hpassed
  | false =>
      have hother : withClass "li" (outcomeClass false) ≠ "li class=\"passed\"" := by decide
      exact (if_neg hother).trans (if_pos hfailed)

theorem itemOf?_errorElement (error : String) :
    itemOf? (errorElement error) = some (false, error) := by
  rw [errorElement, itemOf?_itemElement, unescape_escape, String.ofList_toList]

theorem itemOf?_checkElement (c : Check.Outcome) :
    itemOf? (checkElement c) = some (c.passed, checkText c.kind.label c.message) := by
  have hlabel : '&' ∉ c.kind.label.toList ++ ": ".toList := by cases c.kind <;> decide
  have htext : unescape (c.kind.label.toList ++ ": ".toList ++ (escape c.message).toList) =
      (checkText c.kind.label c.message).toList := by
    rw [unescape_plain hlabel, unescape_escape, checkText, String.toList_append,
      String.toList_append]
  rw [checkElement, itemOf?_itemElement, htext, String.ofList_toList]

theorem verdict?_statusElement (passed : Bool) :
    verdict? (statusElement passed).shownText = some passed := by
  have hlabel : '&' ∉ (outcomeLabel passed).toList := by cases passed <;> decide
  rw [statusElement, shownText_plain hlabel]
  cases passed <;> decide

theorem path_listElement (p : PageResult) : (cellAround (listElement p)).path ["ul", "li"] =
    p.error.toList.map errorElement ++ p.checks.map checkElement := by
  have hlist : (cellAround (listElement p)).named "ul" = [listElement p] :=
    named_eq_self (by simp [cellAround])
  have hitems : (listElement p).named "li" = (listElement p).children := by
    refine named_eq_self fun c hc => ?_
    rcases List.mem_append.mp hc with hc | hc
    · obtain ⟨error, -, rfl⟩ := List.mem_map.mp hc
      exact name_itemElement _ _
    · obtain ⟨check, -, rfl⟩ := List.mem_map.mp hc
      exact name_itemElement _ _
  rw [Element.path, hlist, List.flatMap_singleton, path_singleton, hitems]
  rfl

theorem pageOf?_pageElement (p : PageResult) : pageOf? (pageElement p) = some (pageLine p) := by
  have hcells : (pageElement p).named "td" = (pageElement p).children :=
    named_eq_self (by simp [pageElement])
  have hname : (cell (escape p.pageName).toList).shownText = p.pageName := shownText_escaped _ _ _
  have hcode : (cellAround ⟨"code", (escape p.route).toList, []⟩).named "code" =
      [⟨"code", (escape p.route).toList, []⟩] :=
    named_eq_self (List.forall_mem_singleton.mpr (Ordinary.name_eq (by decide) _ _))
  have hroute : (⟨"code", (escape p.route).toList, []⟩ : Element).shownText = p.route :=
    shownText_escaped _ _ _
  have hitems : (p.error.toList.map errorElement ++ p.checks.map checkElement).mapM itemOf? =
      some (pageLine p).items := by
    rw [List.mapM_append, mapM_map itemOf?_errorElement, mapM_map itemOf?_checkElement]
    rfl
  have hduration : countBefore? " ms" ((toString p.durationMs).toList ++ " ms".toList) =
      some p.durationMs := by
    refine countBefore?_toString " ms" ?_ p.durationMs
    intro c hc
    cases hc
    decide
  rw [pageOf?, hcells]
  simp only [pageElement, text_cell, verdict?_statusElement, hcode, path_listElement, hitems, hname,
    hroute, hduration, List.head?_cons, Option.bind_eq_bind, Option.bind_some]
  rfl

/-! ## Tables -/

theorem dataRows_tableElement {headings : List String} {rows : List Element}
    (h : ∀ row ∈ rows, row.name = "tr") : dataRows (tableElement headings rows) = rows := by
  have hrows : (tableElement headings rows).named "tr" = (tableElement headings rows).children := by
    refine named_eq_self (List.forall_mem_cons.mpr ⟨?_, h⟩)
    exact Ordinary.name_eq (by decide) _ _
  rw [dataRows, hrows]
  rfl

theorem modules_read (r : Report) (headings : List String) :
    (dataRows (tableElement headings (r.byModule.map moduleElement))).mapM moduleOf? =
      some r.byModule := by
  have hname : ∀ row ∈ r.byModule.map moduleElement, row.name = "tr" :=
    List.forall_mem_map.mpr fun entry _ => name_moduleElement entry
  rw [dataRows_tableElement hname, mapM_map moduleOf?_moduleElement, List.map_id']

theorem pages_read (r : Report) (headings : List String) :
    (dataRows (tableElement headings (r.results.map pageElement))).mapM pageOf? =
      some (r.results.map pageLine) := by
  have hname : ∀ row ∈ r.results.map pageElement, row.name = "tr" :=
    List.forall_mem_map.mpr fun p _ => name_pageElement p
  rw [dataRows_tableElement hname, mapM_map pageOf?_pageElement]

/-! ## Cards -/

theorem cardText?_cardElement {label : String} (kind value : String) (h : '&' ∉ label.toList) :
    cardText? (cardElement kind value label) = some (label, value.toList) := by
  have hspans : (cardElement kind value label).named "span" =
      (cardElement kind value label).children := by
    have hspan : Ordinary "span" := by decide
    exact named_eq_self (by simp [cardElement, hspan.name_withClass])
  have hlabel : (⟨withClass "span" "label", label.toList, []⟩ : Element).shownText = label :=
    shownText_plain h _ _
  rw [cardText?, hspans]
  simp only [cardElement, hlabel]

theorem cardTexts_gridElement (t : Totals) : (gridElement t).children.filterMap cardText? =
    [("Total", (toString t.total).toList), ("Passed", (toString t.passed).toList),
      ("Failed", (toString t.failed).toList),
      ("Pass rate", (t.passRate.fixed 1 ++ "%").toList)] := by
  rw [gridElement, List.filterMap_cons_some (cardText?_cardElement _ _ (by decide)),
    List.filterMap_cons_some (cardText?_cardElement _ _ (by decide)),
    List.filterMap_cons_some (cardText?_cardElement _ _ (by decide)),
    List.filterMap_cons_some (cardText?_cardElement _ _ (by decide)), List.filterMap_nil]

theorem cardCount?_gridElement (t : Totals) :
    cardCount? (gridElement t).children "Total" = some t.total ∧
      cardCount? (gridElement t).children "Passed" = some t.passed ∧
      cardCount? (gridElement t).children "Failed" = some t.failed := by
  simp only [cardCount?, cardTexts_gridElement]
  exact ⟨countBefore?_digits t.total, countBefore?_digits t.passed, countBefore?_digits t.failed⟩

/-! ## The report -/

theorem path_root {declaration html head body main : Element}
    (hdeclaration : declaration.name ≠ "html") (hhtml : html.name = "html")
    (hhtml' : html.children = [head, body]) (hhead : head.name ≠ "body")
    (hbody : body.name = "body") (hbody' : body.children = [main]) (hmain : main.name = "div")
    (text : List Char) :
    (⟨"", text, [declaration, html]⟩ : Element).path ["html", "body", "div"] = [main] := by
  simp [Element.path, Element.named, hdeclaration, hhtml, hhtml', hhead, hbody, hbody', hmain]

theorem path_container (r : Report) :
    (containerElement r).path ["div", "div"] = (gridElement r.totals).children := by
  have htitle : Ordinary "h1" := by decide
  have hparagraph : Ordinary "p" := by decide
  have hheading : Ordinary "h2" := by decide
  have hgrid : (containerElement r).named "div" = [gridElement r.totals] := by
    simp [containerElement, Element.named, htitle.name_eq, hparagraph.name_withClass,
      hheading.name_eq]
  have hcards : (gridElement r.totals).named "div" = (gridElement r.totals).children :=
    named_eq_self (by simp [gridElement])
  rw [Element.path, hgrid, List.flatMap_singleton, path_singleton, hcards]

theorem tableUnder?_heading {heading : String} {e table : Element} (hname : e.name = "h2")
    (htext : e.shownText = heading) (htable : table.name = "table") (rest : List Element) :
    tableUnder? heading (e :: table :: rest) = some table :=
  if_pos ⟨hname, htext, htable⟩

theorem tableUnder?_other {heading : String} {e : Element}
    (h : e.name = "h2" → e.shownText ≠ heading) (next : Element) (rest : List Element) :
    tableUnder? heading (e :: next :: rest) = tableUnder? heading (next :: rest) :=
  if_neg fun hfound => h hfound.1 hfound.2.1

theorem tables_container (r : Report) :
    tableUnder? "Modules" (containerElement r).children =
        some (tableElement ["Module", "Total", "Passed", "Failed"] (r.byModule.map moduleElement)) ∧
      tableUnder? "Pages" (containerElement r).children =
        some (tableElement ["Status", "Page", "Route", "Checks", "Duration"]
          (r.results.map pageElement)) := by
  have hmodules : (⟨"h2", "Modules".toList, []⟩ : Element).shownText = "Modules" :=
    shownText_plain (by decide) _ _
  have hpages : (⟨"h2", "Pages".toList, []⟩ : Element).shownText = "Pages" :=
    shownText_plain (by decide) _ _
  have hheading (text : List Char) : (⟨"h2", text, []⟩ : Element).name = "h2" :=
    Ordinary.name_eq (by decide) _ _
  have htitle (text : List Char) : (⟨"h1", text, []⟩ : Element).name ≠ "h2" := by
    rw [Ordinary.name_eq (by decide)]
    decide
  have hparagraph (text : List Char) :
      (⟨withClass "p" "meta", text, []⟩ : Element).name ≠ "h2" := by
    rw [Ordinary.name_withClass (by decide)]
    decide
  have hgrid : (gridElement r.totals).name ≠ "h2" := by simp
  have htable (headings : List String) (rows : List Element) :
      (tableElement headings rows).name ≠ "h2" := by simp
  have hbefore (heading : String) (rest : List Element) :
      tableUnder? heading (⟨"h1", "Page Validation Report".toList, []⟩ ::
        ⟨withClass "p" "meta", paragraphText r, []⟩ :: gridElement r.totals ::
          ⟨"h2", "Modules".toList, []⟩ :: rest) =
        tableUnder? heading (⟨"h2", "Modules".toList, []⟩ :: rest) := by
    rw [tableUnder?_other fun h => absurd h (htitle _),
      tableUnder?_other fun h => absurd h (hparagraph _), tableUnder?_other fun h => absurd h hgrid]
  rw [containerElement]
  refine ⟨?_, ?_⟩
  · rw [hbefore, tableUnder?_heading (hheading _) hmodules (name_tableElement _ _)]
  · have hother : (⟨"h2", "Modules".toList, []⟩ : Element).shownText ≠ "Pages" := by
      rw [hmodules]
      decide
    rw [hbefore, tableUnder?_other fun _ => hother,
      tableUnder?_other fun h => absurd h (htable _ _),
      tableUnder?_heading (hheading _) hpages (name_tableElement _ _)]

/-- A rendered report shows the report. -/
theorem shown?_render (r : Report) : shown? (render r) = some r.shown := by
  obtain ⟨headElement, hhead, hdocument⟩ := exists_ofText?_render r
  have hdeclaration : (Element.empty "!DOCTYPE html").name ≠ "html" := by decide
  have htag : nameOf "html lang=\"en\"" = "html" := by decide
  have hhtml (children : List Element) :
      (⟨"html lang=\"en\"", ['\n', '\n', '\n'], children⟩ : Element).name = "html" := htag
  have hbody (children : List Element) :
      (⟨"body", ['\n', '\n'], children⟩ : Element).name = "body" := Ordinary.name_eq (by decide) _ _
  have hother : headElement.name ≠ "body" := by
    rw [hhead]
    decide
  have hcontainer := path_root hdeclaration (hhtml _) rfl hother (hbody [containerElement r]) rfl
    (name_containerElement r) ['\n', '\n']
  obtain ⟨hmodules, hpages⟩ := tables_container r
  obtain ⟨htotal, hpassed, hfailed⟩ := cardCount?_gridElement r.totals
  simp only [shown?, hdocument, hcontainer, path_container, hmodules, hpages, htotal, hpassed,
    hfailed, modules_read, pages_read, List.head?_cons, Option.bind_eq_bind, Option.bind_some]
  rfl

end Html

end Report

end PageAudit
