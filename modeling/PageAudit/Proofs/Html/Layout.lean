import PageAudit.Proofs.Html.Elements

/-!
# The elements of a report

Every part of a rendered report is an element of the document, with its texts escaped; the whole
report is the content of one element in its body.
-/

namespace PageAudit.Report.Html

/-! ## Rows -/

def cell (text : List Char) : Element := ⟨"td", text, []⟩

def cellAround (child : Element) : Element := ⟨"td", [], [child]⟩

@[simp] theorem name_cell (text : List Char) : (cell text).name = "td" :=
  Ordinary.name_eq (by decide) _ _

@[simp] theorem name_cellAround (child : Element) : (cellAround child).name = "td" :=
  Ordinary.name_eq (by decide) _ _

theorem adds_cell {ps : List Piece} {text : List Char} (h : Adds ps text []) :
    Adds (element "td" ps) [] [cell text] :=
  h.element "td" (by decide)

theorem adds_cellAround {ps : List Piece} {child : Element} (h : Adds ps [] [child]) :
    Adds (element "td" ps) [] [cellAround child] :=
  h.element "td" (by decide)

def moduleElement (entry : String × ModuleTotals) : Element :=
  ⟨"tr", [], [cell (escape entry.1).toList, cell (toString entry.2.total).toList,
    cell (toString entry.2.passed).toList, cell (toString entry.2.failed).toList]⟩

@[simp] theorem name_moduleElement (entry : String × ModuleTotals) :
    (moduleElement entry).name = "tr" :=
  Ordinary.name_eq (by decide) _ _

theorem adds_moduleRow (entry : String × ModuleTotals) :
    Adds (moduleRow entry) [] [moduleElement entry] := by
  have hkey := adds_cell (adds_text entry.1)
  have hcount (n : Nat) := adds_cell (adds_plain (toString n))
  have hcells := ((hkey.append (hcount entry.2.total)).append (hcount entry.2.passed)).append
    (hcount entry.2.failed)
  exact hcells.element "tr" (by decide)

def itemElement (passed : Bool) (text : List Char) : Element :=
  ⟨withClass "li" (outcomeClass passed), text, []⟩

@[simp] theorem name_itemElement (passed : Bool) (text : List Char) :
    (itemElement passed text).name = "li" :=
  Ordinary.name_withClass (by decide) _ _ _

theorem adds_item {ps : List Piece} {text : List Char} (passed : Bool) (h : Adds ps text []) :
    Adds (classed "li" (outcomeClass passed) ps) [] [itemElement passed text] :=
  h.classed (by decide) _

def errorElement (error : String) : Element := itemElement false (escape error).toList

def checkElement (c : Check.Outcome) : Element :=
  itemElement c.passed (c.kind.label.toList ++ ": ".toList ++ (escape c.message).toList)

theorem adds_errorItem (error : String) : Adds (errorItem error) [] [errorElement error] :=
  adds_item false (adds_text error)

theorem adds_checkItem (c : Check.Outcome) : Adds (checkItem c) [] [checkElement c] :=
  adds_item c.passed (((adds_plain c.kind.label).append (adds_plain ": ")).append
    (adds_text c.message))

def listElement (p : PageResult) : Element :=
  ⟨withClass "ul" "checks", [], p.error.toList.map errorElement ++ p.checks.map checkElement⟩

@[simp] theorem name_listElement (p : PageResult) : (listElement p).name = "ul" :=
  Ordinary.name_withClass (by decide) _ _ _

def statusElement (passed : Bool) : Element :=
  ⟨withClass "td" ("status " ++ outcomeClass passed), (outcomeLabel passed).toList, []⟩

@[simp] theorem name_statusElement (passed : Bool) : (statusElement passed).name = "td" :=
  Ordinary.name_withClass (by decide) _ _ _

def pageElement (p : PageResult) : Element :=
  ⟨"tr", [], [statusElement p.passed, cell (escape p.pageName).toList,
    cellAround ⟨"code", (escape p.route).toList, []⟩, cellAround (listElement p),
    cell ((toString p.durationMs).toList ++ " ms".toList)]⟩

@[simp] theorem name_pageElement (p : PageResult) : (pageElement p).name = "tr" :=
  Ordinary.name_eq (by decide) _ _

theorem adds_status (passed : Bool) :
    Adds (classed "td" ("status " ++ outcomeClass passed) [.plain (outcomeLabel passed)]) []
      [statusElement passed] :=
  (adds_plain (outcomeLabel passed)).classed (by decide) _

theorem adds_list (p : PageResult) :
    Adds (classed "ul" "checks" (p.error.toList.flatMap errorItem ++ p.checks.flatMap checkItem)) []
      [listElement p] :=
  ((Adds.map adds_errorItem p.error.toList).append (Adds.map adds_checkItem p.checks)).classed
    (by decide) _

theorem adds_pageRow (p : PageResult) : Adds (pageRow p) [] [pageElement p] := by
  have hname := adds_cell (adds_text p.pageName)
  have hroute := adds_cellAround ((adds_text p.route).element "code" (by decide))
  have hlist := adds_cellAround (adds_list p)
  have hduration := adds_cell ((adds_plain (toString p.durationMs)).append (adds_plain " ms"))
  have hcells := ((((adds_status p.passed).append hname).append hroute).append hlist).append hduration
  exact hcells.element "tr" (by decide)

/-! ## Tables -/

def headingElement (heading : String) : Element := ⟨"th", heading.toList, []⟩

def tableElement (headings : List String) (rows : List Element) : Element :=
  ⟨"table", '\n' :: '\n' :: rows.map fun _ => '\n',
    ⟨"tr", [], headings.map headingElement⟩ :: rows⟩

@[simp] theorem name_tableElement (headings : List String) (rows : List Element) :
    (tableElement headings rows).name = "table" :=
  Ordinary.name_eq (by decide) _ _

theorem adds_table {α : Type} {f : α → List Piece} {g : α → Element} (h : ∀ a, Adds (f a) [] [g a])
    (headings : List String) (as : List α) :
    Adds (table headings (as.map f)) ['\n'] [tableElement headings (as.map g)] := by
  have hsplit : table headings (as.map f) = element "table" ([newLine] ++ element "tr"
      (headings.flatMap fun h => element "th" [.plain h]) ++ [newLine] ++
        (as.map f).flatMap (· ++ [newLine])) ++ [newLine] := by
    simp [table, element]
  have hheading (heading : String) :
      Adds (element "th" [.plain heading]) [] [headingElement heading] :=
    (adds_plain heading).element "th" (by decide)
  have hrow : Adds (element "tr" (headings.flatMap fun h => element "th" [.plain h])) []
      [⟨"tr", [], headings.map headingElement⟩] :=
    (Adds.map hheading headings).element "tr" (by decide)
  have hinside := (adds_newLine.append hrow).line.append (Adds.lines h as)
  have htable := (hinside.element "table" (by decide)).line
  rw [hsplit, tableElement, List.map_map]
  exact htable

/-! ## Cards -/

def cardElement (kind value label : String) : Element :=
  ⟨withClass "div" kind, [], [⟨withClass "span" "value", value.toList, []⟩,
    ⟨withClass "span" "label", label.toList, []⟩]⟩

@[simp] theorem name_cardElement (kind value label : String) :
    (cardElement kind value label).name = "div" :=
  Ordinary.name_withClass (by decide) _ _ _

theorem adds_card (kind value label : String) :
    Adds (card kind value label) ['\n'] [cardElement kind value label] := by
  have hspan : Ordinary "span" := by decide
  have hvalue := (adds_plain value).classed hspan "value"
  have hlabel := (adds_plain label).classed hspan "label"
  exact ((hvalue.append hlabel).classed (by decide) kind).line

def gridElement (t : Totals) : Element :=
  ⟨withClass "div" "summary-grid", List.replicate 5 '\n',
    [cardElement "summary-card " (toString t.total) "Total",
      cardElement "summary-card passed" (toString t.passed) "Passed",
      cardElement "summary-card failed" (toString t.failed) "Failed",
      cardElement "summary-card" (t.passRate.fixed 1 ++ "%") "Pass rate"]⟩

@[simp] theorem name_gridElement (t : Totals) : (gridElement t).name = "div" :=
  Ordinary.name_withClass (by decide) _ _ _

theorem adds_cards (t : Totals) : Adds (cards t) ['\n'] [gridElement t] := by
  have hsplit : cards t = classed "div" "summary-grid" ([newLine] ++
      card "summary-card " (toString t.total) "Total" ++
      card "summary-card passed" (toString t.passed) "Passed" ++
      card "summary-card failed" (toString t.failed) "Failed" ++
      card "summary-card" (t.passRate.fixed 1 ++ "%") "Pass rate") ++ [newLine] := by
    simp [cards, classed]
  have htotal := adds_card "summary-card " (toString t.total) "Total"
  have hpassed := adds_card "summary-card passed" (toString t.passed) "Passed"
  have hfailed := adds_card "summary-card failed" (toString t.failed) "Failed"
  have hrate := adds_card "summary-card" (t.passRate.fixed 1 ++ "%") "Pass rate"
  have hinside := (((adds_newLine.append htotal).append hpassed).append hfailed).append hrate
  rw [hsplit]
  exact (hinside.classed (by decide) _).line

/-! ## The whole report -/

def paragraphText (r : Report) : List Char :=
  r.startTime.displayText.toList ++ " &middot; ".toList ++ (toString r.totalDurationMs).toList ++
    " ms &middot; ".toList ++ (escape r.environment.host).toList ++
    " &middot; page-vision ".toList ++ (escape r.environment.version).toList

theorem adds_particulars (r : Report) :
    Adds (particulars r) [] [⟨withClass "p" "meta", paragraphText r, []⟩] := by
  have htext := ((((((adds_plain r.startTime.displayText).append (adds_plain " &middot; ")).append
    (adds_plain (toString r.totalDurationMs))).append (adds_plain " ms &middot; ")).append
    (adds_text r.environment.host)).append (adds_plain " &middot; page-vision ")).append
    (adds_text r.environment.version)
  exact htext.classed (by decide) _

/-- The element that holds the whole report. -/
def containerElement (r : Report) : Element :=
  ⟨withClass "div" "container", List.replicate 8 '\n',
    [⟨"h1", "Page Validation Report".toList, []⟩, ⟨withClass "p" "meta", paragraphText r, []⟩,
      gridElement r.totals, ⟨"h2", "Modules".toList, []⟩,
      tableElement ["Module", "Total", "Passed", "Failed"] (r.byModule.map moduleElement),
      ⟨"h2", "Pages".toList, []⟩,
      tableElement ["Status", "Page", "Route", "Checks", "Duration"] (r.results.map pageElement)]⟩

@[simp] theorem name_containerElement (r : Report) : (containerElement r).name = "div" :=
  Ordinary.name_withClass (by decide) _ _ _

theorem adds_container (r : Report) :
    Adds (classed "div" "container" ([newLine] ++ content r)) [] [containerElement r] := by
  have htitle := (adds_plain "Page Validation Report").element "h1" (by decide)
  have hheading (heading : String) := (adds_plain heading).element "h2" (by decide)
  have hmodules := adds_table adds_moduleRow ["Module", "Total", "Passed", "Failed"] r.byModule
  have hpages := adds_table adds_pageRow ["Status", "Page", "Route", "Checks", "Duration"] r.results
  have hsummary := (htitle.line.append (adds_particulars r)).line.append (adds_cards r.totals)
  have hcontent := (((hsummary.append (hheading "Modules")).line.append hmodules).append
    (hheading "Pages")).line.append hpages
  exact (adds_newLine.append hcontent).classed (by decide) _

/-- The pieces of the head of the document. -/
def headContent : List Piece :=
  [newLine] ++ [Piece.plain "    "] ++ [Piece.tag "meta charset=\"UTF-8\""] ++ [newLine] ++
    [Piece.plain "    "] ++
    [Piece.tag "meta name=\"viewport\" content=\"width=device-width, initial-scale=1.0\""] ++
    [newLine] ++ [Piece.plain "    "] ++
    element "title" [Piece.plain "Page Validation Report"] ++ [newLine] ++ [Piece.plain "    "] ++
    element "style" ([newLine] ++ [Piece.plain (String.join (style.map (· ++ "\n")))] ++
      [Piece.plain "    "]) ++ [newLine]

theorem exists_adds_headContent : ∃ text children, Adds headContent text children := by
  have hblanks := adds_plain "    "
  have hcharset := adds_alone "meta charset=\"UTF-8\"" (by decide)
  have hviewport := adds_alone
    "meta name=\"viewport\" content=\"width=device-width, initial-scale=1.0\""
    (by decide +kernel)
  have htitle := (adds_plain "Page Validation Report").element "title" (by decide)
  have hstyle := ((adds_newLine.append (adds_plain (String.join (style.map (· ++ "\n"))))).append
    hblanks).element "style" (by decide)
  have hmeta := ((((adds_newLine.append hblanks).append hcharset).line.append hblanks).append
    hviewport).line
  exact ⟨_, _, ((((hmeta.append hblanks).append htitle).line.append hblanks).append hstyle).line⟩

theorem pieces_eq (r : Report) : pieces r = [Piece.tag "!DOCTYPE html"] ++ [newLine] ++
    (Piece.tag "html lang=\"en\"" :: ([newLine] ++ element "head" headContent ++ [newLine] ++
      element "body" ([newLine] ++ classed "div" "container" ([newLine] ++ content r) ++
        [newLine]) ++ [newLine]) ++ [Piece.tag ("/" ++ "html")]) ++ [newLine] := by
  simp [pieces, head, foot, headContent, element, classed]

/-- A rendered report is read as a document whose body holds the report. -/
theorem exists_ofText?_render (r : Report) : ∃ headElement : Element, headElement.name = "head" ∧
    Element.ofText? (render r) = some ⟨"", ['\n', '\n'], [.empty "!DOCTYPE html",
      ⟨"html lang=\"en\"", ['\n', '\n', '\n'],
        [headElement, ⟨"body", ['\n', '\n'], [containerElement r]⟩]⟩]⟩ := by
  obtain ⟨text, children, hcontent⟩ := exists_adds_headContent
  have hname : Ordinary "head" := by decide
  refine ⟨⟨"head", text, children⟩, hname.name_eq _ _, ?_⟩
  have hdeclaration := adds_alone "!DOCTYPE html" (by decide)
  have hhead := hcontent.element "head" hname
  have hbody := (adds_newLine.append (adds_container r)).line.element "body" (by decide)
  have hopen : TagKind.of "html lang=\"en\"" = .opening := by decide
  have hclose : nameOf "html lang=\"en\"" = "html" := by decide
  have hhtml := ((adds_newLine.append hhead).line.append hbody).line.enclose hopen hclose
  have hdocument := (hdeclaration.line.append hhtml).line
  rw [← pieces_eq] at hdocument
  rw [Element.ofText?, tokens_render, hdocument]
  rfl

end PageAudit.Report.Html
