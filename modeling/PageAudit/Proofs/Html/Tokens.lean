import PageAudit.Proofs.Html.Escaping
import PageAudit.Proofs.Text.Characters

/-!
# The tags of a document

A document is read from the left: a tag is what stands between `<` and the next `>`, and every other
character stands for itself. Where no text of a piece holds a `<`, what is read from the rendered
pieces are the tags and characters of the pieces in their order. The pieces of a report are such.
-/

namespace PageAudit.Report.Html

inductive Token where
  | tag (inside : String)
  | char (c : Char)

/-- Reads on, either between tags or inside of one of which some characters have been read. A tag
that is not closed is none. -/
def tokensFrom : Option (List Char) → List Char → List Token
  | _, [] => []
  | none, c :: cs => if c = '<' then tokensFrom (some []) cs else .char c :: tokensFrom none cs
  | some inside, c :: cs =>
    if c = '>' then .tag (String.ofList inside) :: tokensFrom none cs
    else tokensFrom (some (inside ++ [c])) cs

def tokens (s : String) : List Token := tokensFrom none s.toList

theorem tokensFrom_text {cs : List Char} (h : '<' ∉ cs) (rest : List Char) :
    tokensFrom none (cs ++ rest) = cs.map .char ++ tokensFrom none rest := by
  induction cs with
  | nil => rfl
  | cons c cs ih =>
      rw [List.mem_cons, not_or] at h
      rw [List.cons_append, tokensFrom, if_neg (Ne.symm h.1), ih h.2, List.map_cons,
        List.cons_append]

theorem tokensFrom_tag {cs : List Char} (h : '>' ∉ cs) (inside rest : List Char) :
    tokensFrom (some inside) (cs ++ '>' :: rest) =
      .tag (String.ofList (inside ++ cs)) :: tokensFrom none rest := by
  induction cs generalizing inside with
  | nil => simp [tokensFrom]
  | cons c cs ih =>
      rw [List.mem_cons, not_or] at h
      rw [List.cons_append, tokensFrom, if_neg (Ne.symm h.1), ih h.2, List.append_assoc,
        List.singleton_append]

/-! ## Pieces -/

namespace Piece

/-- Whether nothing in the piece is taken for the beginning or the end of a tag. -/
def Clean : Piece → Prop
  | tag inside => '>' ∉ inside.toList
  | text _ => True
  | plain s => '<' ∉ s.toList

instance (p : Piece) : Decidable p.Clean :=
  match p with
  | .tag inside => inferInstanceAs (Decidable ('>' ∉ inside.toList))
  | .text _ => inferInstanceAs (Decidable True)
  | .plain s => inferInstanceAs (Decidable ('<' ∉ s.toList))

def tokens : Piece → List Token
  | tag inside => [.tag inside]
  | text s => (escape s).toList.map .char
  | plain s => s.toList.map .char

theorem Clean.tokensFrom {p : Piece} (h : p.Clean) (rest : List Char) :
    tokensFrom none (p.render.toList ++ rest) = p.tokens ++ tokensFrom none rest := by
  cases p with
  | tag inside =>
      have htag := tokensFrom_tag h [] rest
      rw [List.nil_append, String.ofList_toList] at htag
      simpa [render, Html.tokensFrom, tokens] using htag
  | text s => exact tokensFrom_text (notMem_escape s) rest
  | plain s => exact tokensFrom_text h rest

end Piece

theorem tokens_join {ps : List Piece} (h : ∀ p ∈ ps, p.Clean) :
    tokens (String.join (ps.map Piece.render)) = ps.flatMap Piece.tokens := by
  rw [tokens, String.toList_join, List.flatMap_map]
  induction ps with
  | nil => rfl
  | cons p ps ih =>
      rw [List.forall_mem_cons] at h
      rw [List.flatMap_cons, h.1.tokensFrom, ih h.2, List.flatMap_cons]

/-! ## Texts without tags -/

theorem notMem_ofList {c : Char} {cs : List Char} (h : c ∉ cs) : c ∉ (String.ofList cs).toList := by
  rwa [String.toList_ofList]

theorem foreign_bracket : Text.Foreign '<' := by decide

/-! ## The pieces of a report -/

theorem clean_element {name : String} {content : List Piece} (hname : '>' ∉ name.toList)
    (hcontent : ∀ p ∈ content, p.Clean) : ∀ p ∈ element name content, p.Clean := by
  have hclose : '>' ∉ ("/" ++ name).toList := by simp [hname]
  simp only [element, List.cons_append, List.forall_mem_cons, List.forall_mem_append]
  exact ⟨hname, hcontent, hclose, List.forall_mem_nil _⟩

theorem clean_classed {name cls : String} {content : List Piece} (hname : '>' ∉ name.toList)
    (hcls : '>' ∉ cls.toList) (hcontent : ∀ p ∈ content, p.Clean) :
    ∀ p ∈ classed name cls content, p.Clean := by
  have hopen : '>' ∉ (withClass name cls).toList := by simp [withClass, hname, hcls]
  have hclose : '>' ∉ ("/" ++ name).toList := by simp [hname]
  simp only [classed, List.cons_append, List.forall_mem_cons, List.forall_mem_append]
  exact ⟨hopen, hcontent, hclose, List.forall_mem_nil _⟩

theorem clean_table {headings : List String} {rows : List (List Piece)}
    (hheadings : ∀ h ∈ headings, '<' ∉ h.toList) (hrows : ∀ row ∈ rows, ∀ p ∈ row, p.Clean) :
    ∀ p ∈ table headings rows, p.Clean := by
  have hline : newLine.Clean := by decide
  have hlast : ∀ p ∈ [newLine], p.Clean := List.forall_mem_singleton.mpr hline
  have hcells : ∀ p ∈ headings.flatMap fun h => element "th" [.plain h], p.Clean := by
    intro p hp
    obtain ⟨h, hh, hp⟩ := List.mem_flatMap.mp hp
    have hplain : (Piece.plain h).Clean := hheadings h hh
    exact clean_element (by decide) (List.forall_mem_singleton.mpr hplain) p hp
  have hbody : ∀ p ∈ rows.flatMap (· ++ [newLine]), p.Clean := by
    intro p hp
    obtain ⟨row, hrow, hp⟩ := List.mem_flatMap.mp hp
    exact List.forall_mem_append.mpr ⟨hrows row hrow, hlast⟩ p hp
  simp only [table, List.forall_mem_append]
  refine ⟨⟨⟨⟨?_, clean_element (by decide) hcells⟩, hlast⟩, hbody⟩, ?_⟩
  · decide
  · decide

theorem clean_particulars (r : Report) : ∀ p ∈ particulars r, p.Clean := by
  refine clean_classed (by decide) (by decide) ?_
  simp only [List.forall_mem_cons]
  refine ⟨foreign_bracket.notMem_displayText r.startTime, by decide,
    foreign_bracket.notMem_toString r.totalDurationMs, by decide, trivial, by decide, trivial,
    List.forall_mem_nil _⟩

theorem clean_card {kind value label : String} (hkind : '>' ∉ kind.toList)
    (hvalue : '<' ∉ value.toList) (hlabel : '<' ∉ label.toList) :
    ∀ p ∈ card kind value label, p.Clean := by
  have hspan {cls s : String} (hcls : '>' ∉ cls.toList) (hs : '<' ∉ s.toList) :
      ∀ p ∈ classed "span" cls [.plain s], p.Clean :=
    clean_classed (by decide) hcls (List.forall_mem_singleton.mpr hs)
  rw [card, List.forall_mem_append]
  refine ⟨clean_classed (by decide) hkind ?_, by decide⟩
  exact List.forall_mem_append.mpr ⟨hspan (by decide) hvalue, hspan (by decide) hlabel⟩

theorem clean_cards (t : Totals) : ∀ p ∈ cards t, p.Clean := by
  have hrate : '<' ∉ (t.passRate.fixed 1 ++ "%").toList := by simp [foreign_bracket.notMem_fixed]
  simp only [cards, List.forall_mem_append]
  refine ⟨⟨⟨⟨⟨by decide, ?_⟩, ?_⟩, ?_⟩, ?_⟩, by decide⟩
  · exact clean_card (by decide) (foreign_bracket.notMem_toString t.total) (by decide)
  · exact clean_card (by decide) (foreign_bracket.notMem_toString t.passed) (by decide)
  · exact clean_card (by decide) (foreign_bracket.notMem_toString t.failed) (by decide)
  · exact clean_card (by decide) hrate (by decide)

theorem clean_cell {p : Piece} (h : p.Clean) : ∀ q ∈ element "td" [p], q.Clean :=
  clean_element (by decide) (List.forall_mem_singleton.mpr h)

theorem clean_moduleRow (entry : String × ModuleTotals) : ∀ p ∈ moduleRow entry, p.Clean := by
  refine clean_element (by decide) ?_
  simp only [List.forall_mem_append]
  have hcount (n : Nat) : ∀ p ∈ element "td" [.plain (toString n)], p.Clean :=
    clean_cell (foreign_bracket.notMem_toString n)
  exact ⟨⟨⟨clean_cell trivial, hcount _⟩, hcount _⟩, hcount _⟩

theorem notMem_outcomeClass (passed : Bool) : '>' ∉ (outcomeClass passed).toList := by
  cases passed <;> decide

theorem clean_checkItem (c : Check.Outcome) : ∀ p ∈ checkItem c, p.Clean := by
  have hlabel : '<' ∉ c.kind.label.toList := by cases c.kind <;> decide
  refine clean_classed (by decide) (notMem_outcomeClass c.passed) ?_
  simp only [List.forall_mem_cons]
  exact ⟨hlabel, by decide, trivial, List.forall_mem_nil _⟩

theorem clean_items (p : PageResult) :
    ∀ q ∈ p.error.toList.flatMap errorItem ++ p.checks.flatMap checkItem, q.Clean := by
  refine List.forall_mem_append.mpr ⟨fun q hq => ?_, fun q hq => ?_⟩
  · obtain ⟨error, -, hq⟩ := List.mem_flatMap.mp hq
    have htext : (Piece.text error).Clean := trivial
    exact clean_classed (by decide) (by decide) (List.forall_mem_singleton.mpr htext) q hq
  · obtain ⟨c, -, hq⟩ := List.mem_flatMap.mp hq
    exact clean_checkItem c q hq

theorem clean_pageRow (p : PageResult) : ∀ q ∈ pageRow p, q.Clean := by
  have hstatus : '>' ∉ ("status " ++ outcomeClass p.passed).toList := by
    simp [notMem_outcomeClass]
  have hlabel : '<' ∉ (outcomeLabel p.passed).toList := by cases p.passed <;> decide
  have hroute : ∀ q ∈ element "code" [.text p.route], q.Clean :=
    clean_element (by decide) (List.forall_mem_singleton.mpr trivial)
  have hduration : ∀ q ∈ [Piece.plain (toString p.durationMs), .plain " ms"], q.Clean := by
    simp only [List.forall_mem_cons]
    exact ⟨foreign_bracket.notMem_toString p.durationMs, by decide, List.forall_mem_nil _⟩
  refine clean_element (by decide) ?_
  simp only [List.forall_mem_append]
  refine ⟨⟨⟨⟨?_, clean_cell trivial⟩, clean_element (by decide) hroute⟩, ?_⟩, ?_⟩
  · exact clean_classed (by decide) hstatus (List.forall_mem_singleton.mpr hlabel)
  · exact clean_element (by decide) (clean_classed (by decide) (by decide) (clean_items p))
  · exact clean_element (by decide) hduration

theorem clean_content (r : Report) : ∀ p ∈ content r, p.Clean := by
  have hmodules : ∀ row ∈ r.byModule.map moduleRow, ∀ p ∈ row, p.Clean :=
    List.forall_mem_map.mpr fun entry _ => clean_moduleRow entry
  have hpages : ∀ row ∈ r.results.map pageRow, ∀ p ∈ row, p.Clean :=
    List.forall_mem_map.mpr fun p _ => clean_pageRow p
  simp only [content, List.forall_mem_append]
  refine ⟨⟨⟨⟨⟨⟨⟨⟨⟨⟨?_, ?_⟩, clean_particulars r⟩, ?_⟩, clean_cards r.totals⟩, ?_⟩, ?_⟩, ?_⟩, ?_⟩, ?_⟩, ?_⟩
  · decide
  · decide
  · decide
  · decide
  · decide
  · exact clean_table (by decide) hmodules
  · decide
  · decide
  · exact clean_table (by decide) hpages

set_option maxRecDepth 2000 in
theorem notMem_style : ∀ line ∈ style, '<' ∉ line.toList := by
  simp only [style, List.forall_mem_cons]
  repeat refine ⟨notMem_ofList (by decide +kernel), ?_⟩
  exact List.forall_mem_nil _

theorem clean_head : ∀ p ∈ head, p.Clean := by
  have hstyle : (Piece.plain (String.join (style.map (· ++ "\n")))).Clean := by
    intro hmem
    rw [String.toList_join, List.flatMap_map] at hmem
    obtain ⟨line, hline, hmem⟩ := List.mem_flatMap.mp hmem
    simp [notMem_style line hline] at hmem
  -- only the style is too long to be evaluated
  have hsplit : head =
      head.take 20 ++ .plain (String.join (style.map (· ++ "\n"))) :: head.drop 21 := rfl
  rw [hsplit, List.forall_mem_append, List.forall_mem_cons]
  exact ⟨by decide +kernel, hstyle, by decide +kernel⟩

theorem clean_foot : ∀ p ∈ foot, p.Clean := by
  decide

theorem clean_pieces (r : Report) : ∀ p ∈ pieces r, p.Clean := by
  rw [pieces, List.forall_mem_append, List.forall_mem_append]
  exact ⟨⟨clean_head, clean_content r⟩, clean_foot⟩

/-- What is read from a rendered report are the tags and characters of its pieces. -/
theorem tokens_render (r : Report) : tokens (render r) = (pieces r).flatMap Piece.tokens :=
  tokens_join (clean_pieces r)

end PageAudit.Report.Html
