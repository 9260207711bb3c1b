import PageAudit.Text.Blank
import PageAudit.Text.Case

/-!
# The words of a text

Every word of a text occurs in it, so whatever holds a text holds all of its words, however they are
separated. There are at most as many words as characters. What occurs in a text and has no blank lies
within one of its words.
-/

namespace PageAudit.Text

variable {p : Char → Bool} {cs word piece : List Char} {more : List (List Char)}

theorem piecesAt_nil (p : Char → Bool) : piecesAt p [] = [[]] := rfl

theorem piecesAt_ne_nil (p : Char → Bool) (cs : List Char) : piecesAt p cs ≠ [] := by
  cases cs with
  | nil => simp [piecesAt]
  | cons c rest =>
      rw [piecesAt]
      cases p c <;> cases piecesAt p rest <;> simp

/-- The first piece either ends at a cut or takes one more character than it does in the rest. -/
theorem piecesAt_cons (p : Char → Bool) (c : Char) (rest : List Char) :
    ∃ piece more, piecesAt p rest = piece :: more ∧
      (p c = true ∧ piecesAt p (c :: rest) = [] :: piece :: more ∨
        p c = false ∧ piecesAt p (c :: rest) = (c :: piece) :: more) := by
  obtain ⟨piece, more, hrest⟩ := List.exists_cons_of_ne_nil (piecesAt_ne_nil p rest)
  refine ⟨piece, more, hrest, ?_⟩
  rw [piecesAt, hrest]
  cases p c with
  | true => exact Or.inl ⟨rfl, rfl⟩
  | false => exact Or.inr ⟨rfl, rfl⟩

/-- The first piece begins the text, and all others lie within it. -/
theorem piecesAt_infix {piece : List Char} {more : List (List Char)}
    (h : piecesAt p cs = piece :: more) : piece <+: cs ∧ ∀ word ∈ more, word <:+: cs := by
  induction cs generalizing piece more with
  | nil =>
      cases h
      exact ⟨List.prefix_rfl, List.forall_mem_nil _⟩
  | cons c rest ih =>
      obtain ⟨first, others, hrest, ⟨-, hcut⟩ | ⟨-, hlonger⟩⟩ := piecesAt_cons p c rest
      · obtain ⟨hfirst, hothers⟩ := ih hrest
        cases hcut.symm.trans h
        refine ⟨List.nil_prefix, List.forall_mem_cons.mpr ⟨?_, fun word hword => ?_⟩⟩
        · exact List.infix_cons hfirst.isInfix
        · exact List.infix_cons (hothers word hword)
      · obtain ⟨hfirst, hothers⟩ := ih hrest
        cases hlonger.symm.trans h
        refine ⟨?_, fun word hword => List.infix_cons (hothers word hword)⟩
        exact List.cons_prefix_cons.mpr ⟨rfl, hfirst⟩

/-- Every word of a text occurs in it. -/
theorem infix_of_mem_words (h : word ∈ words cs) : word <:+: cs := by
  obtain ⟨piece, more, hpieces⟩ := List.exists_cons_of_ne_nil (piecesAt_ne_nil isBlank cs)
  obtain ⟨hpiece, hmore⟩ := piecesAt_infix hpieces
  have hmem := (List.mem_filter.mp h).1
  rw [hpieces] at hmem
  rcases List.mem_cons.mp hmem with rfl | hmem
  · exact hpiece.isInfix
  · exact hmore word hmem

/-- There are at most as many words as characters. -/
theorem length_words_le (cs : List Char) : (words cs).length ≤ cs.length := by
  induction cs with
  | nil => exact Nat.le_refl 0
  | cons c rest ih =>
      obtain ⟨piece, more, hrest, ⟨-, hcut⟩ | ⟨-, hlonger⟩⟩ := piecesAt_cons isBlank c rest
      · rw [words, hcut]
        rw [words, hrest] at ih
        exact Nat.le_succ_of_le ih
      · have hmore :
            (more.filter (!·.isEmpty)).length ≤ ((piece :: more).filter (!·.isEmpty)).length :=
          ((List.sublist_cons_self piece more).filter _).length_le
        rw [words, hrest] at ih
        rw [words, hlonger]
        exact Nat.succ_le_succ (Nat.le_trans hmore ih)

/-! ## Parts without blanks -/

/-- What follows the first piece begins with a cut. -/
theorem exists_rest_of_piecesAt (h : piecesAt p cs = piece :: more) :
    ∃ rest, cs = piece ++ rest ∧ ∀ c ∈ rest.head?, p c = true := by
  induction cs generalizing piece more with
  | nil =>
      cases h
      exact ⟨[], by simp⟩
  | cons c cs ih =>
      obtain ⟨first, others, hcs, ⟨hc, hcut⟩ | ⟨hc, hlonger⟩⟩ := piecesAt_cons p c cs
      · cases hcut.symm.trans h
        exact ⟨c :: cs, by simp [hc]⟩
      · cases hlonger.symm.trans h
        obtain ⟨rest, heq, hrest⟩ := ih hcs
        exact ⟨rest, by rw [heq, List.cons_append], hrest⟩

theorem not_cut_of_mem_piece (hpiece : piece ∈ piecesAt p cs) : ∀ c ∈ piece, p c = false := by
  induction cs generalizing piece with
  | nil =>
      cases List.mem_singleton.mp hpiece
      simp
  | cons c cs ih =>
      obtain ⟨first, others, hcs, ⟨hc, hcut⟩ | ⟨hc, hlonger⟩⟩ := piecesAt_cons p c cs
      · rw [hcut, List.mem_cons] at hpiece
        rcases hpiece with rfl | hpiece
        · simp
        · exact ih (hcs ▸ hpiece)
      · rw [hlonger, List.mem_cons] at hpiece
        rcases hpiece with rfl | hpiece
        · have hfirst := ih (hcs ▸ List.mem_cons_self)
          simpa [hc] using hfirst
        · exact ih (hcs ▸ List.mem_cons_of_mem _ hpiece)

/-- Characters that cut nothing only make the first piece longer. -/
theorem piecesAt_append {low : List Char} (hlow : ∀ c ∈ low, p c = false)
    (h : piecesAt p cs = piece :: more) : piecesAt p (low ++ cs) = (low ++ piece) :: more := by
  induction low with
  | nil => exact h
  | cons c low ih =>
      rw [List.forall_mem_cons] at hlow
      simp [piecesAt, hlow.1, ih hlow.2]

/-- A part of a text that has no cut lies within a piece, and within the first one if it begins the
text. -/
theorem uncut_within_piece (hword : ∀ c ∈ word, p c = false) (h : piecesAt p cs = piece :: more) :
    (word <+: cs → word <+: piece) ∧ (word <:+: cs → ∃ other ∈ piece :: more, word <:+: other) := by
  induction cs generalizing word piece more with
  | nil =>
      cases h
      simp
  | cons c cs ih =>
      obtain ⟨first, others, hcs, ⟨hc, hcut⟩ | ⟨hc, hlonger⟩⟩ := piecesAt_cons p c cs
      · cases hcut.symm.trans h
        have hbegin : word <+: c :: cs → word <+: [] := by
          intro hbegins
          cases word with
          | nil => exact List.prefix_rfl
          | cons d word =>
              rw [List.cons_prefix_cons] at hbegins
              simp [hbegins.1, hc] at hword
        refine ⟨hbegin, fun hinfix => ?_⟩
        rcases List.infix_cons_iff.mp hinfix with hbegins | hinfix
        · exact ⟨[], List.mem_cons_self, (hbegin hbegins).isInfix⟩
        · obtain ⟨other, hother, hin⟩ := (ih hword hcs).2 hinfix
          exact ⟨other, List.mem_cons_of_mem _ hother, hin⟩
      · cases hlonger.symm.trans h
        have hbegin : word <+: c :: cs → word <+: c :: first := by
          intro hbegins
          cases word with
          | nil => exact List.nil_prefix
          | cons d word =>
              rw [List.cons_prefix_cons] at hbegins ⊢
              rw [List.forall_mem_cons] at hword
              exact ⟨hbegins.1, (ih hword.2 hcs).1 hbegins.2⟩
        refine ⟨hbegin, fun hinfix => ?_⟩
        rcases List.infix_cons_iff.mp hinfix with hbegins | hinfix
        · exact ⟨c :: first, List.mem_cons_self, (hbegin hbegins).isInfix⟩
        · obtain ⟨other, hother, hin⟩ := (ih hword hcs).2 hinfix
          rcases List.mem_cons.mp hother with rfl | hother
          · exact ⟨c :: other, List.mem_cons_self, List.infix_cons hin⟩
          · exact ⟨other, List.mem_cons_of_mem _ hother, hin⟩

theorem mem_words_iff : word ∈ words cs ↔ word ∈ piecesAt isBlank cs ∧ word ≠ [] := by
  simp [words]

theorem not_isBlank_of_mem_words (h : word ∈ words cs) : ∀ c ∈ word, isBlank c = false :=
  not_cut_of_mem_piece (mem_words_iff.mp h).1

/-- A part of a text that has no blank lies within a word. -/
theorem exists_word_around (hne : word ≠ []) (hword : ∀ c ∈ word, isBlank c = false)
    (h : word <:+: cs) : ∃ longer ∈ words cs, word <:+: longer := by
  obtain ⟨piece, more, hpieces⟩ := List.exists_cons_of_ne_nil (piecesAt_ne_nil isBlank cs)
  obtain ⟨longer, hlonger, hin⟩ := (uncut_within_piece hword hpieces).2 h
  refine ⟨longer, mem_words_iff.mpr ⟨hpieces ▸ hlonger, ?_⟩, hin⟩
  rintro rfl
  exact hne (List.infix_nil.mp hin)

theorem words_eq_self (hne : word ≠ []) (hword : ∀ c ∈ word, isBlank c = false) :
    words word = [word] := by
  have hpieces := piecesAt_append hword (piecesAt_nil isBlank)
  simp only [List.append_nil] at hpieces
  simp [words, hpieces, hne]

/-! ## Lower-cased texts -/

/-- A character becomes at most two. -/
theorem length_lowerChar_le (c : Char) : (lowerChar c).length ≤ 2 := by
  unfold lowerChar
  split
  · exact Nat.le_succ 1
  · split
    · exact Nat.le_refl 2
    · split <;> exact Nat.le_succ 1

theorem length_lowerAfter_le (before cs : List Char) :
    (lowerAfter before cs).length ≤ 2 * cs.length := by
  induction cs generalizing before with
  | nil => exact Nat.le_refl 0
  | cons c rest ih =>
      have hfirst : (if c = 'Σ' then [lowerSigma before rest] else lowerChar c).length ≤ 2 := by
        split
        · exact Nat.le_succ 1
        · exact length_lowerChar_le c
      have hrest := ih (c :: before)
      rw [lowerAfter, List.length_append, List.length_cons]
      omega

/-- A lower-cased text has at most two words for each character. -/
theorem length_words_lower_le (s : String) : (words (lower s).toList).length ≤ 2 * s.length := by
  have hwords := length_words_le (lower s).toList
  have hlower := length_lowerAfter_le [] s.toList
  rw [lower, String.toList_ofList] at hwords ⊢
  rw [String.length_toList] at hlower
  exact Nat.le_trans hwords hlower

end PageAudit.Text
