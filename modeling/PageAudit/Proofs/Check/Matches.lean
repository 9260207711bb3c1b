import PageAudit.Check.Evaluate
import PageAudit.Proofs.Number.Values
import PageAudit.Proofs.Text.Search
import PageAudit.Proofs.Text.Words

/-!
# Partial matches

A text that occurs as a whole is found without counting its words. Counting would have found all of them,
so that a partial match is a comparison of the fraction of found words with the tolerance, and nothing
else.
-/

namespace PageAudit

namespace Matching

variable {text sought : String} {tolerance : Double}

section

variable (hsize : sought.length < 2 ^ 63)
include hsize

theorem length_soughtWords_lt : (Text.words (Text.lower sought).toList).length < 2 ^ 64 := by
  have := Text.length_words_lower_le sought
  omega

/-- A text has the ratio one if all of its words are found. -/
theorem ratio_of_words_occur (h : ∀ word ∈ Text.words (Text.lower sought).toList,
    Text.occursIn word (Text.lower text).toList = true) : ratio text sought = .one := by
  have hfound : foundWords (Text.lower text).toList (Text.words (Text.lower sought).toList) =
      Text.words (Text.lower sought).toList := List.filter_eq_self.mpr h
  rw [ratio, wordRatio, hfound]
  split
  · rfl
  · next hwords =>
      have hpos := List.length_pos_iff.mpr (mt List.isEmpty_iff.mpr hwords)
      exact Double.fraction_self hpos (length_soughtWords_lt hsize)

/-- If the whole of a text occurs, so do all of its words. -/
theorem ratio_of_contains (h : Text.contains (Text.lower text) (Text.lower sought) = true) :
    ratio text sought = .one := by
  refine ratio_of_words_occur hsize fun word hword => ?_
  exact Text.occursIn_iff.mpr ((Text.infix_of_mem_words hword).trans (Text.contains_iff.mp h))

theorem ratio_ne_nan (text : String) : ratio text sought ≠ .nan := by
  have hlength := length_soughtWords_lt hsize
  rw [ratio, wordRatio]
  split
  · rintro ⟨⟩
  · next hwords =>
      have hpos := List.length_pos_iff.mpr (mt List.isEmpty_iff.mpr hwords)
      obtain ⟨m, hm, -⟩ := Double.exists_fraction (List.length_filter_le ..) hpos hlength
      rw [foundWords, hm]
      rintro ⟨⟩

theorem isMatch_partially_iff (htolerance : tolerance ≠ .nan) (text : String) :
    isMatch text sought .partially tolerance = true ↔
      (tolerance.clamp .zero .one).units ≤ (ratio text sought).units := by
  obtain ⟨hclamp, hone⟩ := Double.clamp_spec htolerance
  rw [← Double.le_iff hclamp (ratio_ne_nan hsize text), isMatch, Bool.or_eq_true]
  refine or_iff_right_of_imp fun h => ?_
  rwa [ratio_of_contains hsize h]

end

theorem isMatch_partially_of_exact (h : isMatch text sought .exact tolerance = true)
    (other : Double) : isMatch text sought .partially other = true := by
  rw [isMatch, beq_iff_eq] at h
  rw [isMatch, Bool.or_eq_true, h]
  exact Or.inl (Text.contains_iff.mpr List.infix_rfl)

end Matching

/-- A title check that fails has not found the title, and tells the fraction of its words. -/
theorem Check.title_of_failed {r : Recognition.Result} {expected : String} {tolerance : Double}
    (h : (title r expected tolerance).passed = false) :
    Matching.isMatch r.rawText expected .partially tolerance = false ∧
      (title r expected tolerance).message = "Title '" ++ expected ++ "' not found (word match " ++
        ((Matching.ratio r.rawText expected).mul (.ofNat 100)).fixed 0 ++ "%)" := by
  rw [title] at h ⊢
  split at h
  · cases h
  · next hcompleted =>
      have hmissed : isFound r tolerance expected = false := h
      rw [if_neg hcompleted, hmissed]
      exact ⟨hmissed, rfl⟩

namespace Matching

/-- A partial match is found exactly if the fraction of found words is at least the tolerance, both as
exact values. So the whole of a text has all of its words, an exact match is a partial one at every
tolerance, and a title check that fails tells a fraction below the tolerance. A text that fits into memory
has less than `2 ^ 63` characters. -/
theorem partial_match_compares_ratio (text sought : String) (tolerance : Double)
    (htolerance : tolerance ≠ .nan) (hsize : sought.length < 2 ^ 63) :
    (isMatch text sought .partially tolerance = true ↔
      (tolerance.clamp .zero .one).units ≤ (ratio text sought).units) ∧
    (Text.contains (Text.lower text) (Text.lower sought) = true → ratio text sought = .one) ∧
    (isMatch text sought .exact tolerance = true →
      ∀ other, isMatch text sought .partially other = true) ∧
    ∀ r : Recognition.Result, r.rawText = text →
      (Check.title r sought tolerance).passed = false →
        (Check.title r sought tolerance).message = "Title '" ++ sought ++
          "' not found (word match " ++ ((ratio text sought).mul (.ofNat 100)).fixed 0 ++ "%)" ∧
        (ratio text sought).units < (tolerance.clamp .zero .one).units := by
  have hiff := isMatch_partially_iff hsize htolerance text
  refine ⟨hiff, ratio_of_contains hsize, isMatch_partially_of_exact, ?_⟩
  rintro r rfl hfailed
  obtain ⟨hmissed, hmessage⟩ := Check.title_of_failed hfailed
  refine ⟨hmessage, Int.not_le.mp fun hle => ?_⟩
  rw [hiff.mpr hle] at hmissed
  cases hmissed

/-- One of two words is found, which is too few. -/
theorem half_of_title_found : defaultTolerance ≠ .nan ∧ "Quality monitoring".length < 2 ^ 63 ∧
    let r := Recognition.Result.completed "quality rules: 3 open" .one []
    (Check.title r "Quality monitoring" defaultTolerance).message =
        "Title 'Quality monitoring' not found (word match 50%)" ∧
      (ratio r.rawText "Quality monitoring").units < (defaultTolerance.clamp .zero .one).units := by
  have htolerance : defaultTolerance ≠ .nan := by decide +kernel
  have hsize : "Quality monitoring".length < 2 ^ 63 := by decide
  refine ⟨htolerance, hsize, ?_⟩
  intro r
  obtain ⟨-, -, -, htitle⟩ :=
    partial_match_compares_ratio r.rawText "Quality monitoring" defaultTolerance htolerance hsize
  obtain ⟨hmessage, hbelow⟩ := htitle r rfl (by decide +kernel)
  exact ⟨hmessage.trans (by decide +kernel), hbelow⟩

end Matching

end PageAudit
