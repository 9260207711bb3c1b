import PageAudit.Proofs.Check.Verdict
import PageAudit.Proofs.Report.Aggregation

/-!
# Forbidden words

The words that give an error away are the known ones and then the custom ones, each named where it
comes first. A page passes when none of them occurs, and is otherwise told which ones do. How the
custom words are ordered, repeated or spaced makes no difference to that, and more of them only make
more pages fail.
-/

namespace PageAudit.Check

open Recognition (Result)
open Report (eraseDups_concat nodup_eraseDups)

variable {r : Result} {custom more : List String}

/-! ## The words sought -/

/-- The custom words that are not blank, trimmed and in lower case. -/
def customWords (custom : List String) : List String :=
  (custom.filter (!Text.isBlankText ·)).map normalize

/-- The known words and then the custom ones, without those equal to an earlier one. -/
def soughtWords (custom : List String) : List String :=
  (errorKeywords ++ customWords custom).eraseDups

theorem customWords_of_blank {word : String} (h : Text.isBlankText word = true) (rest : List String) :
    customWords (word :: rest) = customWords rest := by
  simp [customWords, h]

theorem customWords_of_not_blank {word : String} (h : Text.isBlankText word = false)
    (rest : List String) : customWords (word :: rest) = normalize word :: customWords rest := by
  simp [customWords, h]

theorem mem_customWords {k : String} :
    k ∈ customWords custom ↔ ∃ word ∈ custom, Text.isBlankText word = false ∧ normalize word = k := by
  simp [customWords, and_assoc]

theorem mem_soughtWords {k : String} :
    k ∈ soughtWords custom ↔ k ∈ errorKeywords ∨ k ∈ customWords custom := by
  rw [soughtWords, List.mem_eraseDups, List.mem_append]

theorem nodup_soughtWords (custom : List String) : (soughtWords custom).Nodup :=
  nodup_eraseDups _

/-- The words found so far are the first appearances in what has been gone through, and going through
the rest keeps it that way. -/
theorem addKeywords_eraseDups (seen custom : List String) :
    addKeywords seen.eraseDups custom = (seen ++ customWords custom).eraseDups := by
  induction custom generalizing seen with
  | nil => simp [addKeywords, customWords]
  | cons word rest ih =>
      rw [addKeywords]
      cases hblank : Text.isBlankText word with
      | true =>
          rw [normalize_eq_empty_iff.mpr hblank, customWords_of_blank hblank]
          exact ih seen
      | false =>
          have hword : (normalize word).isEmpty = false := by
            rw [← Bool.not_eq_true, String.isEmpty_iff, normalize_eq_empty_iff, hblank]
            exact Bool.false_ne_true
          have hseen := eraseDups_concat seen (normalize word)
          have hsought : seen ++ customWords (word :: rest) =
              (seen ++ [normalize word]) ++ customWords rest := by
            rw [customWords_of_not_blank hblank, List.append_cons]
          rw [hsought, ← ih, hword, Bool.false_or]
          by_cases hmem : normalize word ∈ seen.eraseDups
          · rw [if_pos (List.contains_iff_mem.mpr hmem), hseen, if_pos hmem]
          · rw [if_neg (mt List.contains_iff_mem.mp hmem), hseen, if_neg hmem]

theorem addKeywords_errorKeywords (custom : List String) :
    addKeywords errorKeywords custom = soughtWords custom := by
  have hknown : errorKeywords.eraseDups = errorKeywords := by decide
  rw [soughtWords, ← addKeywords_eraseDups, hknown]

/-! ## Words that come down to the same -/

/-- Lists of words that differ in their order, in repeated words, in the blanks at the ends of words,
and in blank words. -/
inductive Alike : List String → List String → Prop
  | reordered {xs ys : List String} : xs.Perm ys → Alike xs ys
  | repeated {word : String} {xs : List String} : word ∈ xs → Alike (word :: xs) xs
  | spaced {front back : String} (word : String) (xs : List String) :
      Text.isBlankText front = true → Text.isBlankText back = true →
        Alike ((front ++ word ++ back) :: xs) (word :: xs)
  | blank {word : String} (xs : List String) : Text.isBlankText word = true → Alike (word :: xs) xs
  | symm {xs ys : List String} : Alike xs ys → Alike ys xs
  | trans {xs ys zs : List String} : Alike xs ys → Alike ys zs → Alike xs zs

theorem normalize_between {front back : String} (hfront : Text.isBlankText front = true)
    (hback : Text.isBlankText back = true) (word : String) :
    normalize (front ++ word ++ back) = normalize word := by
  rw [normalize, Text.trim_between hfront hback, normalize]

theorem Alike.mem_customWords_iff {xs ys : List String} (h : Alike xs ys) (k : String) :
    k ∈ customWords xs ↔ k ∈ customWords ys := by
  induction h with
  | reordered h => exact ((h.filter _).map _).mem_iff
  | @repeated word xs h =>
      simp only [mem_customWords, List.exists_mem_cons_iff]
      constructor
      · rintro (hk | hk)
        · exact ⟨word, h, hk⟩
        · exact hk
      · exact Or.inr
  | spaced word xs hfront hback =>
      simp [mem_customWords, normalize_between hfront hback, hfront, hback]
  | blank xs h => rw [customWords_of_blank h]
  | symm _ ih => exact ih.symm
  | trans _ _ ih ih' => exact ih.trans ih'

/-! ## Verdicts -/

theorem forbiddenTexts_message (h : r.isFailed = false)
    (hpassed : (forbiddenTexts r custom).passed = false) :
    (forbiddenTexts r custom).message =
      "Error text found: " ++ Text.quotedList (occurring r (soughtWords custom)) := by
  simp only [forbiddenTexts, h, addKeywords_errorKeywords, conclude, Bool.false_eq_true,
    ↓reduceIte] at hpassed ⊢
  rw [hpassed, if_neg Bool.false_ne_true]

theorem forbiddenTexts_passed_iff_sought (h : r.isFailed = false) :
    (forbiddenTexts r custom).passed = true ↔ ∀ word ∈ soughtWords custom, ¬ Occurs r word := by
  rw [forbiddenTexts_passed_iff h, addKeywords_errorKeywords]

theorem Alike.passed_eq (hr : r.isFailed = false) (h : Alike custom more) :
    (forbiddenTexts r custom).passed = (forbiddenTexts r more).passed := by
  rw [Bool.eq_iff_iff, forbiddenTexts_passed_iff_sought hr, forbiddenTexts_passed_iff_sought hr]
  simp only [mem_soughtWords, h.mem_customWords_iff]

theorem passed_of_subset (hr : r.isFailed = false) (h : custom ⊆ more)
    (hpassed : (forbiddenTexts r more).passed = true) : (forbiddenTexts r custom).passed = true := by
  rw [forbiddenTexts_passed_iff_sought hr] at hpassed ⊢
  intro word hword
  apply hpassed
  rw [mem_soughtWords, mem_customWords] at hword ⊢
  refine hword.imp_right ?_
  rintro ⟨keyword, hmem, hkeyword⟩
  exact ⟨keyword, h hmem, hkeyword⟩

/-- A recognized page passes exactly when none of the words sought occurs in it. Otherwise the message
quotes those that do, each once and in the order in which they are sought. -/
theorem forbiddenTexts_reports_sought (r : Result) (h : r.isFailed = false) (custom : List String) :
    (soughtWords custom).Nodup ∧
    ((forbiddenTexts r custom).passed = true ↔ ∀ word ∈ soughtWords custom, ¬ Occurs r word) ∧
    ((forbiddenTexts r custom).passed = false → ∃ found : List String,
      found.Sublist (soughtWords custom) ∧
      (∀ word, word ∈ found ↔ word ∈ soughtWords custom ∧ Occurs r word) ∧
      (forbiddenTexts r custom).message =
        "Error text found: " ++ ", ".intercalate (found.map fun word => "'" ++ word ++ "'")) ∧
    (∀ more, Alike custom more → (forbiddenTexts r more).passed = (forbiddenTexts r custom).passed) ∧
    (∀ more, custom ⊆ more → (forbiddenTexts r custom).passed = false →
      (forbiddenTexts r more).passed = false) := by
  refine ⟨nodup_soughtWords custom, forbiddenTexts_passed_iff_sought h, ?_, ?_, ?_⟩
  · intro hpassed
    exact ⟨occurring r (soughtWords custom), List.filter_sublist, fun word => mem_occurring,
      forbiddenTexts_message h hpassed⟩
  · intro more halike
    exact (halike.passed_eq h).symm
  · intro more hsubset hpassed
    rw [← Bool.not_eq_true] at hpassed ⊢
    exact mt (passed_of_subset h hsubset) hpassed

/-- A known word and a blank one add nothing to the custom words, and blanks around a word change
nothing. -/
theorem quota_reported_among_known_words :
    let r := Result.completed "Quota Exceeded: error 500" .one []
    let custom := ["  ", " Quota Exceeded", "Error"]
    r.isFailed = false ∧ soughtWords custom = errorKeywords ++ ["quota exceeded"] ∧
      (forbiddenTexts r custom).message = "Error text found: 'error', '500', 'quota exceeded'" ∧
      Alike custom ["Quota Exceeded", "Error"] ∧
      (forbiddenTexts r ["Quota Exceeded", "Error"]).passed = false := by
  intro r custom
  have hr : r.isFailed = false := by decide
  have hsought : soughtWords custom = errorKeywords ++ ["quota exceeded"] := by decide +kernel
  have hmessage : (forbiddenTexts r custom).message =
      "Error text found: 'error', '500', 'quota exceeded'" := by decide +kernel
  have hpassed : (forbiddenTexts r custom).passed = false := by decide +kernel
  have hspaced : Alike [" " ++ "Quota Exceeded" ++ "", "Error"] ["Quota Exceeded", "Error"] :=
    .spaced "Quota Exceeded" ["Error"] (by decide) (by decide)
  have halike : Alike custom ["Quota Exceeded", "Error"] := .trans (.blank _ (by decide)) hspaced
  obtain ⟨-, -, -, hsame, -⟩ := forbiddenTexts_reports_sought r hr custom
  exact ⟨hr, hsought, hmessage, halike, (hsame _ halike).trans hpassed⟩

end PageAudit.Check
