import PageAudit.Proofs.Check.Matches
import PageAudit.Proofs.Text.Casing

/-!
# Matches within longer texts

A page may show more than the text in which something was found. The words that were found are found
again if the words of the text are, and these keep their lower-case form unless the text begins or ends
with a capital sigma that now stands elsewhere in a word.
-/

namespace PageAudit

namespace Matching

variable {text text' sought : String} {tolerance : Double} {word : List Char}

/-! ## Found words -/

/-- Where no word is lost, no smaller fraction is found. -/
theorem ratio_le (hsize : sought.length < 2 ^ 63)
    (h : ∀ word ∈ Text.words (Text.lower sought).toList,
      word <:+: (Text.lower text).toList → word <:+: (Text.lower text').toList) :
    (ratio text sought).units ≤ (ratio text' sought).units := by
  have hlength := length_soughtWords_lt hsize
  rw [ratio, ratio, wordRatio, wordRatio]
  split
  · exact Int.le_refl _
  · next hwords =>
      have hpos := List.length_pos_iff.mpr (mt List.isEmpty_iff.mpr hwords)
      refine Double.fraction_le ?_ (List.length_filter_le ..) hpos hlength
      rw [foundWords, foundWords, ← List.countP_eq_length_filter, ← List.countP_eq_length_filter]
      refine List.countP_mono_left fun word hword hfound => ?_
      rw [Text.occursIn_iff] at hfound ⊢
      exact h word hword hfound

theorem isMatch_of_words_occur (hsize : sought.length < 2 ^ 63) (htolerance : tolerance ≠ .nan)
    (hoccur : ∀ word ∈ Text.words text.toList,
      Text.contains (Text.lower text') (Text.lower (String.ofList word)) = true)
    (h : isMatch text sought .partially tolerance = true) :
    isMatch text' sought .partially tolerance = true := by
  rw [isMatch_partially_iff hsize htolerance] at h ⊢
  refine h.trans (ratio_le hsize fun word hword hfound => ?_)
  -- the word that was found lies within a word of the text
  obtain ⟨longer, hlonger, hin⟩ := Text.exists_word_around (Text.mem_words_iff.mp hword).2
    (Text.not_isBlank_of_mem_words hword) hfound
  rw [Text.words_lower, List.mem_map] at hlonger
  obtain ⟨whole, hwhole, rfl⟩ := hlonger
  have hmore := Text.contains_iff.mp (hoccur whole hwhole)
  rw [Text.lower, String.toList_ofList, String.toList_ofList] at hmore
  exact hin.trans hmore

/-- A single word is found entirely or not at all. -/
theorem isMatch_word_iff (hne : word ≠ []) (hword : ∀ c ∈ word, Text.isBlank c = false) :
    isMatch text (String.ofList word) .partially .one = true ↔
      Text.contains (Text.lower text) (Text.lower (String.ofList word)) = true := by
  rw [isMatch, Bool.or_eq_true]
  refine or_iff_left_of_imp fun hratio => ?_
  cases hfound : Text.contains (Text.lower text) (Text.lower (String.ofList word)) with
  | true => rfl
  | false =>
      have hwords : Text.words (Text.lower (String.ofList word)).toList =
          [(Text.lower (String.ofList word)).toList] := by
        rw [Text.words_lower, String.toList_ofList, Text.words_eq_self hne hword, List.map_singleton,
          Text.lower, String.toList_ofList, String.toList_ofList]
      have hnone : ratio text (String.ofList word) = .fraction 0 1 := by
        rw [Text.contains] at hfound
        simp [ratio, hwords, wordRatio, foundWords, hfound]
      have hzero : (Double.one.clamp .zero .one).le (.fraction 0 1) = false := by decide +kernel
      rw [hnone, hzero] at hratio
      cases hratio

/-- The words of a text are found in it, each lower-cased by itself. -/
theorem word_occurs (hword : word ∈ Text.words text.toList) :
    Text.contains (Text.lower text) (Text.lower (String.ofList word)) = true := by
  have hlower : Text.lowerAfter [] word ∈ Text.words (Text.lower text).toList := by
    rw [Text.words_lower]
    exact List.mem_map_of_mem hword
  rw [Text.contains_iff, Text.lower, String.toList_ofList, String.toList_ofList]
  exact Text.infix_of_mem_words hlower

/-- Where no match is lost, no word is, for a word is a match by itself. -/
theorem word_occurs_of_kept (hsize : text.length < 2 ^ 63) (hword : word ∈ Text.words text.toList)
    (hkept : ∀ sought tolerance, sought.length < 2 ^ 63 → tolerance ≠ .nan →
      isMatch text sought .partially tolerance = true →
        isMatch text' sought .partially tolerance = true) :
    Text.contains (Text.lower text') (Text.lower (String.ofList word)) = true := by
  have hblank := Text.not_isBlank_of_mem_words hword
  have hne := (Text.mem_words_iff.mp hword).2
  have hlength : (String.ofList word).length < 2 ^ 63 := by
    have hle := (Text.infix_of_mem_words hword).length_le
    rw [String.length_toList] at hle
    rw [String.length_ofList]
    omega
  rw [← isMatch_word_iff hne hblank]
  exact hkept _ .one hlength nofun ((isMatch_word_iff hne hblank).mpr (word_occurs hword))

/-! ## Texts around a text -/

/-- A text whose sigmas keep their forms is found whole, in lower case. -/
theorem contains_of_keepsSigmas {before after : String}
    (h : Text.KeepsSigmas before.toList text.toList after.toList) :
    Text.contains (Text.lower (before ++ text ++ after)) (Text.lower text) = true := by
  rw [← Text.lowerBetween_eq_lowerAfter_iff] at h
  rw [Text.contains_iff, Text.lower, Text.lower, String.toList_ofList, String.toList_ofList,
    String.toList_append, String.toList_append, List.append_assoc, Text.lowerAfter_append,
    Text.lowerAfter_append, List.append_nil, h]
  exact List.infix_append' _ _ _

/-- With more text around it no match is lost exactly if every word still occurs. So it is where the
capital sigmas of the text keep their forms, and there the text itself is found at every tolerance. They
do if the text has none of them, or if no letter stands next to it. Texts that fit into memory have less
than `2 ^ 63` characters. -/
theorem longer_text_keeps_matches_iff (before text after : String) (hsize : text.length < 2 ^ 63) :
    let longer := before ++ text ++ after
    ((∀ sought tolerance, sought.length < 2 ^ 63 → tolerance ≠ .nan →
        isMatch text sought .partially tolerance = true →
          isMatch longer sought .partially tolerance = true) ↔
      ∀ word ∈ Text.words text.toList,
        Text.contains (Text.lower longer) (Text.lower (String.ofList word)) = true) ∧
    (Text.KeepsSigmas before.toList text.toList after.toList →
      (∀ word ∈ Text.words text.toList,
        Text.contains (Text.lower longer) (Text.lower (String.ofList word)) = true) ∧
      ∀ tolerance, isMatch longer text .partially tolerance = true) ∧
    ('Σ' ∉ text.toList ∨ Text.casedAhead before.toList.reverse = false ∧
        Text.casedAhead after.toList = false →
      Text.KeepsSigmas before.toList text.toList after.toList) := by
  intro longer
  refine ⟨⟨?_, ?_⟩, ?_, ?_⟩
  · intro hkept word hword
    exact word_occurs_of_kept hsize hword hkept
  · intro hoccur sought tolerance hsought htolerance h
    exact isMatch_of_words_occur hsought htolerance hoccur h
  · intro hkeeps
    have hwhole := contains_of_keepsSigmas hkeeps
    refine ⟨fun word hword => ?_, fun tolerance => ?_⟩
    · rw [Text.contains_iff] at hwhole ⊢
      exact (Text.contains_iff.mp (word_occurs hword)).trans hwhole
    · rw [isMatch, hwhole, Bool.true_or]
  · rintro (hnone | ⟨hbefore, hafter⟩)
    · exact Text.keepsSigmas_of_notMem hnone _ _
    · exact Text.keepsSigmas_of_not_cased hbefore hafter _

/-- The sun that sets is found wherever the sun is found. -/
theorem sun_found_when_setting : "ΗΛΙΟΣ".length < 2 ^ 63 ∧
    ∀ sought tolerance, sought.length < 2 ^ 63 → tolerance ≠ .nan →
      isMatch "ΗΛΙΟΣ" sought .partially tolerance = true →
        isMatch ("Ο " ++ "ΗΛΙΟΣ" ++ " ΔΥΕΙ") sought .partially tolerance = true := by
  have hsize : "ΗΛΙΟΣ".length < 2 ^ 63 := by decide
  obtain ⟨hiff, hkept, hedges⟩ := longer_text_keeps_matches_iff "Ο " "ΗΛΙΟΣ" " ΔΥΕΙ" hsize
  have hapart : Text.casedAhead "Ο ".toList.reverse = false ∧
      Text.casedAhead " ΔΥΕΙ".toList = false := by decide +kernel
  have hwords := (hkept (hedges (Or.inr hapart))).1
  exact ⟨hsize, hiff.mpr hwords⟩

/-- The sun is lost in the solstice, where its last letter is an inner one. -/
theorem sun_lost_in_solstice : defaultTolerance ≠ .nan ∧
    isMatch "ΗΛΙΟΣ" "ΗΛΙΟΣ" .partially defaultTolerance = true ∧
      isMatch ("" ++ "ΗΛΙΟΣ" ++ "ΤΑΣΙΟ") "ΗΛΙΟΣ" .partially defaultTolerance = false := by
  refine ⟨?_, ?_, ?_⟩ <;> decide +kernel

end Matching

end PageAudit
