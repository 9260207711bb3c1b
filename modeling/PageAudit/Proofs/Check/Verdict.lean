import PageAudit.Check.Evaluate
import PageAudit.Proofs.Text.Blank
import PageAudit.Proofs.Text.Search

/-!
# What the outcome of a check means

For a completed recognition every check has a meaning on the recognized text (`Spec.Holds`), and the
check passes exactly when it holds. For a failed recognition the outcome is known beforehand: the
success message fails and every other check passes.
-/

namespace PageAudit.Check

open Recognition (Result)

variable {r : Result}

/-! ## The meaning of a check -/

/-- The keyword stands in the recognized text, which is taken in lower case. -/
def Occurs (r : Result) (keyword : String) : Prop :=
  keyword.toList <:+: (Text.lower r.rawText).toList

def Spec.Holds (r : Result) : Spec → Prop
  | .title expected tolerance => isFound r tolerance expected = true
  | .requiredTexts texts .all tolerance => ∀ text ∈ texts, isFound r tolerance text = true
  | .requiredTexts texts .any tolerance =>
      texts = [] ∨ ∃ text ∈ texts, isFound r tolerance text = true
  | .forbiddenTexts custom =>
      (∀ word ∈ errorKeywords, ¬ Occurs r word) ∧
        ∀ word ∈ custom, Text.isBlankText word = false → ¬ Occurs r (normalize word)
  | .successMessage keywords =>
      (∃ word ∈ keywords, Text.isBlankText word = false ∧ Occurs r (normalize word)) ∨
        (∀ word ∈ keywords, Text.isBlankText word = true) ∧
          ∃ word ∈ successKeywords, Occurs r word
  | .tableMinRows minRows => r.tables ≠ [] ∧ minRows ≤ r.totalRows

/-! ## Keywords -/

theorem normalize_eq_empty_iff {keyword : String} :
    normalize keyword = "" ↔ Text.isBlankText keyword = true := by
  rw [normalize, Text.lower_eq_empty_iff, Text.trim_eq_empty_iff]

theorem mem_addKeywords {known custom : List String} {k : String} :
    k ∈ addKeywords known custom ↔
      k ∈ known ∨ ∃ word ∈ custom, Text.isBlankText word = false ∧ normalize word = k := by
  induction custom generalizing known with
  | nil => simp [addKeywords]
  | cons word rest ih =>
      have hb : (normalize word).isEmpty = Text.isBlankText word := by
        rw [Bool.eq_iff_iff, String.isEmpty_iff, normalize_eq_empty_iff]
      simp only [addKeywords, List.exists_mem_cons_iff]
      split
      · rename_i h
        rw [ih]
        rw [hb, Bool.or_eq_true, List.contains_iff_mem] at h
        constructor
        · rintro (hk | hk)
          · exact Or.inl hk
          · exact Or.inr (Or.inr hk)
        · rintro (hk | ⟨hw, rfl⟩ | hk)
          · exact Or.inl hk
          · rcases h with h | h
            · simp [hw] at h
            · exact Or.inl h
          · exact Or.inr hk
      · rename_i h
        simp only [hb, Bool.or_eq_true, not_or, Bool.not_eq_true] at h
        rw [ih, List.mem_append, List.mem_singleton]
        simp only [h.1, true_and, or_assoc, eq_comm]

theorem mem_occurring {keywords : List String} {k : String} :
    k ∈ occurring r keywords ↔ k ∈ keywords ∧ Occurs r k := by
  rw [occurring, List.mem_filter, Text.contains_iff, Occurs]

theorem mem_wantedKeywords {keywords : List String} {k : String} :
    k ∈ wantedKeywords keywords ↔
      (∃ word ∈ keywords, Text.isBlankText word = false ∧ normalize word = k) ∨
        (∀ word ∈ keywords, Text.isBlankText word = true) ∧ k ∈ successKeywords := by
  have hmem (k : String) : k ∈ (keywords.map normalize).filter (!·.isEmpty) ↔
      ∃ word ∈ keywords, Text.isBlankText word = false ∧ normalize word = k := by
    simp only [List.mem_filter, List.mem_map, Bool.not_eq_true', ← Bool.not_eq_true,
      String.isEmpty_iff]
    constructor
    · rintro ⟨⟨word, hw, rfl⟩, hk⟩
      exact ⟨word, hw, mt normalize_eq_empty_iff.mpr hk, rfl⟩
    · rintro ⟨word, hw, hb, rfl⟩
      exact ⟨⟨word, hw, rfl⟩, mt normalize_eq_empty_iff.mp hb⟩
  simp only [wantedKeywords]
  split
  · rename_i h
    rw [List.isEmpty_iff] at h
    simp only [h, List.not_mem_nil, false_iff, not_exists, not_and] at hmem
    have hblank : ∀ word ∈ keywords, Text.isBlankText word = true := by
      intro word hw
      by_contra hb
      exact hmem _ word hw (by simpa using hb) rfl
    constructor
    · intro hk
      exact Or.inr ⟨hblank, hk⟩
    · rintro (⟨word, hw, hb, -⟩ | ⟨-, hk⟩)
      · simp [hblank word hw] at hb
      · exact hk
  · rename_i h
    rw [hmem]
    constructor
    · exact Or.inl
    · rintro (hk | ⟨hblank, -⟩)
      · exact hk
      · exfalso
        apply h
        rw [List.isEmpty_iff, List.eq_nil_iff_forall_not_mem]
        intro k hk
        obtain ⟨word, hw, hb, -⟩ := (hmem k).mp hk
        simp [hblank word hw] at hb

/-! ## Completed recognitions -/

/-- A check on a completed recognition is concluded, so it keeps its kind and a part of the text. -/
theorem evaluateOne_of_completed (h : r.isFailed = false) (c : Spec) :
    ∃ passed message, evaluateOne r c = conclude r c.kind passed message := by
  cases c with
  | successMessage keywords =>
      simp only [evaluateOne, successMessage, h, Bool.false_eq_true, ↓reduceIte]
      split <;> exact ⟨_, _, rfl⟩
  | _ =>
      simp only [evaluateOne, title, requiredTexts, forbiddenTexts, tableMinRows, tableOutcome, h,
        Bool.false_eq_true, ↓reduceIte]
      exact ⟨_, _, rfl⟩

theorem forbiddenTexts_passed_iff (h : r.isFailed = false) {custom : List String} :
    (forbiddenTexts r custom).passed = true ↔
      ∀ k ∈ addKeywords errorKeywords custom, ¬ Occurs r k := by
  simp only [forbiddenTexts, h, Bool.false_eq_true, ↓reduceIte, conclude, List.isEmpty_iff,
    List.eq_nil_iff_forall_not_mem, mem_occurring, not_and]

theorem successMessage_passed_iff (h : r.isFailed = false) {keywords : List String} :
    (successMessage r keywords).passed = true ↔ ∃ k ∈ wantedKeywords keywords, Occurs r k := by
  simp only [successMessage, h, Bool.false_eq_true, ↓reduceIte, Occurs, ← Text.contains_iff]
  split
  · rename_i k hk
    simpa [conclude] using ⟨k, List.mem_of_find?_eq_some hk, List.find?_some hk⟩
  · rename_i hk
    simpa [conclude] using hk

/-- A check on a completed recognition passes exactly when what it demands holds. -/
theorem passed_iff_holds (h : r.isFailed = false) (c : Spec) :
    (evaluateOne r c).passed = true ↔ c.Holds r := by
  cases c with
  | title expected tolerance => simp [evaluateOne, title, h, conclude, Spec.Holds]
  | requiredTexts texts requirement tolerance =>
      cases requirement with
      | all => simp [evaluateOne, requiredTexts, h, conclude, Spec.Holds]
      | any => simp [evaluateOne, requiredTexts, h, conclude, Spec.Holds]
  | forbiddenTexts custom =>
      rw [evaluateOne, forbiddenTexts_passed_iff h]
      simp only [mem_addKeywords, Spec.Holds]
      constructor
      · intro hk
        exact ⟨fun word hw => hk word (Or.inl hw),
          fun word hw hb => hk _ (Or.inr ⟨word, hw, hb, rfl⟩)⟩
      · rintro ⟨hknown, hcustom⟩ k (hk | ⟨word, hw, hb, rfl⟩)
        · exact hknown k hk
        · exact hcustom word hw hb
  | successMessage keywords =>
      rw [evaluateOne, successMessage_passed_iff h]
      simp only [mem_wantedKeywords, Spec.Holds]
      constructor
      · rintro ⟨k, ⟨word, hw, hb, rfl⟩ | ⟨hblank, hk⟩, ho⟩
        · exact Or.inl ⟨word, hw, hb, ho⟩
        · exact Or.inr ⟨hblank, k, hk, ho⟩
      · rintro (⟨word, hw, hb, ho⟩ | ⟨hblank, k, hk, ho⟩)
        · exact ⟨_, Or.inl ⟨word, hw, hb, rfl⟩, ho⟩
        · exact ⟨k, Or.inr ⟨hblank, hk⟩, ho⟩
  | tableMinRows minRows =>
      simp [evaluateOne, tableMinRows, tableOutcome, h, conclude, Spec.Holds]

theorem snapshot_of_completed (h : r.isFailed = false) (c : Spec) :
    (evaluateOne r c).snapshot = some (snapshotOf r) := by
  obtain ⟨passed, message, he⟩ := evaluateOne_of_completed h c
  rw [he, conclude]

theorem snapshotOf_eq (r : Result) :
    snapshotOf r = String.ofList (r.rawText.toList.take (min 200 r.rawText.length)) := by
  rw [snapshotOf, snapshotLength, ← String.length_toList, ← List.take_eq_take_min]

/-! ## Failed recognitions -/

theorem evaluateOne_of_failed (h : r.isFailed = true) (c : Spec) :
    evaluateOne r c =
      if c.kind = .successMessage then
        ⟨.successMessage, false,
          "Cannot confirm success, recognition failed: " ++ r.failureReason, none⟩
      else skip r c.kind := by
  cases c <;> simp [evaluateOne, title, requiredTexts, forbiddenTexts, successMessage, tableMinRows,
    h, Spec.kind]

theorem passed_of_failed (h : r.isFailed = true) (c : Spec) :
    (evaluateOne r c).passed = true ↔ c.kind ≠ .successMessage := by
  rw [evaluateOne_of_failed h]
  split <;> simp_all [skip]

theorem snapshot_of_failed (h : r.isFailed = true) (c : Spec) :
    (evaluateOne r c).snapshot = none := by
  rw [evaluateOne_of_failed h]
  split <;> rfl

theorem message_of_failed (h : r.isFailed = true) (c : Spec) :
    ∃ before after, (evaluateOne r c).message = before ++ r.failureReason ++ after := by
  rw [evaluateOne_of_failed h]
  split
  · exact ⟨"Cannot confirm success, recognition failed: ", "", by simp⟩
  · exact ⟨"Recognition failed (", "), " ++ c.kind.label ++ " check skipped",
      by simp [skip, String.append_assoc]⟩

/-! ## All checks -/

/-- Every check yields one outcome of its kind, whatever was recognized. -/
theorem kind_evaluateOne (r : Result) (c : Spec) : (evaluateOne r c).kind = c.kind := by
  cases h : r.isFailed with
  | true =>
      rw [evaluateOne_of_failed h]
      split <;> simp_all [skip]
  | false =>
      obtain ⟨passed, message, he⟩ := evaluateOne_of_completed h c
      rw [he, conclude]

theorem kinds_evaluate (r : Result) (checks : List Spec) :
    (evaluate r checks).map Outcome.kind = checks.map Spec.kind := by
  simp [evaluate, kind_evaluateOne]

theorem allPassed_evaluate_iff {checks : List Spec} :
    allPassed (evaluate r checks) = true ↔ ∀ c ∈ checks, (evaluateOne r c).passed = true := by
  simp [allPassed, evaluate]

end PageAudit.Check
