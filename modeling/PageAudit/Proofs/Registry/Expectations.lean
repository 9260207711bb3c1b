import PageAudit.Proofs.Check.Verdict
import PageAudit.Registry.Page

/-!
# Pages that meet their expectations

What a page's expectations demand of a completed recognition is said here of the page's own fields
(`Page.Met`). The checks of the page demand the same: all of them pass exactly when it is met.
-/

namespace PageAudit.Page

open Check (Spec Occurs isFound)
open Recognition (Result)

variable {p : Page} {r : Result} {tolerance : Double}

structure Met (p : Page) (tolerance : Double) (r : Result) : Prop where
  title : ∀ title, p.expectedTitle = some title → Text.isBlankText title = true ∨
    Matching.isMatch r.rawText title .partially tolerance = true
  texts : ∀ texts, p.expectedTexts = some texts → texts = [] ∨
    if p.textRequirement = some .all then
      ∀ text ∈ texts, Matching.isMatch r.rawText text .partially tolerance = true
    else ∃ text ∈ texts, Matching.isMatch r.rawText text .partially tolerance = true
  forbidden : ∀ words, p.forbiddenTexts = some words →
    (∀ word ∈ Check.errorKeywords, ¬ Occurs r word) ∧
      ∀ word ∈ words, Text.isBlankText word = false → ¬ Occurs r (Text.lower (Text.trim word))
  /-- The known words are sought where no word is given but blank ones. -/
  success : ∀ words, p.successTexts = some words →
    (∃ word ∈ words, Text.isBlankText word = false ∧ Occurs r (Text.lower (Text.trim word))) ∨
      (∀ word ∈ words, Text.isBlankText word = true) ∧ ∃ word ∈ Check.successKeywords, Occurs r word
  table : p.expectTable = some false ∨ (p.expectTable = none ∧ p.minTableRows = none) ∨
    (r.tables ≠ [] ∧ p.minTableRows.getD 1 ≤ r.totalRows)

/-! ## What the checks of a page demand -/

theorem titleCheck_holds_iff :
    (∀ c ∈ p.titleCheck tolerance, c.Holds r) ↔
      ∀ title, p.expectedTitle = some title → Text.isBlankText title = true ∨
        Matching.isMatch r.rawText title .partially tolerance = true := by
  cases h : p.expectedTitle with
  | none => simp [titleCheck, h]
  | some title =>
      simp only [titleCheck, h]
      split
      · rename_i hb
        simp [hb]
      · rename_i hb
        simp [hb, Spec.Holds, isFound]

theorem textsCheck_holds_iff :
    (∀ c ∈ p.textsCheck tolerance, c.Holds r) ↔
      ∀ texts, p.expectedTexts = some texts → texts = [] ∨
        if p.textRequirement = some .all then
          ∀ text ∈ texts, Matching.isMatch r.rawText text .partially tolerance = true
        else ∃ text ∈ texts, Matching.isMatch r.rawText text .partially tolerance = true := by
  rcases h : p.expectedTexts with _ | _ | ⟨text, rest⟩
  · simp [textsCheck, h]
  · simp [textsCheck, h]
  · rcases hr : p.textRequirement with _ | _ | _ <;>
      simp [textsCheck, h, hr, Spec.Holds, isFound, Check.Requirement.default]

theorem forbiddenCheck_holds_iff :
    (∀ c ∈ p.forbiddenCheck, c.Holds r) ↔
      ∀ words, p.forbiddenTexts = some words →
        (∀ word ∈ Check.errorKeywords, ¬ Occurs r word) ∧
          ∀ word ∈ words, Text.isBlankText word = false →
            ¬ Occurs r (Text.lower (Text.trim word)) := by
  cases h : p.forbiddenTexts <;> simp [forbiddenCheck, h, Spec.Holds, Check.normalize]

theorem successCheck_holds_iff :
    (∀ c ∈ p.successCheck, c.Holds r) ↔
      ∀ words, p.successTexts = some words →
        (∃ word ∈ words, Text.isBlankText word = false ∧
            Occurs r (Text.lower (Text.trim word))) ∨
          (∀ word ∈ words, Text.isBlankText word = true) ∧
            ∃ word ∈ Check.successKeywords, Occurs r word := by
  cases h : p.successTexts <;> simp [successCheck, h, Spec.Holds, Check.normalize]

theorem tableCheck_holds_iff :
    (∀ c ∈ p.tableCheck, c.Holds r) ↔
      p.expectTable = some false ∨ (p.expectTable = none ∧ p.minTableRows = none) ∨
        (r.tables ≠ [] ∧ p.minTableRows.getD 1 ≤ r.totalRows) := by
  rcases h : p.expectTable with _ | _ | _
  · cases hm : p.minTableRows <;> simp [tableCheck, wantsTable, h, hm, Spec.Holds]
  · simp [tableCheck, wantsTable, h]
  · simp [tableCheck, wantsTable, h, Spec.Holds]

theorem checks_hold_iff : (∀ c ∈ p.checks tolerance, c.Holds r) ↔ p.Met tolerance r := by
  simp only [checks, List.forall_mem_append, titleCheck_holds_iff, textsCheck_holds_iff,
    forbiddenCheck_holds_iff, successCheck_holds_iff, tableCheck_holds_iff]
  constructor
  · rintro ⟨⟨⟨⟨title, texts⟩, forbidden⟩, success⟩, table⟩
    exact ⟨title, texts, forbidden, success, table⟩
  · rintro ⟨title, texts, forbidden, success, table⟩
    exact ⟨⟨⟨⟨title, texts⟩, forbidden⟩, success⟩, table⟩

/-- On a completed recognition the page's checks all pass exactly when its expectations are met. -/
theorem allPassed_checks_iff (h : r.isFailed = false) :
    Check.allPassed (Check.evaluate r (p.checks tolerance)) = true ↔ p.Met tolerance r := by
  rw [Check.allPassed_evaluate_iff, ← checks_hold_iff]
  simp only [Check.passed_iff_holds h]

/-! ## Failed recognitions -/

theorem kind_of_mem_titleCheck {c : Spec} (h : c ∈ p.titleCheck tolerance) : c.kind = .title := by
  unfold titleCheck at h
  split at h
  · split at h
    · cases h
    · rw [List.mem_singleton.mp h, Spec.kind]
  · cases h

theorem kind_of_mem_textsCheck {c : Spec} (h : c ∈ p.textsCheck tolerance) :
    c.kind = .requiredTexts := by
  unfold textsCheck at h
  split at h
  · rw [List.mem_singleton.mp h, Spec.kind]
  · cases h

theorem kind_of_mem_forbiddenCheck {c : Spec} (h : c ∈ p.forbiddenCheck) :
    c.kind = .forbiddenTexts := by
  simp only [forbiddenCheck, Option.mem_toList, Option.map_eq_some_iff] at h
  obtain ⟨_, -, rfl⟩ := h
  rfl

theorem kind_of_mem_tableCheck {c : Spec} (h : c ∈ p.tableCheck) : c.kind = .tableMinRows := by
  unfold tableCheck at h
  split at h
  · rw [List.mem_singleton.mp h, Spec.kind]
  · cases h

theorem exists_success_check_iff :
    (∃ c ∈ p.checks tolerance, c.kind = .successMessage) ↔ p.successTexts ≠ none := by
  constructor
  · rintro ⟨c, hc, hk⟩
    simp only [checks, List.mem_append] at hc
    rcases hc with (((h | h) | h) | h) | h
    · simp [kind_of_mem_titleCheck h] at hk
    · simp [kind_of_mem_textsCheck h] at hk
    · simp [kind_of_mem_forbiddenCheck h] at hk
    · intro hn
      simp [successCheck, hn] at h
    · simp [kind_of_mem_tableCheck h] at hk
  · intro h
    obtain ⟨words, hw⟩ := Option.ne_none_iff_exists'.mp h
    exact ⟨.successMessage words, by simp [checks, successCheck, hw], rfl⟩

/-! ## Pages with tables -/

theorem kind_of_mem_successCheck {c : Spec} (h : c ∈ p.successCheck) : c.kind = .successMessage := by
  simp only [successCheck, Option.mem_toList, Option.map_eq_some_iff] at h
  obtain ⟨_, -, rfl⟩ := h
  rfl

theorem exists_table_check_iff :
    (∃ c ∈ p.checks tolerance, c.kind = .tableMinRows) ↔ p.wantsTable = true := by
  constructor
  · rintro ⟨c, hc, hk⟩
    simp only [checks, List.mem_append] at hc
    rcases hc with (((h | h) | h) | h) | h
    · simp [kind_of_mem_titleCheck h] at hk
    · simp [kind_of_mem_textsCheck h] at hk
    · simp [kind_of_mem_forbiddenCheck h] at hk
    · simp [kind_of_mem_successCheck h] at hk
    · by_contra hw
      simp [tableCheck, hw] at h
  · intro h
    exact ⟨.tableMinRows (p.minTableRows.getD 1), by simp [checks, tableCheck, h], rfl⟩

theorem allPassed_checks_of_failed (h : r.isFailed = true) :
    Check.allPassed (Check.evaluate r (p.checks tolerance)) = true ↔ p.successTexts = none := by
  rw [Check.allPassed_evaluate_iff, ← not_iff_not, ← ne_eq p.successTexts,
    ← @exists_success_check_iff p tolerance]
  simp only [Check.passed_of_failed h, ne_eq, not_forall, not_not, exists_prop]

end PageAudit.Page
