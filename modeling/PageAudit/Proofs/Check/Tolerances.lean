import PageAudit.Proofs.Check.Matches
import PageAudit.Proofs.Check.Verdict

/-!
# Tolerances

A tolerance only bounds the fraction of words from below, so a lower one accepts whatever a higher one
does. Beyond zero and one it makes no difference how far it lies, and a tolerance that is no number asks
for the whole text.
-/

namespace PageAudit

namespace Matching

variable {text sought : String} {mode : MatchMode} {strict lenient : Double}

theorem isMatch_of_le (hstrict : strict ≠ .nan) (hlenient : lenient ≠ .nan)
    (hle : lenient.units ≤ strict.units) (h : isMatch text sought mode strict = true) :
    isMatch text sought mode lenient = true := by
  cases mode with
  | exact => exact h
  | partially =>
      rw [isMatch, Bool.or_eq_true] at h ⊢
      refine h.imp_right fun hratio => ?_
      obtain ⟨hclamped, hnumber⟩ := Double.ne_nan_of_le hratio
      rw [Double.le_iff hclamped hnumber] at hratio
      rw [Double.le_iff (Double.clamp_spec hlenient).1 hnumber]
      exact (Double.clamp_mono hlenient hstrict hle).trans hratio

theorem isMatch_clamp (text sought : String) (mode : MatchMode) (tolerance : Double) :
    isMatch text sought mode (tolerance.clamp .zero .one) = isMatch text sought mode tolerance := by
  cases mode with
  | exact => rfl
  | partially => rw [isMatch, isMatch, Double.clamp_clamp]

theorem isMatch_nan (text sought : String) :
    isMatch text sought .partially .nan = Text.contains (Text.lower text) (Text.lower sought) := by
  simp [isMatch, Double.clamp_nan, Double.le]

/-- A text whose words are all found is found, but where the tolerance is no number, only as a whole. -/
theorem isMatch_of_words_found (hsize : sought.length < 2 ^ 63)
    (h : ∀ word ∈ Text.words (Text.lower sought).toList,
      Text.occursIn word (Text.lower text).toList = true) (tolerance : Double) :
    isMatch text sought .partially tolerance = true ↔
      tolerance ≠ .nan ∨ Text.contains (Text.lower text) (Text.lower sought) = true := by
  by_cases htolerance : tolerance = .nan
  · simp [htolerance, isMatch_nan]
  · obtain ⟨hnumber, hone⟩ := Double.clamp_spec htolerance
    rw [Double.le_iff hnumber (by simp [Double.one])] at hone
    simp [htolerance, isMatch_partially_iff hsize htolerance, ratio_of_words_occur hsize h, hone]

end Matching

namespace Check

open Recognition (Result)

variable {r : Result} {strict lenient : Double}

/-- The check with another tolerance, if it has one. -/
def Spec.withTolerance (tolerance : Double) : Spec → Spec
  | .title expected _ => .title expected tolerance
  | .requiredTexts texts requirement _ => .requiredTexts texts requirement tolerance
  | .forbiddenTexts custom => .forbiddenTexts custom
  | .successMessage keywords => .successMessage keywords
  | .tableMinRows minRows => .tableMinRows minRows

@[simp] theorem Spec.kind_withTolerance (tolerance : Double) (c : Spec) :
    (c.withTolerance tolerance).kind = c.kind := by
  cases c <;> rfl

/-- Only the checks of titles and of required texts have a tolerance. -/
theorem Spec.withTolerance_of_kind {c : Spec} (htitle : c.kind ≠ .title)
    (htexts : c.kind ≠ .requiredTexts) (tolerance : Double) : c.withTolerance tolerance = c := by
  cases c with
  | title => exact absurd rfl htitle
  | requiredTexts => exact absurd rfl htexts
  | _ => rfl

/-- How the conclusions of a check may change where it asks for less: where it passed, it passes, and
unless it looks for a title or for required texts, nothing changes. -/
structure Eases (r : Result) (strict lenient : Spec) : Prop where
  passed : (evaluateOne r strict).passed = true → (evaluateOne r lenient).passed = true
  same : strict.kind ≠ .title → strict.kind ≠ .requiredTexts →
    evaluateOne r lenient = evaluateOne r strict

section

variable (hstrict : strict ≠ .nan) (hlenient : lenient ≠ .nan) (hle : lenient.units ≤ strict.units)
include hstrict hlenient hle

theorem isFound_of_le {text : String} (h : isFound r strict text = true) :
    isFound r lenient text = true :=
  Matching.isMatch_of_le hstrict hlenient hle h

theorem Spec.Holds.of_le {c : Spec} (h : (c.withTolerance strict).Holds r) :
    (c.withTolerance lenient).Holds r := by
  cases c with
  | title expected => exact isFound_of_le hstrict hlenient hle h
  | requiredTexts texts requirement =>
      cases requirement with
      | all =>
          intro text htext
          exact isFound_of_le hstrict hlenient hle (h text htext)
      | any =>
          rcases h with hnone | ⟨text, htext, hfound⟩
          · exact Or.inl hnone
          · exact Or.inr ⟨text, htext, isFound_of_le hstrict hlenient hle hfound⟩
  | _ => exact h

/-- A check that passes with some tolerance passes with every lower one, whatever was recognized. -/
theorem passed_of_le {c : Spec} (h : (evaluateOne r (c.withTolerance strict)).passed = true) :
    (evaluateOne r (c.withTolerance lenient)).passed = true := by
  cases hfailed : r.isFailed with
  | true =>
      rw [passed_of_failed hfailed, Spec.kind_withTolerance] at h ⊢
      exact h
  | false =>
      rw [passed_iff_holds hfailed] at h ⊢
      exact Spec.Holds.of_le hstrict hlenient hle h

theorem eases_of_le (c : Spec) : Eases r (c.withTolerance strict) (c.withTolerance lenient) where
  passed := passed_of_le hstrict hlenient hle
  same htitle htexts := by
    rw [Spec.kind_withTolerance] at htitle htexts
    rw [Spec.withTolerance_of_kind htitle htexts, Spec.withTolerance_of_kind htitle htexts]

end

end Check

end PageAudit
