import PageAudit.Proofs.Check.Tolerances
import PageAudit.Settings.Environment

/-!
# The tolerance that is set

Every number can be set as the tolerance, however large or small, and acts like one between zero and
one. But the variable can also be set to `nan`, and what is no number acts like no tolerance at all.
-/

namespace PageAudit

/-! ## What is read as no number -/

namespace Double

/-- What follows the sign of a number, if it has one. -/
def afterSign : List Char → List Char
  | '-' :: rest => rest
  | '+' :: rest => rest
  | cs => cs

/-- Of all texts only the name of what is no number is read as such. -/
theorem ofText?_eq_nan_iff {s : String} :
    ofText? s = some nan ↔ (afterSign s.toList).map Char.toLower = "nan".toList := by
  have hname {name : String} {p : Prop} {_ : Decidable p} {negative : Bool} {read : Option Numeral} :
      (if name = "nan" then some nan else if p then some (num negative .infinity)
        else read.map fun n => Numeral.nearest ⟨negative, n.whole, n.fraction, n.exponent⟩) =
          some nan ↔ name = "nan" := by
    split
    · next h => simp [h]
    · next h => split <;> simp [h, Numeral.nearest]
  rw [← String.ofList_inj, String.ofList_toList]
  cases hs : s.toList with
  | nil =>
      simp only [ofText?, hs, afterSign]
      exact hname
  | cons c rest =>
      by_cases hminus : c = '-'
      · simp only [ofText?, hs, afterSign, hminus]
        exact hname
      · by_cases hplus : c = '+'
        · simp only [ofText?, hs, afterSign, hplus]
          exact hname
        · simp only [ofText?, hs, afterSign, List.cons.injEq, hminus, hplus, false_and, imp_self,
            implies_true]
          exact hname

end Double

/-! ## The law of clamping -/

namespace Settings

open Matching (isMatch)

theorem tolerance_eq_nan_iff {env : Environment} : (ofEnvironment env).tolerance = .nan ↔
    ∃ value, env.lookup Variable.tolerance = some value ∧
      (Double.afterSign (Text.trim value).toList).map Char.toLower = "nan".toList := by
  have hdefault : default.tolerance ≠ .nan := by decide +kernel
  simp only [ofEnvironment, valueOf, ← Double.ofText?_eq_nan_iff]
  cases env.lookup Variable.tolerance with
  | none => simpa using hdefault
  | some value => cases hread : Double.ofText? (Text.trim value) <;> simp [hread, hdefault]

theorem reversed_words_occur : ∀ word ∈ Text.words (Text.lower "alpha beta").toList,
    Text.occursIn word (Text.lower "beta alpha").toList = true := by
  decide +kernel

/-- The words of the other order are found, but not the text. -/
theorem reversed_words_found (clamped : Double) :
    isMatch "beta alpha" "alpha beta" .partially clamped = true ↔ clamped ≠ .nan := by
  have hwhole : Text.contains (Text.lower "beta alpha") (Text.lower "alpha beta") = false := by
    decide +kernel
  rw [Matching.isMatch_of_words_found (by decide) reversed_words_occur, hwhole]
  simp

/-- A tolerance acts like one between zero and one exactly if it is a number. A text whose words are all
found is found at every such tolerance, and otherwise only as a whole. The variable sets a tolerance that
is no number if it says so. A text that fits into memory has less than `2 ^ 63` characters. -/
theorem acts_clamped_iff_number (tolerance : Double) :
    ((∃ clamped : Double, Double.zero.le clamped = true ∧ clamped.le .one = true ∧
        ∀ text sought mode,
          isMatch text sought mode tolerance = isMatch text sought mode clamped) ↔
      tolerance ≠ .nan) ∧
    (∀ text sought, sought.length < 2 ^ 63 →
      (∀ word ∈ Text.words (Text.lower sought).toList,
        Text.occursIn word (Text.lower text).toList = true) →
      (isMatch text sought .partially tolerance = true ↔
        tolerance ≠ .nan ∨ Text.contains (Text.lower text) (Text.lower sought) = true)) ∧
    ∀ env, (ofEnvironment env).tolerance = .nan ↔
      ∃ value, env.lookup Variable.tolerance = some value ∧
        (Double.afterSign (Text.trim value).toList).map Char.toLower = "nan".toList := by
  refine ⟨⟨?_, ?_⟩, ?_, fun env => tolerance_eq_nan_iff⟩
  · rintro ⟨clamped, hlow, -, hsame⟩
    rw [← reversed_words_found, hsame, reversed_words_found]
    exact (Double.ne_nan_of_le hlow).2
  · intro hnumber
    refine ⟨tolerance.clamp .zero .one, Double.zero_le_clamp hnumber, (Double.clamp_spec hnumber).2, ?_⟩
    intro text sought mode
    exact (Matching.isMatch_clamp text sought mode tolerance).symm
  · intro text sought hsize hwords
    exact Matching.isMatch_of_words_found hsize hwords tolerance

/-- Minus three acts like a tolerance between zero and one, and so the words of the other order are
found. -/
theorem minus_three_acts_clamped :
    let tolerance := (ofEnvironment [(Variable.tolerance, "-3")]).tolerance
    (∃ clamped : Double, Double.zero.le clamped = true ∧ clamped.le .one = true ∧
      ∀ text sought mode, isMatch text sought mode tolerance = isMatch text sought mode clamped) ∧
    isMatch "beta alpha" "alpha beta" .partially tolerance = true := by
  intro tolerance
  obtain ⟨hclamped, hfound, -⟩ := acts_clamped_iff_number tolerance
  have htolerance : tolerance ≠ .nan := by decide +kernel
  refine ⟨hclamped.mpr htolerance, ?_⟩
  exact (hfound _ _ (by decide) reversed_words_occur).mpr (Or.inl htolerance)

/-- With the tolerance `NaN` a text is lost that every tolerance between zero and one finds. -/
theorem nan_loses_reversed_words :
    let tolerance := (ofEnvironment [(Variable.tolerance, "NaN")]).tolerance
    isMatch "beta alpha" "alpha beta" .partially tolerance = false ∧
      ∀ clamped : Double, Double.zero.le clamped = true → clamped.le .one = true →
        isMatch "beta alpha" "alpha beta" .partially clamped = true := by
  intro tolerance
  refine ⟨by decide +kernel, fun clamped hlow _ => ?_⟩
  rw [reversed_words_found]
  exact (Double.ne_nan_of_le hlow).2

end Settings

end PageAudit
