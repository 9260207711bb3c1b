import Mathlib.Data.List.Forall2
import PageAudit.Proofs.Check.Tolerances
import PageAudit.Registry.Page

/-!
# Lower tolerances

The checks of a page are the same at every tolerance but for the tolerance itself. So a page that passes
at some tolerance passes at every lower one.
-/

namespace PageAudit.Page

open Check (Spec evaluate allPassed)
open Recognition (Result)

variable {p : Page}

/-! ## The checks at two tolerances -/

theorem titleCheck_eq_map (tolerance other : Double) :
    p.titleCheck tolerance = (p.titleCheck other).map (Spec.withTolerance tolerance) := by
  unfold titleCheck
  cases p.expectedTitle with
  | none => rfl
  | some title => cases h : Text.isBlankText title <;> simp [h, Spec.withTolerance]

theorem textsCheck_eq_map (tolerance other : Double) :
    p.textsCheck tolerance = (p.textsCheck other).map (Spec.withTolerance tolerance) := by
  unfold textsCheck
  rcases p.expectedTexts with _ | _ | ⟨text, texts⟩ <;> simp [Spec.withTolerance]

theorem forbiddenCheck_eq_map (tolerance : Double) :
    p.forbiddenCheck = p.forbiddenCheck.map (Spec.withTolerance tolerance) := by
  unfold forbiddenCheck
  cases p.forbiddenTexts <;> simp [Spec.withTolerance]

theorem successCheck_eq_map (tolerance : Double) :
    p.successCheck = p.successCheck.map (Spec.withTolerance tolerance) := by
  unfold successCheck
  cases p.successTexts <;> simp [Spec.withTolerance]

theorem tableCheck_eq_map (tolerance : Double) :
    p.tableCheck = p.tableCheck.map (Spec.withTolerance tolerance) := by
  unfold tableCheck
  cases p.wantsTable <;> simp [Spec.withTolerance]

theorem checks_eq_map (tolerance other : Double) :
    p.checks tolerance = (p.checks other).map (Spec.withTolerance tolerance) := by
  simp only [checks, List.map_append]
  rw [← titleCheck_eq_map, ← textsCheck_eq_map, ← forbiddenCheck_eq_map, ← successCheck_eq_map,
    ← tableCheck_eq_map]

theorem kinds_checks (p : Page) (tolerance other : Double) :
    (p.checks tolerance).map Spec.kind = (p.checks other).map Spec.kind := by
  rw [checks_eq_map tolerance other, List.map_map]
  exact List.map_congr_left fun c _ => Spec.kind_withTolerance tolerance c

/-! ## Verdicts -/

/-- At a lower tolerance a page has the same kinds of checks in the same order, and each of them passes
where it passed before; only those of the title and the required texts may be concluded otherwise. So a
page that passes at some tolerance passes at every lower one. -/
theorem checks_pass_at_lower_tolerance (p : Page) (r : Result) {strict lenient : Double}
    (hstrict : strict ≠ .nan) (hlenient : lenient ≠ .nan) (hle : lenient.units ≤ strict.units) :
    (p.checks lenient).map Spec.kind = (p.checks strict).map Spec.kind ∧
    List.Forall₂ (Check.Eases r) (p.checks strict) (p.checks lenient) ∧
    (allPassed (evaluate r (p.checks strict)) = true →
      allPassed (evaluate r (p.checks lenient)) = true) := by
  refine ⟨kinds_checks p lenient strict, ?_, ?_⟩
  · rw [checks_eq_map strict .zero, checks_eq_map lenient .zero, List.forall₂_map_left_iff,
      List.forall₂_map_right_iff, List.forall₂_same]
    intro c _
    exact Check.eases_of_le hstrict hlenient hle c
  · rw [Check.allPassed_evaluate_iff, Check.allPassed_evaluate_iff, checks_eq_map strict .zero,
      checks_eq_map lenient .zero, List.forall_mem_map, List.forall_mem_map]
    intro hall c hc
    exact (Check.eases_of_le hstrict hlenient hle c).passed (hall c hc)

/-- One of the two words of a title is enough at a half, and so below zero. -/
theorem half_found_title_passes :
    let p := ((Page.bare "Quality" "/quality").withTitle "Quality monitoring").forbidding []
    let r := Result.completed "quality rules: 3 open" .one []
    Double.fraction 1 2 ≠ .nan ∧ Double.one.neg ≠ .nan ∧
      Double.one.neg.units ≤ (Double.fraction 1 2).units ∧
      allPassed (evaluate r (p.checks (.fraction 1 2))) = true ∧
      allPassed (evaluate r (p.checks Double.one.neg)) = true := by
  intro p r
  have hstrict : Double.fraction 1 2 ≠ .nan := by decide +kernel
  have hlenient : Double.one.neg ≠ .nan := by simp [Double.one, Double.neg]
  have hle : Double.one.neg.units ≤ (Double.fraction 1 2).units := by decide +kernel
  have hpassed : allPassed (evaluate r (p.checks (.fraction 1 2))) = true := by decide +kernel
  obtain ⟨-, -, hlower⟩ := checks_pass_at_lower_tolerance p r hstrict hlenient hle
  exact ⟨hstrict, hlenient, hle, hpassed, hlower hpassed⟩

end PageAudit.Page
