import Mathlib.Data.List.DropRight
import Mathlib.Data.List.TakeWhile
import PageAudit.Text.Blank
import PageAudit.Text.Case

/-!
# Blank texts

Trimming leaves nothing of a text exactly when the text is blank, and whatever blanks stand around a
text, it leaves the same of it. Lower-casing never makes a character disappear. So a keyword is empty
after both exactly when it was blank.
-/

namespace PageAudit.Text

/-! ## Trimming -/

theorem toList_trimFront (p : Char → Bool) (s : String) :
    (trimFront p s).toList = s.toList.dropWhile p := by
  simp [trimFront]

theorem toList_trimBack (p : Char → Bool) (s : String) :
    (trimBack p s).toList = s.toList.rdropWhile p := by
  simp [trimBack, List.rdropWhile]

theorem trim_eq_empty_iff {s : String} : trim s = "" ↔ isBlankText s = true := by
  rw [← String.toList_eq_nil_iff, trim, toList_trimBack, toList_trimFront,
    List.rdropWhile_eq_nil_iff, isBlankText, List.all_eq_true]
  constructor
  · intro h
    apply List.dropWhile_eq_nil_iff.mp
    -- a rest that is not empty would begin with a character that is no blank
    cases hr : s.toList.dropWhile isBlank with
    | nil => rfl
    | cons c rest =>
        have hc := List.head?_dropWhile_not isBlank s.toList
        simp [hr, h c (by simp [hr])] at hc
  · intro h c hc
    rw [List.dropWhile_eq_nil_iff.mpr h] at hc
    cases hc

@[simp] theorem isBlankText_append (s t : String) :
    isBlankText (s ++ t) = (isBlankText s && isBlankText t) := by
  simp [isBlankText]

/-- Blanks at the ends make no difference. -/
theorem trim_between {front back : String} (hfront : isBlankText front = true)
    (hback : isBlankText back = true) (s : String) : trim (front ++ s ++ back) = trim s := by
  rw [isBlankText, List.all_eq_true] at hfront hback
  have hreverse : ∀ c ∈ back.toList.reverse, isBlank c = true := by simpa using hback
  rw [← String.toList_inj]
  simp only [trim, toList_trimBack, toList_trimFront, String.toList_append, List.append_assoc]
  rw [List.dropWhile_append_of_pos hfront, List.dropWhile_append]
  split
  · -- all of it is blank
    rename_i hs
    rw [List.dropWhile_eq_nil_iff.mpr hback, List.isEmpty_iff.mp hs]
  · rw [List.rdropWhile, List.reverse_append, List.dropWhile_append_of_pos hreverse, List.rdropWhile]

/-! ## Lower-casing -/

theorem lowerChar_ne_nil (c : Char) : lowerChar c ≠ [] := by
  unfold lowerChar
  split
  · simp
  · split
    · simp
    · split <;> simp

theorem lowerAfter_eq_nil_iff {before cs : List Char} : lowerAfter before cs = [] ↔ cs = [] := by
  cases cs with
  | nil => simp [lowerAfter]
  | cons c rest =>
      simp only [lowerAfter, List.append_eq_nil_iff, reduceCtorEq, iff_false, not_and]
      intro h
      split at h
      · simp at h
      · exact absurd h (lowerChar_ne_nil c)

theorem lower_eq_empty_iff {s : String} : lower s = "" ↔ s = "" := by
  rw [← String.toList_eq_nil_iff, ← String.toList_eq_nil_iff, lower, String.toList_ofList,
    lowerAfter_eq_nil_iff]

end PageAudit.Text
