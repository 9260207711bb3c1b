import Mathlib.Tactic.ByContra
import PageAudit.Text.Search

/-!
# Occurrence as a relation

A needle is found in a text exactly when the text is the needle with something before and after it. A
text is cut at a mark where the mark stands first.
-/

namespace PageAudit.Text

theorem occursIn_iff {needle text : List Char} :
    occursIn needle text = true ↔ needle <:+: text := by
  induction text with
  | nil => simp [occursIn]
  | cons c rest ih =>
      rw [occursIn, Bool.or_eq_true, List.isPrefixOf_iff_prefix, ih, List.infix_cons_iff]

theorem contains_iff {text needle : String} :
    contains text needle = true ↔ needle.toList <:+: text.toList := occursIn_iff

/-! ## Cutting at a mark -/

section

variable {mark cs before after other tail : List Char} {c : Char}

/-- A mark that does not begin a text can only stand in the rest of it. -/
theorem exists_later (hhere : ¬mark <+: c :: cs) (heq : c :: cs = other ++ mark ++ tail) :
    ∃ more, other = c :: more ∧ cs = more ++ mark ++ tail := by
  cases other with
  | nil => exact absurd ⟨tail, heq.symm⟩ hhere
  | cons d more =>
      obtain ⟨rfl, hcs⟩ := List.cons.inj heq
      exact ⟨more, rfl, hcs⟩

/-- A text is cut at the first place where the mark stands. -/
theorem splitOnce_eq_some_iff : splitOnce mark cs = some (before, after) ↔
    cs = before ++ mark ++ after ∧
      ∀ other tail, cs = other ++ mark ++ tail → before.length ≤ other.length := by
  induction cs generalizing before with
  | nil =>
      cases mark with
      | nil => cases before <;> simp [splitOnce, eq_comm]
      | cons m mark => simp [splitOnce]
  | cons c cs ih =>
      rw [splitOnce]
      by_cases hhere : mark <+: c :: cs
      · rw [if_pos (List.isPrefixOf_iff_prefix.mpr hhere), Option.some.injEq, Prod.mk.injEq]
        obtain ⟨rest, hrest⟩ := hhere
        rw [← hrest, List.drop_left]
        constructor
        · rintro ⟨rfl, rfl⟩
          exact ⟨rfl, fun _ _ _ => Nat.zero_le _⟩
        · rintro ⟨heq, hfirst⟩
          obtain rfl := List.length_eq_zero_iff.mp (Nat.le_zero.mp (hfirst [] rest rfl))
          exact ⟨rfl, List.append_cancel_left heq⟩
      · rw [if_neg fun h => hhere (List.isPrefixOf_iff_prefix.mp h), Option.map_eq_some_iff]
        constructor
        · rintro ⟨⟨more, rest⟩, hsplit, hpair⟩
          obtain ⟨rfl, rfl⟩ := Prod.mk.inj hpair
          obtain ⟨hcs, hfirst⟩ := ih.mp hsplit
          refine ⟨congrArg (c :: ·) hcs, fun other tail heq => ?_⟩
          obtain ⟨others, rfl, hothers⟩ := exists_later hhere heq
          exact Nat.succ_le_succ (hfirst others tail hothers)
        · rintro ⟨heq, hfirst⟩
          obtain ⟨more, rfl, hcs⟩ := exists_later hhere heq
          refine ⟨(more, after), ih.mpr ⟨hcs, fun other tail hother => ?_⟩, rfl⟩
          exact Nat.le_of_succ_le_succ (hfirst (c :: other) tail (congrArg (c :: ·) hother))

/-- Where a text is cut first does not depend on what follows the mark. -/
theorem splitOnce_append (h : splitOnce mark (before ++ mark ++ after) = some (before, after))
    (rest : List Char) : splitOnce mark (before ++ mark ++ rest) = some (before, rest) := by
  refine splitOnce_eq_some_iff.mpr ⟨rfl, fun other tail heq => ?_⟩
  by_contra hshort
  -- a place before this one would be found in the first text as well
  have hprefix : other ++ mark <+: before ++ mark := by
    refine List.prefix_of_prefix_length_le (List.prefix_append _ tail) (heq ▸ List.prefix_append _ _) ?_
    simp only [List.length_append]
    omega
  obtain ⟨more, hmore⟩ := hprefix
  have hplace : before ++ mark ++ after = other ++ mark ++ (more ++ after) := by
    rw [← hmore, List.append_assoc (other ++ mark)]
  exact hshort ((splitOnce_eq_some_iff.mp h).2 _ _ hplace)

/-- A text is cut at a character behind what has no such character. -/
theorem splitOnce_of_notMem {c : Char} (h : c ∉ before) (after : List Char) :
    splitOnce [c] (before ++ c :: after) = some (before, after) := by
  induction before with
  | nil => simp [splitOnce]
  | cons d before ih =>
      rw [List.mem_cons, not_or] at h
      simp [splitOnce, h.1, ih h.2]

end

end PageAudit.Text
