import PageAudit.Proofs.Text.Blank
import PageAudit.Proofs.Text.Words

/-!
# Lower-casing within a longer text

Only the capital sigma looks at its neighbours when it is lower-cased, and it sees no further than the
nearest character that is not ignorable. So what stands before and after a text can change its
lower-case form only at a sigma that begins or ends it, and never across a blank.
-/

namespace PageAudit.Text

variable {before before' after after' cs piece : List Char} {more : List (List Char)}

/-! ## The nearest letter -/

theorem casedAhead_append (cs more : List Char) :
    casedAhead (cs ++ more) = if cs.all isCaseIgnorable then casedAhead more else casedAhead cs := by
  induction cs with
  | nil => simp
  | cons c cs ih =>
      cases hc : isCaseIgnorable c with
      | true => simpa [casedAhead, hc] using ih
      | false => simp [casedAhead, hc]

theorem casedAhead_of_ignorable (h : cs.all isCaseIgnorable = true) : casedAhead cs = false := by
  have happend := casedAhead_append cs []
  rw [List.append_nil, if_pos h] at happend
  rw [happend]
  rfl

theorem casedAhead_append_congr (cs : List Char) (h : casedAhead after = casedAhead after') :
    casedAhead (cs ++ after) = casedAhead (cs ++ after') := by
  rw [casedAhead_append, casedAhead_append, h]

/-! ## Texts between other texts -/

/-- The lower-case form of a text that has other texts before it, given backwards, and after it. -/
def lowerBetween (before after : List Char) : List Char → List Char
  | [] => []
  | c :: rest =>
    (if c = 'Σ' then [lowerSigma before (rest ++ after)] else lowerChar c) ++
      lowerBetween (c :: before) after rest

theorem lowerBetween_nil (before cs : List Char) : lowerBetween before [] cs = lowerAfter before cs := by
  induction cs generalizing before with
  | nil => rfl
  | cons c rest ih => rw [lowerBetween, lowerAfter, List.append_nil, ih]

theorem lowerAfter_append (before cs after : List Char) :
    lowerAfter before (cs ++ after) =
      lowerBetween before after cs ++ lowerAfter (cs.reverse ++ before) after := by
  induction cs generalizing before with
  | nil => rfl
  | cons c rest ih =>
      rw [List.cons_append, lowerAfter, ih, lowerBetween, List.append_assoc, List.reverse_cons,
        List.append_assoc, List.singleton_append]

/-- All that matters of the other texts is whether their nearest characters are letters. -/
theorem lowerBetween_congr (hbefore : casedAhead before = casedAhead before')
    (hafter : casedAhead after = casedAhead after') (cs : List Char) :
    lowerBetween before after cs = lowerBetween before' after' cs := by
  induction cs generalizing before before' with
  | nil => rfl
  | cons c rest ih =>
      have hsigma : lowerSigma before (rest ++ after) = lowerSigma before' (rest ++ after') := by
        rw [lowerSigma, lowerSigma, hbefore, casedAhead_append_congr rest hafter]
      have hrest := ih (casedAhead_append_congr [c] hbefore)
      rw [lowerBetween, lowerBetween, hsigma]
      exact congrArg _ hrest

theorem lowerAfter_congr (h : casedAhead before = casedAhead before') (cs : List Char) :
    lowerAfter before cs = lowerAfter before' cs := by
  rw [← lowerBetween_nil, ← lowerBetween_nil]
  exact lowerBetween_congr h rfl cs

/-! ## Sigmas at the ends -/

/-- A capital sigma with `front` before it and `back` after it in its text takes another form where the
text stands between `before` and `after`: a first letter becomes the last one of a word, or the last
letter of a word becomes an inner one. -/
def SigmaTurns (before front back after : List Char) : Prop :=
  (front.all isCaseIgnorable = true ∧ casedAhead before.reverse = true ∧
      casedAhead (back ++ after) = false) ∨
    (back.all isCaseIgnorable = true ∧ casedAhead front.reverse = true ∧ casedAhead after = true)

/-- No capital sigma of the text takes another form where the text stands between the other two. -/
def KeepsSigmas (before cs after : List Char) : Prop :=
  ∀ front back, cs = front ++ 'Σ' :: back → ¬ SigmaTurns before front back after

theorem lowerSigma_between_iff (before front back after : List Char) :
    lowerSigma (front.reverse ++ before.reverse) (back ++ after) = lowerSigma front.reverse back ↔
      ¬ SigmaTurns before front back after := by
  have hforms : 'ς' ≠ 'σ' := by decide
  rw [lowerSigma, lowerSigma, SigmaTurns, casedAhead_append, casedAhead_append, List.all_reverse]
  cases hfront : front.all isCaseIgnorable with
  | true =>
      have hreverse : casedAhead front.reverse = false :=
        casedAhead_of_ignorable (List.all_reverse.trans hfront)
      cases hback : back.all isCaseIgnorable <;> cases casedAhead before.reverse <;>
        cases casedAhead back <;> cases casedAhead after <;> simp [hreverse, hforms]
  | false =>
      cases hback : back.all isCaseIgnorable with
      | true =>
          have hnone := casedAhead_of_ignorable hback
          cases casedAhead front.reverse <;> cases casedAhead after <;> simp [hnone]
      | false => simp

/-- The first character may be a sigma, and the others follow. -/
theorem forall_sigma_cons_iff {c : Char} {P : List Char → List Char → Prop} :
    (∀ front back, c :: cs = front ++ 'Σ' :: back → P front back) ↔
      (c = 'Σ' → P [] cs) ∧ ∀ front back, cs = front ++ 'Σ' :: back → P (c :: front) back := by
  constructor
  · intro h
    refine ⟨fun hc => h [] cs ?_, fun front back hcs => h (c :: front) back ?_⟩
    · rw [hc, List.nil_append]
    · rw [hcs, List.cons_append]
  · rintro ⟨hfirst, hothers⟩ front back hcs
    cases front with
    | nil =>
        cases hcs
        exact hfirst rfl
    | cons d front =>
        cases hcs
        exact hothers front back rfl

/-- A text has the form that it has alone exactly if its sigmas do. The sigmas are met one by one, so
that a part of the text has been passed already. -/
theorem lowerBetween_eq_iff (passed : List Char) (before cs after : List Char) :
    lowerBetween (passed.reverse ++ before.reverse) after cs = lowerAfter passed.reverse cs ↔
      ∀ front back, cs = front ++ 'Σ' :: back → ¬ SigmaTurns before (passed ++ front) back after := by
  induction cs generalizing passed with
  | nil => simp [lowerBetween, lowerAfter]
  | cons c rest ih =>
      have hrest := ih (passed ++ [c])
      simp only [List.reverse_append, List.reverse_singleton, List.cons_append, List.append_assoc,
        List.nil_append] at hrest
      rw [lowerBetween, lowerAfter, forall_sigma_cons_iff, List.append_nil]
      by_cases hc : c = 'Σ'
      · rw [if_pos hc, if_pos hc, List.singleton_append, List.singleton_append, List.cons.injEq,
          lowerSigma_between_iff, hrest, forall_prop_of_true hc]
      · rw [if_neg hc, if_neg hc, List.append_cancel_left_eq, hrest]
        exact (and_iff_right fun heq => absurd heq hc).symm

theorem lowerBetween_eq_lowerAfter_iff (before cs after : List Char) :
    lowerBetween before.reverse after cs = lowerAfter [] cs ↔ KeepsSigmas before cs after :=
  lowerBetween_eq_iff [] before cs after

theorem keepsSigmas_of_notMem (h : 'Σ' ∉ cs) (before after : List Char) :
    KeepsSigmas before cs after := by
  rintro front back rfl
  exact absurd (by simp) h

theorem keepsSigmas_of_not_cased (hbefore : casedAhead before.reverse = false)
    (hafter : casedAhead after = false) (cs : List Char) : KeepsSigmas before cs after := by
  rw [← lowerBetween_eq_lowerAfter_iff, ← lowerBetween_nil]
  exact lowerBetween_congr hbefore hafter cs

/-! ## Blanks -/

/-- The code points of blanks, as ranges like those of the other properties. -/
def blankRanges : List (Nat × Nat) := [
  (9, 13), (0x20, 0x20), (0x85, 0x85), (0xa0, 0xa0), (0x1680, 0x1680), (0x2000, 0x200a),
  (0x2028, 0x2029), (0x202f, 0x202f), (0x205f, 0x205f), (0x3000, 0x3000)]

theorem isBlank_iff {c : Char} :
    isBlank c = true ↔ ∃ r ∈ blankRanges, r.1 ≤ c.toNat ∧ c.toNat ≤ r.2 := by
  simp only [isBlank, blankRanges, List.mem_cons, List.not_mem_nil, or_false, exists_eq_or_imp,
    exists_eq_left, Bool.or_eq_true, Bool.and_eq_true, decide_eq_true_iff, beq_iff_eq]
  omega

/-- Ranges that have no code point in common. -/
def Apart (ranges others : List (Nat × Nat)) : Prop :=
  ∀ r ∈ ranges, ∀ s ∈ others, r.2 < s.1 ∨ s.2 < r.1

instance (ranges others : List (Nat × Nat)) : Decidable (Apart ranges others) :=
  inferInstanceAs (Decidable (∀ r ∈ ranges, ∀ s ∈ others, r.2 < s.1 ∨ s.2 < r.1))

theorem inRanges_of_isBlank {ranges : List (Nat × Nat)} (hapart : Apart blankRanges ranges) {c : Char}
    (h : isBlank c = true) : inRanges ranges c.toNat = false := by
  obtain ⟨r, hr, hlow, hhigh⟩ := isBlank_iff.mp h
  simp only [inRanges, List.any_eq_false, Bool.and_eq_true, decide_eq_true_iff]
  rintro s hs ⟨hlow', hhigh'⟩
  rcases hapart r hr s hs with hbelow | habove <;> omega

theorem isCased_of_isBlank {c : Char} (h : isBlank c = true) : isCased c = false :=
  inRanges_of_isBlank (by decide +kernel) h

theorem isCaseIgnorable_of_isBlank {c : Char} (h : isBlank c = true) : isCaseIgnorable c = false :=
  inRanges_of_isBlank (by decide +kernel) h

/-- Nothing is seen of a word across a blank. -/
theorem casedAhead_blank {c : Char} (h : isBlank c = true) (cs : List Char) :
    casedAhead (c :: cs) = false := by
  simp [casedAhead, isCaseIgnorable_of_isBlank h, isCased_of_isBlank h]

/-- A capital letter moves by 32, and other characters stay. -/
theorem toLower_eq_or (c : Char) :
    c.toLower = c ∨ 65 ≤ c.toNat ∧ c.toNat ≤ 90 ∧ c.toLower.toNat = c.toNat + 32 := by
  unfold Char.toLower
  split
  · next h =>
      right
      obtain ⟨hlow, hhigh⟩ := h
      rw [ge_iff_le, UInt32.le_iff_toNat_le] at hlow
      rw [UInt32.le_iff_toNat_le] at hhigh
      have hA : 65 ≤ c.toNat := hlow
      have hZ : c.toNat ≤ 90 := hhigh
      have hshift : ('a'.val - 'A'.val).toNat = 32 := rfl
      refine ⟨hA, hZ, ?_⟩
      rw [Char.toNat_mk, UInt32.toNat_add, hshift, Char.toNat_val]
      omega
  · exact Or.inl rfl

theorem toNat_ofNat_or (n : Nat) : (Char.ofNat n).toNat = n ∨ (Char.ofNat n).toNat = 0 := by
  by_cases h : n.isValidChar
  · left
    rw [Char.ofNat, dif_pos h]
    rfl
  · right
    rw [Char.ofNat, dif_neg h]
    rfl

theorem blankRanges_pos : ∀ s ∈ blankRanges, 0 < s.1 := by decide

/-- A mapping moves blanks nowhere, and nothing to a blank. -/
theorem lowerRanges_apart :
    ∀ r ∈ lowerRanges, ∀ s ∈ blankRanges, (s.2 < r.first ∨ r.last < s.1) ∧
      ((s.2 : Int) < r.first + r.shift ∨ r.last + r.shift < (s.1 : Int)) := by
  decide +kernel

theorem lowerChar_of_isBlank {c : Char} (h : isBlank c = true) : lowerChar c = [c] := by
  obtain ⟨s, hs, hlow, hhigh⟩ := isBlank_iff.mp h
  unfold lowerChar
  split
  · rcases toLower_eq_or c with heq | ⟨hA, hZ, -⟩
    · rw [heq]
    · simp [isBlank] at h
      omega
  · split
    · next heq =>
        subst heq
        cases h
    · have hnone : lowerRanges.find? (·.covers c.toNat) = none := by
        rw [List.find?_eq_none]
        intro r hr hcovers
        simp only [CaseRange.covers, Bool.and_eq_true, decide_eq_true_iff] at hcovers
        rcases (lowerRanges_apart r hr s hs).1 with hbelow | habove <;> omega
      rw [hnone]

theorem isBlank_of_mem_lowerChar {c d : Char} (hc : isBlank c = false) (hd : d ∈ lowerChar c) :
    isBlank d = false := by
  unfold lowerChar at hd
  split at hd
  · rw [List.mem_singleton.mp hd]
    rcases toLower_eq_or c with heq | ⟨hA, hZ, hmoved⟩
    · rw [heq, hc]
    · cases hblank : isBlank c.toLower with
      | false => rfl
      | true =>
        simp [isBlank, hmoved] at hblank
        omega
  · split at hd
    · simp at hd
      rcases hd with rfl | rfl <;> decide
    · split at hd
      · next r hr =>
          rw [List.mem_singleton.mp hd]
          have hrange := List.mem_of_find?_eq_some hr
          have hcovers := List.find?_some hr
          simp only [CaseRange.covers, Bool.and_eq_true, decide_eq_true_iff] at hcovers
          cases hblank : isBlank (Char.ofNat ((c.toNat : Int) + r.shift).toNat) with
          | false => rfl
          | true =>
            obtain ⟨s, hs, hlow, hhigh⟩ := isBlank_iff.mp hblank
            have happart := (lowerRanges_apart r hrange s hs).2
            have hpos := blankRanges_pos s hs
            rcases toNat_ofNat_or ((c.toNat : Int) + r.shift).toNat with heq | heq <;> omega
      · rw [List.mem_singleton.mp hd, hc]

/-! ## Words -/

/-- The first word of a text hides what follows it. -/
theorem casedAhead_piece (h : piecesAt isBlank cs = piece :: more) :
    casedAhead cs = casedAhead piece := by
  obtain ⟨rest, rfl, hrest⟩ := exists_rest_of_piecesAt h
  have hnone : casedAhead rest = casedAhead [] := by
    cases rest with
    | nil => rfl
    | cons c rest =>
        rw [casedAhead_blank (hrest c rfl)]
        rfl
  rw [casedAhead_append_congr piece hnone, List.append_nil]

/-- A lower-cased text has its blanks where the text has them, and nothing is seen across them. -/
theorem piecesAt_lowerAfter (before : List Char) (h : piecesAt isBlank cs = piece :: more) :
    piecesAt isBlank (lowerAfter before cs) = lowerAfter before piece :: more.map (lowerAfter []) := by
  induction cs generalizing before piece more with
  | nil =>
      cases h
      rfl
  | cons c cs ih =>
      obtain ⟨first, others, hcs, ⟨hc, hcut⟩ | ⟨hc, hlonger⟩⟩ := piecesAt_cons isBlank c cs
      · cases hcut.symm.trans h
        have hne : c ≠ 'Σ' := by
          rintro rfl
          cases hc
        have hnone : casedAhead (c :: before) = casedAhead [] := casedAhead_blank hc before
        have hblank : lowerAfter before (c :: cs) = c :: lowerAfter [] cs := by
          rw [lowerAfter, if_neg hne, lowerChar_of_isBlank hc, List.singleton_append,
            lowerAfter_congr hnone]
        rw [hblank, piecesAt, if_pos hc, ih [] hcs]
        rfl
      · cases hlonger.symm.trans h
        have hsame : lowerSigma before cs = lowerSigma before first := by
          rw [lowerSigma, lowerSigma, casedAhead_piece hcs]
        rw [lowerAfter, lowerAfter, hsame]
        refine piecesAt_append ?_ (ih (c :: before) hcs)
        split
        · rw [List.forall_mem_singleton, lowerSigma]
          split <;> decide
        · exact fun d hd => isBlank_of_mem_lowerChar hc hd

theorem words_lower (s : String) :
    words (lower s).toList = (words s.toList).map (lowerAfter []) := by
  obtain ⟨piece, more, h⟩ := List.exists_cons_of_ne_nil (piecesAt_ne_nil isBlank s.toList)
  have hempty : (fun cs => !(lowerAfter [] cs).isEmpty) = fun cs : List Char => !cs.isEmpty := by
    funext cs
    rw [Bool.eq_iff_iff]
    simp [lowerAfter_eq_nil_iff]
  rw [words, words, lower, String.toList_ofList, piecesAt_lowerAfter [] h, h, ← List.map_cons,
    List.filter_map]
  simp only [Function.comp_def, hempty]

end PageAudit.Text
