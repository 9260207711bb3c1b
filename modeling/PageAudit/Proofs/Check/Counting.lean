import PageAudit.Check.Evaluate

/-!
# Counting the rows of tables

The rows that tables state are counted in 64 bits. The count is their number if it has no more bits than
that. If it has, there is no count, and a check of the tables of a completed recognition has no outcome.
Nothing else keeps checks from having the outcomes of `evaluate`.
-/

namespace PageAudit

/-! ## The count -/

namespace Recognition.Result

theorem foldlM_addRows? (tables : List Table) {rows : Nat} (h : rows < 2 ^ 64) :
    tables.foldlM addRows? rows =
      if rows + (tables.map Table.rowCount).sum < 2 ^ 64 then
        some (rows + (tables.map Table.rowCount).sum)
      else none := by
  induction tables generalizing rows with
  | nil =>
      rw [List.map_nil, List.sum_nil, Nat.add_zero, if_pos h]
      rfl
  | cons t rest ih =>
      rw [List.foldlM_cons, List.map_cons, List.sum_cons, ← Nat.add_assoc, addRows?]
      by_cases ht : rows + t.rowCount < 2 ^ 64
      · rw [if_pos ht]
        exact ih ht
      · -- what has left the range does not come back
        rw [if_neg ht, if_neg (by omega)]
        rfl

theorem countRows?_eq (r : Result) :
    r.countRows? = if r.totalRows < 2 ^ 64 then some r.totalRows else none := by
  rw [countRows?, foldlM_addRows? r.tables (by decide), Nat.zero_add]
  rfl

end Recognition.Result

/-! ## Checks that count -/

namespace Check

open Recognition (Result)

variable {r : Result} {checks : List Spec}

/-- The tables state more rows than can be counted, and a check has to count them. -/
structure Uncountable (r : Result) (checks : List Spec) : Prop where
  completed : r.isFailed = false
  rows : 2 ^ 64 ≤ r.totalRows
  check : ∃ c ∈ checks, c.kind = .tableMinRows

theorem tableMinRows?_eq (r : Result) (minRows : Nat) :
    tableMinRows? r minRows =
      if r.isFailed = false ∧ 2 ^ 64 ≤ r.totalRows then none else some (tableMinRows r minRows) := by
  unfold tableMinRows? tableMinRows
  cases r.isFailed with
  | true => rfl
  | false =>
      simp only [Bool.false_eq_true, ↓reduceIte, true_and, Result.countRows?_eq]
      by_cases hrows : 2 ^ 64 ≤ r.totalRows
      · rw [if_pos hrows, if_neg (Nat.not_lt.mpr hrows)]
        rfl
      · rw [if_neg hrows, if_pos (Nat.not_le.mp hrows)]
        rfl

theorem evaluateOne?_eq (r : Result) (c : Spec) :
    evaluateOne? r c =
      if c.kind = .tableMinRows ∧ r.isFailed = false ∧ 2 ^ 64 ≤ r.totalRows then none
      else some (evaluateOne r c) := by
  cases c with
  | tableMinRows minRows => simp [evaluateOne?, evaluateOne, tableMinRows?_eq, Spec.kind]
  | _ => simp [evaluateOne?, Spec.kind]

theorem evaluate?_cons (r : Result) (c : Spec) (rest : List Spec) :
    evaluate? r (c :: rest) =
      (evaluateOne? r c).bind fun x => (evaluate? r rest).map fun xs => x :: xs := by
  rw [evaluate?, List.mapM_cons]
  cases evaluateOne? r c with
  | none => rfl
  | some x => cases h : rest.mapM (evaluateOne? r) <;> simp [evaluate?, h]

/-- The checks have the outcomes of `evaluate`, unless they count rows that cannot be counted. -/
theorem evaluate?_cases (r : Result) (checks : List Spec) :
    (Uncountable r checks ∧ evaluate? r checks = none) ∨
      (¬ Uncountable r checks ∧ evaluate? r checks = some (evaluate r checks)) := by
  induction checks with
  | nil => exact Or.inr ⟨fun ⟨_, _, h⟩ => by simp at h, rfl⟩
  | cons c rest ih =>
      rw [evaluate?_cons, evaluateOne?_eq]
      by_cases hc : c.kind = .tableMinRows ∧ r.isFailed = false ∧ 2 ^ 64 ≤ r.totalRows
      · rw [if_pos hc]
        exact Or.inl ⟨⟨hc.2.1, hc.2.2, c, List.mem_cons_self, hc.1⟩, rfl⟩
      · rw [if_neg hc]
        rcases ih with ⟨⟨hcompleted, hrows, d, hd, hkind⟩, hnone⟩ | ⟨hcountable, hsome⟩
        · rw [hnone]
          exact Or.inl ⟨⟨hcompleted, hrows, d, List.mem_cons_of_mem c hd, hkind⟩, rfl⟩
        · rw [hsome]
          refine Or.inr ⟨?_, rfl⟩
          rintro ⟨hcompleted, hrows, d, hd, hkind⟩
          rcases List.mem_cons.mp hd with rfl | hd
          · exact hc ⟨hkind, hcompleted, hrows⟩
          · exact hcountable ⟨hcompleted, hrows, d, hd, hkind⟩

theorem evaluate?_eq_none_iff : evaluate? r checks = none ↔ Uncountable r checks := by
  rcases evaluate?_cases r checks with ⟨h, heq⟩ | ⟨h, heq⟩
  · exact iff_of_true heq h
  · exact iff_of_false (by simp [heq]) h

end Check

end PageAudit
