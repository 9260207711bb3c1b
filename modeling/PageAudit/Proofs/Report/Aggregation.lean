import Mathlib.Data.List.Induction
import Mathlib.Data.List.Nodup
import PageAudit.Report.Summary

/-!
# Totals agree with counting

The table of modules is built by going through the results once. It says of every module what
counting its results says, and names the modules in the order in which they first appear. So its
columns add up to the totals of the suite, and the order of the results decides nothing but the
order of the modules.
-/

namespace PageAudit.Report

/-! ## First appearances -/

section FirstAppearances

variable {α : Type} [DecidableEq α]

theorem eraseDups_concat (xs : List α) (x : α) :
    (xs ++ [x]).eraseDups = if x ∈ xs.eraseDups then xs.eraseDups else xs.eraseDups ++ [x] := by
  rw [List.eraseDups_append]
  by_cases hx : x ∈ xs
  · simp [List.removeAll, hx]
  · simp [List.removeAll, hx, List.eraseDups_cons]

theorem nodup_eraseDups (xs : List α) : xs.eraseDups.Nodup := by
  induction xs using List.reverseRecOn with
  | nil => exact List.nodup_nil
  | append_singleton xs x ih =>
      rw [eraseDups_concat]
      split
      · exact ih
      · rename_i hx
        exact List.nodup_append.mpr ⟨ih, List.nodup_singleton x, fun a ha b hb => by
          rw [List.mem_singleton.mp hb]
          exact fun heq => hx (heq ▸ ha)⟩

end FirstAppearances

/-! ## Counting by module -/

def moduleOf (x : PageResult) : String := moduleKey x.route

/-- What counting says of a module. -/
def counted (results : List PageResult) (m : String) : ModuleTotals where
  total := results.countP fun x => moduleOf x == m
  passed := results.countP fun x => moduleOf x == m && x.passed
  failed := results.countP fun x => moduleOf x == m && !x.passed

theorem counted_concat (results : List PageResult) (x : PageResult) (m : String) :
    counted (results ++ [x]) m =
      if m = moduleOf x then (counted results m).add x.passed else counted results m := by
  by_cases hm : m = moduleOf x
  · cases hp : x.passed <;> simp [counted, ModuleTotals.add, hm, hp]
  · have hne : (moduleOf x == m) = false := beq_false_of_ne (Ne.symm hm)
    simp [counted, hm, hne]

theorem counted_of_not_mem {results : List PageResult} {m : String}
    (h : m ∉ results.map moduleOf) : counted results m = ⟨0, 0, 0⟩ := by
  have hne (x : PageResult) (hx : x ∈ results) : (moduleOf x == m) = false :=
    beq_false_of_ne fun heq => h (heq ▸ List.mem_map_of_mem hx)
  simp only [counted, ModuleTotals.mk.injEq, List.countP_eq_zero]
  refine ⟨fun x hx => ?_, fun x hx => ?_, fun x hx => ?_⟩ <;> simp [hne x hx]

theorem counted_perm {results results' : List PageResult} (h : results'.Perm results) :
    counted results' = counted results := by
  funext m
  simp only [counted, h.countP_eq]

/-! ## The table of modules -/

/-- Counting one more page in a table that lists each module once. -/
theorem count_map {keys : List String} (hkeys : keys.Nodup) {f : String → ModuleTotals}
    {key : String} (hnew : key ∉ keys → f key = ⟨0, 0, 0⟩) (passed : Bool) :
    count key passed (keys.map fun m => (m, f m)) =
      (if key ∈ keys then keys else keys ++ [key]).map fun m =>
        (m, if m = key then (f m).add passed else f m) := by
  induction keys with
  | nil => simp [count, hnew]
  | cons m keys ih =>
      obtain ⟨hm, hkeys⟩ := List.nodup_cons.mp hkeys
      by_cases hkey : m = key
      · subst hkey
        have hrest : keys.map (fun k => (k, f k)) =
            keys.map fun k => (k, if k = m then (f k).add passed else f k) :=
          List.map_congr_left fun k hk => by
            rw [if_neg fun heq : k = m => hm (heq ▸ hk)]
        simp [count, hrest]
      · have hnew' : key ∉ keys → f key = ⟨0, 0, 0⟩ := fun h =>
          hnew fun hmem => (List.mem_cons.mp hmem).elim (fun heq => hkey heq.symm) h
        have hmem : key ∈ m :: keys ↔ key ∈ keys := by simp [Ne.symm hkey]
        simp only [List.map_cons, count, hkey, ↓reduceIte, ih hkeys hnew', hmem]
        split
        · simp [hkey]
        · simp [hkey]

theorem tally_concat (results : List PageResult) (x : PageResult) :
    tally (results ++ [x]) = count (moduleOf x) x.passed (tally results) := by
  simp only [tally, List.foldl_append, List.foldl_cons, List.foldl_nil]
  rfl

theorem tally_eq (results : List PageResult) :
    tally results =
      (results.map moduleOf).eraseDups.map fun m => (m, counted results m) := by
  induction results using List.reverseRecOn with
  | nil => rfl
  | append_singleton results x ih =>
      have hnew : moduleOf x ∉ (results.map moduleOf).eraseDups →
          counted results (moduleOf x) = ⟨0, 0, 0⟩ := fun h =>
        counted_of_not_mem fun hmem => h (List.mem_eraseDups.mpr hmem)
      rw [tally_concat, ih, count_map (nodup_eraseDups _) hnew, List.map_append, List.map_singleton,
        eraseDups_concat]
      simp only [counted_concat]

/-! ## Columns -/

section Columns

variable {column : ModuleTotals → Nat} (share : Bool → Nat)

/-- A column of a table grows by what a page adds to its module. -/
theorem sum_count (hzero : column ⟨0, 0, 0⟩ = 0)
    (hadd : ∀ t passed, column (t.add passed) = column t + share passed) (key : String)
    (passed : Bool) (table : List (String × ModuleTotals)) :
    ((count key passed table).map fun e => column e.2).sum =
      (table.map fun e => column e.2).sum + share passed := by
  induction table with
  | nil => simp [count, hadd, hzero]
  | cons e table ih =>
      obtain ⟨k, t⟩ := e
      by_cases hk : k = key
      · simp only [count, hk, ↓reduceIte, List.map_cons, List.sum_cons, hadd]
        omega
      · simp only [count, hk, ↓reduceIte, List.map_cons, List.sum_cons, ih]
        omega

theorem sum_tally (hzero : column ⟨0, 0, 0⟩ = 0)
    (hadd : ∀ t passed, column (t.add passed) = column t + share passed)
    (results : List PageResult) :
    ((tally results).map fun e => column e.2).sum =
      (results.map fun x => share x.passed).sum := by
  induction results using List.reverseRecOn with
  | nil => rfl
  | append_singleton results x ih =>
      rw [tally_concat, sum_count share hzero hadd, ih]
      simp

end Columns

/-! ## Reports -/

/-- The totals of a report and its table of modules say of its results what counting says. -/
structure Aggregates (r : Report) (results : List PageResult) : Prop where
  kept : r.results = results
  total : r.totals.total = results.length
  passed : r.totals.passed = results.countP PageResult.passed
  partition : r.totals.passed + r.totals.failed = r.totals.total
  /-- Every module is listed once, in the order of first appearance. -/
  modules : r.byModule.map Prod.fst = (results.map fun x => moduleKey x.route).eraseDups
  distinct : (r.byModule.map Prod.fst).Nodup
  counts (m : String) (t : ModuleTotals) : (m, t) ∈ r.byModule →
    t.total = results.countP (fun x => moduleKey x.route == m) ∧
    t.passed = results.countP (fun x => moduleKey x.route == m && x.passed) ∧
    t.failed = results.countP (fun x => moduleKey x.route == m && !x.passed)
  sumTotal : (r.byModule.map fun e => e.2.total).sum = r.totals.total
  sumPassed : (r.byModule.map fun e => e.2.passed).sum = r.totals.passed
  sumFailed : (r.byModule.map fun e => e.2.failed).sum = r.totals.failed

section Reports

variable (results : List PageResult) (start stop : Moment) (environment : Environment)

theorem sum_total : ((tally results).map fun e => e.2.total).sum = results.length := by
  rw [sum_tally (fun _ => 1) rfl (by rintro t (_ | _) <;> rfl)]
  simp

theorem sum_passed :
    ((tally results).map fun e => e.2.passed).sum = results.countP PageResult.passed := by
  rw [sum_tally (fun passed => if passed then 1 else 0) rfl (by rintro t (_ | _) <;> rfl)]
  induction results with
  | nil => rfl
  | cons x results ih => rw [List.map_cons, List.sum_cons, ih, List.countP_cons, Nat.add_comm]

theorem sum_failed : ((tally results).map fun e => e.2.failed).sum =
    results.length - results.countP PageResult.passed := by
  rw [sum_tally (fun passed => if passed then 0 else 1) rfl (by rintro t (_ | _) <;> rfl)]
  induction results with
  | nil => rfl
  | cons x results ih =>
      have hle : results.countP PageResult.passed ≤ results.length := List.countP_le_length
      rw [List.map_cons, List.sum_cons, ih, List.countP_cons, List.length_cons]
      cases x.passed with
      | true => simp
      | false =>
          simp
          omega

theorem aggregates_build :
    Aggregates (build results start stop environment) results where
  kept := rfl
  total := rfl
  passed := rfl
  partition := Nat.add_sub_of_le List.countP_le_length
  modules := by
    show (tally results).map Prod.fst = _
    rw [tally_eq, List.map_map]
    exact List.map_id _
  distinct := by
    show ((tally results).map Prod.fst).Nodup
    rw [tally_eq, List.map_map]
    exact (List.map_id _).symm ▸ nodup_eraseDups _
  counts m t h := by
    change (m, t) ∈ tally results at h
    rw [tally_eq, List.mem_map] at h
    obtain ⟨m', -, heq⟩ := h
    cases heq
    exact ⟨rfl, rfl, rfl⟩
  sumTotal := sum_total results
  sumPassed := sum_passed results
  sumFailed := sum_failed results

variable {results} in
theorem totalsOf_perm {results' : List PageResult} (h : results'.Perm results) :
    totalsOf results' = totalsOf results := by
  have hempty : results'.isEmpty = results.isEmpty := by
    rw [Bool.eq_iff_iff, List.isEmpty_iff, List.isEmpty_iff]
    exact ⟨fun hnil => List.nil_perm.mp (hnil ▸ h), fun hnil => List.perm_nil.mp (hnil ▸ h)⟩
  simp only [totalsOf, h.countP_eq, h.length_eq, hempty]

variable {results} in
theorem tally_perm {results' : List PageResult} (h : results'.Perm results) :
    (tally results').Perm (tally results) := by
  rw [tally_eq, tally_eq, counted_perm h]
  refine List.Perm.map _ ((List.perm_ext_iff_of_nodup (nodup_eraseDups _) (nodup_eraseDups _)).mpr
    fun m => ?_)
  rw [List.mem_eraseDups, List.mem_eraseDups]
  exact (h.map moduleOf).mem_iff

/-- A report agrees with counting, and the order of the results decides nothing but the order of the
modules. -/
theorem build_aggregates :
    Aggregates (build results start stop environment) results ∧
      ∀ results', results'.Perm results →
        (build results' start stop environment).totals =
            (build results start stop environment).totals ∧
          (build results' start stop environment).byModule.Perm
            (build results start stop environment).byModule :=
  ⟨aggregates_build results start stop environment,
    fun _ h => ⟨totalsOf_perm h, tally_perm h⟩⟩

end Reports

end PageAudit.Report
