import Mathlib.Data.List.DropRight
import Mathlib.Tactic.Linarith
import PageAudit.Number.Shortest
import PageAudit.Proofs.Json.Grammar
import PageAudit.Proofs.Number.Digits
import PageAudit.Proofs.Number.Rates

/-!
# The numerals of doubles

The decimal that is chosen for a magnitude other than zero is not zero, and its point stands where
that of the magnitude does. So its numeral is one of the grammar.
-/

namespace PageAudit

namespace Magnitude

/-! ## Where the point stands -/

/-- How many places after the point are looked at. -/
def places : Nat := 400

/-- How many digits of a magnitude stand before the point and in the places after it. -/
def span (m : Magnitude) : Nat := (Nat.toDigits 10 (m.units * 10 ^ places / unit)).length

theorem pointPosition_eq (m : Magnitude) : m.pointPosition = (m.span : Int) - places := by
  unfold pointPosition span places
  generalize (Nat.toDigits 10 _).length = digits
  rfl

theorem span_le_iff {m : Magnitude} {k : Nat} (hk : 0 < k) :
    m.span ≤ k ↔ m.units * 10 ^ places < unit * 10 ^ k := by
  rw [span, Nat.length_toDigits_le_iff (by decide) hk, Nat.div_lt_iff_lt_mul unit_pos,
    Nat.mul_comm unit]

theorem units_lt_span (m : Magnitude) : m.units * 10 ^ places < unit * 10 ^ m.span :=
  (span_le_iff Nat.length_toDigits_pos).mp (Nat.le_refl _)

theorem unit_le_places : unit ≤ 10 ^ places := by
  have hbase (k : Nat) : 2 ^ (3 * k) ≤ 10 ^ k := by
    rw [Nat.pow_mul]
    exact Nat.pow_le_pow_left (by decide) k
  have hexponent : 1074 ≤ 3 * places := by decide
  unfold unit
  generalize 1074 = exponent at *
  exact (Nat.pow_le_pow_right (by decide) hexponent).trans (hbase places)

theorem span_le_units {m : Magnitude} (h : m.place ≠ 0) :
    unit * 10 ^ (m.span - 1) ≤ m.units * 10 ^ places := by
  rcases Nat.eq_zero_or_pos (m.span - 1) with hzero | hpos
  · rw [hzero, Nat.pow_zero, Nat.mul_one]
    exact unit_le_places.trans (Nat.le_mul_of_pos_left _ (units_pos h))
  · exact Nat.le_of_not_lt ((span_le_iff hpos).not.mp (by omega))

/-! ## Decimals next to a magnitude -/

section

variable {m : Magnitude} {scale : Int} {n : Nat} (hscale : scale = m.pointPosition - n)
include hscale

theorem shift_eq : (-scale).toNat + m.span = scale.toNat + places + n := by
  rw [pointPosition_eq] at hscale
  omega

/-- The decimal below with a given number of digits has no more digits than that. -/
theorem below_lt : (m.neighbours scale).1.digits < 10 ^ n := by
  have hshift := shift_eq hscale
  dsimp only [neighbours]
  generalize (-scale).toNat = left at *
  generalize scale.toNat = right at *
  rw [Nat.div_lt_iff_lt_mul (Nat.mul_pos unit_pos (Nat.pow_pos (by decide)))]
  refine Nat.lt_of_mul_lt_mul_right (a := 10 ^ places) ?_
  calc m.units * 10 ^ left * 10 ^ places = m.units * 10 ^ places * 10 ^ left := by ring
    _ < unit * 10 ^ m.span * 10 ^ left :=
      Nat.mul_lt_mul_of_pos_right (units_lt_span m) (Nat.pow_pos (by decide))
    _ = unit * 10 ^ (left + m.span) := by ring
    _ = 10 ^ n * (unit * 10 ^ right) * 10 ^ places := by rw [hshift]; ring

theorem below_pos (hn : 1 ≤ n) (h : m.place ≠ 0) : 0 < (m.neighbours scale).1.digits := by
  have hshift := shift_eq hscale
  have hspan : 0 < m.span := Nat.length_toDigits_pos
  dsimp only [neighbours]
  generalize (-scale).toNat = left at *
  generalize scale.toNat = right at *
  refine Nat.div_pos ?_ (Nat.mul_pos unit_pos (Nat.pow_pos (by decide)))
  refine Nat.le_of_mul_le_mul_right (c := 10 ^ places) ?_ (Nat.pow_pos (by decide))
  calc unit * 10 ^ right * 10 ^ places = unit * 10 ^ (right + places) := by ring
    _ ≤ unit * 10 ^ (m.span - 1 + left) :=
      Nat.mul_le_mul_left unit (Nat.pow_le_pow_right (by decide) (by omega))
    _ = unit * 10 ^ (m.span - 1) * 10 ^ left := by ring
    _ ≤ m.units * 10 ^ places * 10 ^ left := Nat.mul_le_mul_right _ (span_le_units h)
    _ = m.units * 10 ^ left * 10 ^ places := by ring

end

/-- No magnitude but zero holds the decimal zero. -/
theorem digits_pos_of_holds {m : Magnitude} {d : Decimal} (h : m.place ≠ 0)
    (hd : m.holds d = true) : 0 < d.digits := by
  refine Nat.pos_of_ne_zero fun hzero => ?_
  have hlow : 0 < (unitsAt (m.place - 1) + m.units) * 10 ^ (-d.scale).toNat :=
    Nat.mul_pos (Nat.add_pos_right _ (units_pos h)) (Nat.pow_pos (by decide))
  simp only [holds, hzero, Nat.zero_mul] at hd
  split at hd
  · rw [Bool.and_eq_true, decide_eq_true_iff] at hd
    omega
  · rw [Bool.and_eq_true, decide_eq_true_iff] at hd
    omega

/-- What a decimal that is chosen for a magnitude has in common with all others that could be. -/
structure Candidate (m : Magnitude) (d : Decimal) : Prop where
  digits_pos : 0 < d.digits
  exists_count : ∃ n : Nat, d.scale = m.pointPosition - n ∧ d.digits ≤ 10 ^ n

theorem candidate_of_withDigits? {m : Magnitude} {d : Decimal} {n : Nat} (h : m.place ≠ 0)
    (hd : m.withDigits? n = some d) : Candidate m d := by
  have hlt := below_lt (m := m) (n := n) rfl
  have hbelow (hholds : m.holds (m.neighbours (m.pointPosition - n)).1 = true) :
      Candidate m (m.neighbours (m.pointPosition - n)).1 :=
    ⟨digits_pos_of_holds h hholds, n, rfl, hlt.le⟩
  have habove : Candidate m (m.neighbours (m.pointPosition - n)).2 :=
    ⟨Nat.succ_pos _, n, rfl, hlt⟩
  unfold withDigits? at hd
  dsimp only at hd
  split at hd
  next hholds _ => exact Option.some.inj hd ▸ hbelow hholds
  next => exact Option.some.inj hd ▸ habove
  next hholds _ =>
    split at hd
    · exact Option.some.inj hd ▸ hbelow hholds
    split at hd
    · exact Option.some.inj hd ▸ habove
    split at hd
    · exact Option.some.inj hd ▸ hbelow hholds
    · exact Option.some.inj hd ▸ habove
  next => cases hd

theorem shortest_candidate {m : Magnitude} (h : m.place ≠ 0) : Candidate m m.shortest := by
  unfold shortest
  cases hfound : (List.range 17).findSome? fun n => m.withDigits? (n + 1) with
  | none =>
      exact ⟨below_pos (n := 17) rfl (by decide) h, 17, rfl, (below_lt (n := 17) rfl).le⟩
  | some d =>
      obtain ⟨n, -, hd⟩ := List.exists_of_findSome?_eq_some hfound
      exact candidate_of_withDigits? h hd

end Magnitude

/-! ## Laying out -/

/-- Digits that are given without zeros in front stay so when the last zeros are dropped. -/
theorem dropFinalZeros_of_head? {ds : List Digit} (hne : ds ≠ []) (hhead : ds.head? ≠ some 0) :
    dropFinalZeros ds ≠ [] ∧ (dropFinalZeros ds).head? ≠ some 0 := by
  have hinitial : dropFinalZeros ds <+: ds := List.rdropWhile_prefix _ ds
  have hdropped : dropFinalZeros ds ≠ [] := by
    intro hnil
    cases ds with
    | nil => exact hne rfl
    | cons d ds =>
        have hzero : (d == 0) = true := List.rdropWhile_eq_nil_iff.mp hnil d List.mem_cons_self
        exact hhead (congrArg some (beq_iff_eq.mp hzero))
  refine ⟨hdropped, ?_⟩
  obtain ⟨zeros, hzeros⟩ := hinitial
  rwa [← List.head?_append_of_ne_nil _ hdropped, hzeros]

namespace Double

theorem layOut_wellFormed {negative : Bool} {ds : List Digit} {point : Int} (hne : ds ≠ [])
    (hhead : ds.head? ≠ some 0) : (layOut negative ds point).WellFormed := by
  unfold layOut
  dsimp only
  split
  · cases ds with
    | nil => exact absurd rfl hne
    | cons d ds => exact ⟨List.cons_ne_nil _ _, fun _ => rfl⟩
  split
  · exact ⟨List.cons_ne_nil _ _, fun _ => rfl⟩
  · next hpoint =>
      cases ds with
      | nil => exact absurd rfl hne
      | cons d ds =>
          obtain ⟨k, hk⟩ : ∃ k, point.toNat = k + 1 := ⟨point.toNat - 1, by omega⟩
          simp only [hk, List.take_succ_cons]
          exact ⟨List.cons_ne_nil _ _, fun hzero => absurd hzero hhead⟩

/-- Every finite double has a numeral of the grammar. -/
theorem numeral?_wellFormed {x : Double} {n : Numeral} (h : x.numeral? = some n) :
    n.WellFormed := by
  cases x with
  | nan => cases h
  | num negative m =>
      unfold numeral? at h
      dsimp only at h
      split at h
      · cases h
      split at h
      · cases h
        exact ⟨List.cons_ne_nil _ _, fun _ => rfl⟩
      · next hzero =>
          have hplace : m.place ≠ 0 := by simpa [Magnitude.isZero] using hzero
          have hdigits := (Magnitude.shortest_candidate hplace).digits_pos
          obtain ⟨hne, hhead⟩ := dropFinalZeros_of_head? (Digit.ofNat_ne_nil _)
            (Digit.head?_ofNat hdigits.ne')
          cases h
          exact layOut_wellFormed hne hhead

end Double

theorem Numeral.wellFormed_ofNat (n : Nat) : (Numeral.ofNat n).WellFormed where
  whole_ne_nil := Digit.ofNat_ne_nil n
  lone_zero hzero := by
    rcases Nat.eq_zero_or_pos n with rfl | hpos
    · rfl
    · exact absurd hzero (Digit.head?_ofNat hpos.ne')

namespace Json

theorem printable_ofNat (n : Nat) : (ofNat n).Printable := Numeral.wellFormed_ofNat n

theorem printable_ofDouble (x : Double) : (ofDouble x).Printable := by
  unfold ofDouble
  split
  · next n hn => exact Double.numeral?_wellFormed hn
  · trivial

end Json

/-! ## Reading back -/

namespace Numeral

theorem length_gather_le (s : Nat) (ds : List Digit) : (gather s ds).2.length ≤ ds.length := by
  induction ds generalizing s with
  | nil => exact Nat.le_refl 0
  | cons d ds ih =>
      rw [gather]
      split
      · exact (ih _).trans (Nat.le_succ _)
      · exact Nat.le_refl _

/-- Digits that are few enough are all gathered. -/
theorem gather_all {s : Nat} {ds : List Digit} (h : (s + 1) * 10 ^ ds.length ≤ 2 ^ 64) :
    (gather s ds).2 = [] ∧ (gather s ds).1 + 1 ≤ (s + 1) * 10 ^ ds.length := by
  induction ds generalizing s with
  | nil => exact ⟨rfl, by simp [gather]⟩
  | cons d ds ih =>
      have hd := d.isLt
      have hstep : (s * 10 + d.val + 1) * 10 ^ ds.length ≤ (s + 1) * 10 ^ (d :: ds).length := by
        rw [List.length_cons, Nat.pow_succ, Nat.mul_comm (10 ^ _) 10, ← Nat.mul_assoc]
        exact Nat.mul_le_mul_right _ (by omega)
      have hroom : s * 10 + d.val < 2 ^ 64 :=
        Nat.lt_of_lt_of_le (Nat.lt_succ_self _)
          ((Nat.le_mul_of_pos_right _ (Nat.pow_pos (by decide))).trans (hstep.trans h))
      rw [gather, if_pos hroom]
      obtain ⟨hall, hvalue⟩ := ih (hstep.trans h)
      exact ⟨hall, hvalue.trans hstep⟩

theorem scale_isSome (m : Magnitude) {exponent : Int} (h : exponent < 0) :
    (scale m exponent).isSome := by
  fun_induction scale m exponent with
  | case1 => omega
  | case2 => omega
  | case3 => rfl
  | case4 => rfl
  | case5 => omega
  | case6 m exponent hfar _ _ ih => exact ih (by omega)

/-- A numeral is read if its whole part has room and it denotes no multiple of ten. -/
theorem read_isSome {n : Numeral} (hwhole : n.whole.length ≤ 18)
    (h : n.exponent.getD 0 < 0 ∨ n.exponent = none ∧ n.fraction ≠ []) : n.read.isSome := by
  have hroom : (0 + 1) * 10 ^ n.whole.length ≤ 2 ^ 64 := by
    rw [Nat.zero_add, Nat.one_mul]
    exact (Nat.pow_le_pow_right (by decide) hwhole).trans (by decide)
  obtain ⟨hdropped, hhigh⟩ := gather_all hroom
  have hexponent : n.exponent.getD 0 + (gather 0 n.whole).2.length -
      (n.fraction.length - (gather (gather 0 n.whole).1 n.fraction).2.length : Nat) < 0 := by
    rw [hdropped, List.length_nil]
    rcases h with hneg | ⟨hnone, hne⟩
    · omega
    · cases hfraction : n.fraction with
      | nil => exact absurd hfraction hne
      | cons d ds =>
          have hd := d.isLt
          have hten : 10 ^ n.whole.length ≤ 10 ^ 18 := Nat.pow_le_pow_right (by decide) hwhole
          have hfirst : (gather 0 n.whole).1 * 10 + d.val < 2 ^ 64 := by omega
          have hrest := length_gather_le ((gather 0 n.whole).1 * 10 + d.val) ds
          rw [gather, if_pos hfirst, hnone, List.length_cons]
          simp only [Option.getD_none]
          omega
  have hscale := scale_isSome (.ofNat (gather (gather 0 n.whole).1 n.fraction).1) hexponent
  rw [read, Option.isSome_map]
  exact hscale

end Numeral

namespace Double

/-- The double that is read for the numeral of a double; `none` if it has no numeral, or is read as
too large. -/
def reread (x : Double) : Option Double := x.numeral?.bind Numeral.read

theorem layOut_read {negative : Bool} {ds : List Digit} {point : Int} (hne : ds ≠ [])
    (hpoint : point ≤ 16) : (layOut negative ds point).read.isSome := by
  unfold layOut lowestPlain highestPlain
  dsimp only
  split
  · next hfar =>
      rw [Bool.or_eq_true, decide_eq_true_iff, decide_eq_true_iff] at hfar
      refine Numeral.read_isSome ?_ (Or.inl ?_)
      · rw [List.length_take]
        omega
      · rw [Option.getD_some]
        omega
  split
  · exact Numeral.read_isSome (by simp)
      (Or.inr ⟨rfl, List.append_ne_nil_of_right_ne_nil _ hne⟩)
  · refine Numeral.read_isSome ?_ (Or.inr ⟨rfl, ?_⟩)
    · rw [List.length_append, List.length_take, List.length_replicate]
      omega
    · dsimp only
      split
      · exact List.cons_ne_nil _ _
      · next hfraction => exact fun hnil => hfraction (by rw [hnil]; rfl)

/-- Doubles below a million milliards are printed without a positive exponent, so that they are
always read. -/
theorem exists_reread {negative : Bool} {m : Magnitude} (hfinite : m.isInfinite = false)
    (h : m.units < Magnitude.unit * 10 ^ 15) : ∃ y, (num negative m).reread = some y := by
  refine Option.isSome_iff_exists.mp ?_
  unfold reread numeral?
  dsimp only
  rw [hfinite, if_neg Bool.false_ne_true]
  split
  · rw [Option.bind_some]
    exact Numeral.read_isSome (by simp) (Or.inr ⟨rfl, List.cons_ne_nil _ _⟩)
  · next hzero =>
      have hplace : m.place ≠ 0 := by simpa [Magnitude.isZero] using hzero
      obtain ⟨hdigits, n, hscale, hcount⟩ := Magnitude.shortest_candidate hplace
      have hlength : (Digit.ofNat m.shortest.digits).length ≤ n + 1 := by
        rw [Digit.length_ofNat_le_iff (Nat.succ_pos n), Nat.pow_succ]
        have := Nat.pow_pos (n := n) (show 0 < 10 by decide)
        omega
      have hspan : m.span ≤ 15 + Magnitude.places := by
        rw [Magnitude.span_le_iff (by omega), Nat.pow_add, ← Nat.mul_assoc]
        generalize Magnitude.unit = unit at *
        exact Nat.mul_lt_mul_of_pos_right h (Nat.pow_pos (by decide))
      have hpoint := Magnitude.pointPosition_eq m
      rw [Option.bind_some]
      refine layOut_read ?_ (by omega)
      exact (dropFinalZeros_of_head? (Digit.ofNat_ne_nil _) (Digit.head?_ofNat hdigits.ne')).1

/-! ## Rates -/

/-- The percentage of a part is read back, if not always as itself. -/
theorem exists_reread_percent {part whole : Nat} (hpart : part ≤ whole) (hpos : 0 < whole)
    (hsmall : whole < 2 ^ 64) : ∃ y, (percent part whole).reread = some y := by
  obtain ⟨m, hm, hle⟩ := exists_percent hpart hpos hsmall
  have hhundred : (Magnitude.ofNat 100).place < infinityPlace := by decide +kernel
  have hunits : (Magnitude.ofNat 100).units < Magnitude.unit * 10 ^ 15 := by decide +kernel
  rw [hm]
  exact exists_reread (beq_false_of_ne (by omega)) ((Magnitude.units_le hle).trans_lt hunits)

end Double

end PageAudit
