import PageAudit.Proofs.Number.Rates

/-!
# Exact values

Numbers are compared by their places in the order of all numbers. This is the order of their exact
values, since a magnitude at a later place has a greater value.
-/

namespace PageAudit

namespace Magnitude

variable {m n : Magnitude}

theorem units_le_iff : m.units ≤ n.units ↔ m.place ≤ n.place := unitsAt_strictMono.le_iff_le

theorem units_eq_zero_iff : m.units = 0 ↔ m.place = 0 :=
  unitsAt_strictMono.injective.eq_iff' rfl

end Magnitude

namespace Double

/-- The exact value of a number, counted in the units in which its magnitude is. An infinite number has
the value at which the finite ones end. -/
def units : Double → Int
  | nan => 0
  | num negative m => if negative then -(m.units : Int) else m.units

variable {x y : Double}

theorem signedPlace_le_iff {s t : Bool} {m n : Magnitude} :
    signedPlace s m ≤ signedPlace t n ↔ (num s m).units ≤ (num t n).units := by
  have hmn := Magnitude.units_le_iff (m := m) (n := n)
  have hnm := Magnitude.units_le_iff (m := n) (n := m)
  have hm := Magnitude.units_eq_zero_iff (m := m)
  have hn := Magnitude.units_eq_zero_iff (m := n)
  rw [signedPlace, signedPlace, units, units]
  -- numbers of different signs are only compared with zero
  cases s <;> cases t <;> simp only [if_true, if_false, Bool.false_eq_true] <;> omega

/-- A number is at most another one exactly if its value is. -/
theorem le_iff (hx : x ≠ nan) (hy : y ≠ nan) : x.le y = true ↔ x.units ≤ y.units := by
  cases x with
  | nan => exact absurd rfl hx
  | num s m =>
      cases y with
      | nan => exact absurd rfl hy
      | num t n => rw [le, decide_eq_true_iff, signedPlace_le_iff]

theorem lt_iff (hx : x ≠ nan) (hy : y ≠ nan) : x.lt y = true ↔ x.units < y.units := by
  cases x with
  | nan => exact absurd rfl hx
  | num s m =>
      cases y with
      | nan => exact absurd rfl hy
      | num t n => rw [lt, decide_eq_true_iff, ← Int.not_le, signedPlace_le_iff, Int.not_le]

theorem ne_nan_of_le (h : x.le y = true) : x ≠ nan ∧ y ≠ nan := by
  cases x <;> cases y <;> simp [le] at h ⊢

/-! ## Numbers between zero and one -/

theorem clamp_spec (h : x ≠ nan) : x.clamp zero one ≠ nan ∧ (x.clamp zero one).le one = true := by
  cases x with
  | nan => exact absurd rfl h
  | num s m =>
      rw [clamp]
      split
      · exact ⟨nofun, by decide +kernel⟩
      · split
        · exact ⟨nofun, by decide +kernel⟩
        · next hone =>
            rw [one, lt, decide_eq_true_iff, Int.not_lt] at hone
            rw [one, le, decide_eq_true_iff]
            exact ⟨nofun, hone⟩

theorem one_units_pos : 0 < one.units := by
  have hplace : (Magnitude.ofNat 1).place ≠ 0 := by decide +kernel
  exact Int.natCast_pos.mpr (Magnitude.units_pos hplace)

theorem units_clamp (h : x ≠ nan) :
    (x.clamp zero one).units = if x.units < 0 then 0 else min x.units one.units := by
  have hzero : zero.units = 0 := by decide +kernel
  rw [clamp]
  simp only [lt_iff h (by simp [zero] : zero ≠ nan), lt_iff (by simp [one] : one ≠ nan) h, hzero]
  split
  · exact hzero
  · split <;> omega

theorem clamp_mono (hx : x ≠ nan) (hy : y ≠ nan) (h : x.units ≤ y.units) :
    (x.clamp zero one).units ≤ (y.clamp zero one).units := by
  have hone := one_units_pos
  rw [units_clamp hx, units_clamp hy]
  split <;> split <;> omega

theorem zero_le_clamp (h : x ≠ nan) : zero.le (x.clamp zero one) = true := by
  have hzero : zero.units = 0 := by decide +kernel
  have hone := one_units_pos
  rw [le_iff (by simp [zero]) (clamp_spec h).1, units_clamp h, hzero]
  split <;> omega

theorem clamp_nan : nan.clamp zero one = nan := rfl

/-- A number that has been clamped stays. -/
theorem clamp_clamp (x : Double) : (x.clamp zero one).clamp zero one = x.clamp zero one := by
  cases hlow : x.lt zero with
  | true =>
      have hx : x.clamp zero one = zero := by simp [clamp, hlow]
      rw [hx]
      decide +kernel
  | false =>
      cases hhigh : one.lt x with
      | true =>
          have hx : x.clamp zero one = one := by simp [clamp, hlow, hhigh]
          rw [hx]
          decide +kernel
      | false =>
          have hx : x.clamp zero one = x := by simp [clamp, hlow, hhigh]
          rw [hx, hx]

/-! ## Fractions -/

/-- A greater part of a whole is no smaller fraction of it. -/
theorem fraction_le {part part' whole : Nat} (hparts : part ≤ part') (hpart : part' ≤ whole)
    (hpos : 0 < whole) (hsmall : whole < 2 ^ 64) :
    (fraction part whole).units ≤ (fraction part' whole).units := by
  rw [fraction_eq (hparts.trans hpart) hpos hsmall, fraction_eq hpart hpos hsmall]
  have hplaces := Magnitude.div_le (Magnitude.ofNat_le hparts) (Magnitude.place_ofNat_ne_zero hpos)
  exact Int.ofNat_le.mpr (Magnitude.units_le hplaces)

end Double

end PageAudit
