import PageAudit.Proofs.Number.Rounding

/-!
# Rates

A part of a whole is a number between zero and one, and the whole of it is exactly one, as long as what
is counted has a number of 64 bits.
-/

namespace PageAudit

namespace Magnitude

variable {m n : Magnitude}

theorem eq_of_place (h : m.place = n.place) : m = n := by
  cases m
  cases n
  cases h
  rfl

section

variable {k : Nat}

theorem isInfinite_ofNat (h : k < 2 ^ 64) : (ofNat k).isInfinite = false := by
  have hle := ofNat_le h.le
  have hlimit : (ofNat (2 ^ 64)).place < infinityPlace := by decide +kernel
  exact beq_false_of_ne (by omega)

theorem place_ofNat_ne_zero (h : 0 < k) : (ofNat k).place ≠ 0 := by
  have hle := ofNat_le (m := 1) h
  have hone : 0 < (ofNat 1).place := by decide +kernel
  omega

end

/-- A quotient of two equal magnitudes is exactly one. -/
theorem div_self (h : m.place ≠ 0) : m.div m = ofNat 1 := by
  have hpos := units_pos h
  refine eq_of_place (Nat.le_antisymm ?_ ?_)
  · exact ofRatio_le hpos Nat.one_pos (by rw [Nat.mul_one, Nat.one_mul])
  · exact ofRatio_le Nat.one_pos hpos (by rw [Nat.mul_one, Nat.one_mul])

end Magnitude

namespace Double

section

variable {s t : Bool} {m n : Magnitude} (hm : m.isInfinite = false) (hn : n.isInfinite = false)
include hm hn

theorem mul_num : (num s m).mul (num t n) = num (s != t) (m.mul n) := by
  simp [mul, hm, hn]

theorem div_num (hzero : n.isZero = false) :
    (num s m).div (num t n) = num (s != t) (m.div n) := by
  simp [div, hm, hn, hzero]

end

variable {part whole : Nat}

theorem fraction_eq (hpart : part ≤ whole) (hpos : 0 < whole) (hsmall : whole < 2 ^ 64) :
    fraction part whole = num false ((Magnitude.ofNat part).div (Magnitude.ofNat whole)) :=
  div_num (Magnitude.isInfinite_ofNat (by omega)) (Magnitude.isInfinite_ofNat hsmall)
    (beq_false_of_ne (Magnitude.place_ofNat_ne_zero hpos))

/-- A part of a whole is at most one. -/
theorem exists_fraction (hpart : part ≤ whole) (hpos : 0 < whole) (hsmall : whole < 2 ^ 64) :
    ∃ m, fraction part whole = num false m ∧ m.place ≤ (Magnitude.ofNat 1).place := by
  refine ⟨_, fraction_eq hpart hpos hsmall, ?_⟩
  refine Magnitude.ofRatio_le (Magnitude.units_pos (Magnitude.place_ofNat_ne_zero hpos)) Nat.one_pos ?_
  rw [Nat.mul_one, Nat.one_mul]
  exact Magnitude.units_le (Magnitude.ofNat_le hpart)

/-- The whole of it is exactly one. -/
theorem fraction_self (hpos : 0 < whole) (hsmall : whole < 2 ^ 64) : fraction whole whole = one := by
  rw [fraction_eq (Nat.le_refl whole) hpos hsmall,
    Magnitude.div_self (Magnitude.place_ofNat_ne_zero hpos)]
  rfl

/-- A part of a whole is at most a hundred percent. -/
theorem exists_percent (hpart : part ≤ whole) (hpos : 0 < whole) (hsmall : whole < 2 ^ 64) :
    ∃ m, percent part whole = num false m ∧ m.place ≤ (Magnitude.ofNat 100).place := by
  obtain ⟨m, hm, hle⟩ := exists_fraction hpart hpos hsmall
  have hone : (Magnitude.ofNat 1).place < infinityPlace := by decide +kernel
  have hfinite : m.isInfinite = false := beq_false_of_ne (by omega)
  refine ⟨m.mul (Magnitude.ofNat 100), ?_, ?_⟩
  · rw [percent, hm]
    exact mul_num hfinite (Magnitude.isInfinite_ofNat (by decide))
  · have hexact : ((Magnitude.ofNat 1).mul (Magnitude.ofNat 100)).place =
        (Magnitude.ofNat 100).place := by decide +kernel
    rw [← hexact]
    exact Magnitude.mul_le hle (Nat.le_refl _)

end Double

end PageAudit
