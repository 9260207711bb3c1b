import Mathlib.Data.Nat.Log
import Mathlib.Order.Monotone.Basic
import Mathlib.Tactic.Linarith
import Mathlib.Tactic.Ring
import PageAudit.Number.Double

/-!
# Rounding keeps the order

A quotient is rounded to a whole number that is nearest to it, and of two quotients the greater one is
not rounded to a smaller number. The stretches of magnitudes follow one another without gaps, so the
same holds of the rounding of quotients to magnitudes.
-/

namespace PageAudit

/-! ## To whole numbers -/

section

variable {den : Nat} (h : 0 < den)
include h

/-- The rounded quotient is at most a half away, and even if it is a half away. -/
theorem roundQuotient_spec (num : Nat) : 2 * (roundQuotient num den * den) ≤ 2 * num + den ∧
    2 * num ≤ 2 * (roundQuotient num den * den) + den ∧
    (2 * (roundQuotient num den * den) = 2 * num + den ∨
      2 * num = 2 * (roundQuotient num den * den) + den → roundQuotient num den % 2 = 0) := by
  have hdiv := Nat.div_add_mod' num den
  have hmod := Nat.mod_lt num h
  unfold roundQuotient
  dsimp only
  split
  · rw [Nat.add_mul, Nat.one_mul]
    omega
  · split
    · rcases Nat.mod_two_eq_zero_or_one (num / den) with heven | hodd
      · rw [heven, Nat.add_zero]
        omega
      · rw [hodd, Nat.add_mul, Nat.one_mul]
        omega
    · omega

theorem roundQuotient_mul (n : Nat) : roundQuotient (n * den) den = n := by
  simp [roundQuotient, Nat.mul_div_cancel _ h, h.ne]

theorem roundQuotient_le {num num' den' : Nat} (h' : 0 < den') (hle : num * den' ≤ num' * den) :
    roundQuotient num den ≤ roundQuotient num' den' := by
  obtain ⟨hlow, -, heven⟩ := roundQuotient_spec h num
  obtain ⟨-, hhigh, heven'⟩ := roundQuotient_spec h' num'
  generalize roundQuotient num den = n at *
  generalize roundQuotient num' den' = n' at *
  by_contra! hlt
  have hlow' := Nat.mul_le_mul_right den' hlow
  have hhigh' := Nat.mul_le_mul_right den hhigh
  have hn : n = n' + 1 := by
    have hpos : 0 < den * den' := Nat.mul_pos h h'
    refine Nat.le_antisymm (Nat.le_of_mul_le_mul_right ?_ hpos) hlt
    linarith
  -- the whole numbers are neighbours, so both quotients lie in the middle and both numbers are even
  subst hn
  have htie : 2 * ((n' + 1) * den) = 2 * num + den := by
    refine Nat.le_antisymm hlow (Nat.le_of_mul_le_mul_right ?_ h')
    linarith
  have htie' : 2 * num' = 2 * (n' * den') + den' := by
    refine Nat.le_antisymm hhigh (Nat.le_of_mul_le_mul_right ?_ h)
    linarith
  have := heven (Or.inl htie)
  have := heven' (Or.inr htie')
  omega

end

/-! ## To magnitudes -/

namespace Magnitude

theorem place_ofPlace (n : Nat) : (ofPlace n).place = min n infinityPlace := rfl

/-- How often the steps between magnitudes have doubled where a quotient of units lies. -/
def doublings (num den : Nat) : Nat := Nat.log2 (num / den) - 52

/-- The place of a quotient of units, were there no infinity. -/
def openPlace (num den : Nat) : Nat :=
  doublings num den * 2 ^ 52 + roundQuotient num (den * 2 ^ doublings num den)

theorem ofRatio_eq (num den : Nat) : ofRatio num den = ofPlace (openPlace (num * unit) den) := rfl

section

variable {num den : Nat} (h : 0 < den)
include h

theorem lt_doublings : num < 2 ^ 53 * (den * 2 ^ doublings num den) := by
  have hlog : num / den < 2 ^ (53 + doublings num den) :=
    calc num / den < 2 ^ (Nat.log2 (num / den) + 1) := Nat.lt_log2_self
      _ ≤ 2 ^ (53 + doublings num den) := by
        refine Nat.pow_le_pow_right (by decide) ?_
        rw [doublings]
        omega
  rw [Nat.div_lt_iff_lt_mul h, Nat.pow_add] at hlog
  linarith

theorem doublings_le (hpos : 0 < doublings num den) :
    2 ^ 52 * (den * 2 ^ doublings num den) ≤ num := by
  have hlog : 2 ^ (52 + doublings num den) ≤ num / den := by
    have hne : num / den ≠ 0 := by
      intro hzero
      rw [doublings, hzero] at hpos
      exact absurd hpos (by decide)
    refine (Nat.le_log2 hne).mp ?_
    rw [doublings] at hpos ⊢
    omega
  rw [Nat.le_div_iff_mul_le h, Nat.pow_add] at hlog
  linarith

theorem openPlace_le : openPlace num den ≤ (doublings num den + 2) * 2 ^ 52 := by
  have hpos : 0 < den * 2 ^ doublings num den := Nat.mul_pos h (Nat.two_pow_pos _)
  have hround : roundQuotient num (den * 2 ^ doublings num den) ≤ 2 ^ 53 := by
    rw [← roundQuotient_mul hpos (2 ^ 53)]
    exact roundQuotient_le hpos hpos (Nat.mul_le_mul_right _ (lt_doublings h).le)
  rw [openPlace, Nat.add_mul]
  omega

theorem le_openPlace (hdoublings : 0 < doublings num den) :
    (doublings num den + 1) * 2 ^ 52 ≤ openPlace num den := by
  have hpos : 0 < den * 2 ^ doublings num den := Nat.mul_pos h (Nat.two_pow_pos _)
  have hround : 2 ^ 52 ≤ roundQuotient num (den * 2 ^ doublings num den) := by
    rw [← roundQuotient_mul hpos (2 ^ 52)]
    exact roundQuotient_le hpos hpos (Nat.mul_le_mul_right _ (doublings_le h hdoublings))
  rw [openPlace, Nat.add_mul]
  omega

theorem doublings_mono {num' den' : Nat} (h' : 0 < den') (hle : num * den' ≤ num' * den) :
    doublings num den ≤ doublings num' den' := by
  have hdiv : num / den ≤ num' / den' := by
    rw [Nat.le_div_iff_mul_le h']
    refine Nat.le_of_mul_le_mul_right ?_ h
    calc num / den * den' * den = num / den * den * den' := by ring
      _ ≤ num * den' := Nat.mul_le_mul_right _ (Nat.div_mul_le_self num den)
      _ ≤ num' * den := hle
  rw [doublings, doublings, Nat.log2_eq_log_two, Nat.log2_eq_log_two]
  exact Nat.sub_le_sub_right (Nat.log_mono_right hdiv) 52

theorem openPlace_mono {num' den' : Nat} (h' : 0 < den') (hle : num * den' ≤ num' * den) :
    openPlace num den ≤ openPlace num' den' := by
  rcases Nat.lt_or_eq_of_le (doublings_mono h h' hle) with hlt | heq
  · calc openPlace num den ≤ (doublings num den + 2) * 2 ^ 52 := openPlace_le h
      _ ≤ (doublings num' den' + 1) * 2 ^ 52 := Nat.mul_le_mul_right _ (by omega)
      _ ≤ openPlace num' den' := le_openPlace h' (by omega)
  · rw [openPlace, openPlace, heq]
    have hpos := Nat.two_pow_pos (doublings num' den')
    refine Nat.add_le_add_left (roundQuotient_le (Nat.mul_pos h hpos) (Nat.mul_pos h' hpos) ?_) _
    calc num * (den' * 2 ^ doublings num' den') = num * den' * 2 ^ doublings num' den' := by ring
      _ ≤ num' * den * 2 ^ doublings num' den' := Nat.mul_le_mul_right _ hle
      _ = num' * (den * 2 ^ doublings num' den') := by ring

/-- A quotient that is not greater has a magnitude that is not greater. -/
theorem ofRatio_le {num' den' : Nat} (h' : 0 < den') (hle : num * den' ≤ num' * den) :
    (ofRatio num den).place ≤ (ofRatio num' den').place := by
  have hunits : num * unit * den' ≤ num' * unit * den := by
    calc num * unit * den' = num * den' * unit := by ring
      _ ≤ num' * den * unit := Nat.mul_le_mul_right _ hle
      _ = num' * unit * den := by ring
  rw [ofRatio_eq, ofRatio_eq, place_ofPlace, place_ofPlace]
  exact min_le_min_right _ (openPlace_mono h h' hunits)

end

theorem ofNat_le {m n : Nat} (h : m ≤ n) : (ofNat m).place ≤ (ofNat n).place :=
  ofRatio_le Nat.one_pos Nat.one_pos (Nat.mul_le_mul_right 1 h)

/-! ## The values of magnitudes -/

theorem unitsAt_lt_succ (n : Nat) : unitsAt n < unitsAt (n + 1) := by
  unfold unitsAt
  rcases Nat.lt_or_ge n (2 ^ 52) with hlow | hhigh
  · rw [if_pos hlow]
    split
    · exact Nat.lt_succ_self n
    · -- the first place of the second stretch
      rw [show (n + 1) % 2 ^ 52 = 0 by omega, show (n + 1) / 2 ^ 52 - 1 = 0 by omega]
      omega
  rw [if_neg (by omega), if_neg (by omega)]
  have hstep : 0 < 2 ^ (n / 2 ^ 52 - 1) := Nat.two_pow_pos _
  rcases Nat.lt_or_ge (n % 2 ^ 52 + 1) (2 ^ 52) with hsame | hnext
  · rw [show (n + 1) % 2 ^ 52 = n % 2 ^ 52 + 1 by omega, show (n + 1) / 2 ^ 52 = n / 2 ^ 52 by omega]
    exact Nat.mul_lt_mul_of_pos_right (by omega) hstep
  · have hdouble : 2 ^ ((n + 1) / 2 ^ 52 - 1) = 2 ^ (n / 2 ^ 52 - 1) * 2 := by
      rw [← Nat.pow_succ]
      congr 1
      omega
    rw [show (n + 1) % 2 ^ 52 = 0 by omega, hdouble]
    generalize 2 ^ (n / 2 ^ 52 - 1) = step at *
    calc (2 ^ 52 + n % 2 ^ 52) * step < 2 ^ 53 * step :=
          Nat.mul_lt_mul_of_pos_right (by omega) hstep
      _ = (2 ^ 52 + 0) * (step * 2) := by ring

theorem unitsAt_strictMono : StrictMono unitsAt := strictMono_nat_of_lt_succ unitsAt_lt_succ

theorem unitsAt_mono : Monotone unitsAt := unitsAt_strictMono.monotone

theorem units_le {m m' : Magnitude} (h : m.place ≤ m'.place) : m.units ≤ m'.units :=
  unitsAt_mono h

theorem unit_pos : 0 < unit := by
  unfold unit
  generalize 1074 = exponent
  exact Nat.two_pow_pos exponent

theorem units_pos {m : Magnitude} (h : m.place ≠ 0) : 0 < m.units :=
  calc 0 < unitsAt 1 := by decide
    _ ≤ m.units := unitsAt_mono (Nat.one_le_iff_ne_zero.mpr h)

theorem mul_le {m m' n n' : Magnitude} (hm : m.place ≤ m'.place) (hn : n.place ≤ n'.place) :
    (m.mul n).place ≤ (m'.mul n').place := by
  have hpos := Nat.mul_pos unit_pos unit_pos
  exact ofRatio_le hpos hpos
    (Nat.mul_le_mul_right _ (Nat.mul_le_mul (units_le hm) (units_le hn)))

theorem div_le {m m' n : Magnitude} (hm : m.place ≤ m'.place) (hn : n.place ≠ 0) :
    (m.div n).place ≤ (m'.div n).place :=
  ofRatio_le (units_pos hn) (units_pos hn) (Nat.mul_le_mul_right _ (units_le hm))

end Magnitude

end PageAudit
