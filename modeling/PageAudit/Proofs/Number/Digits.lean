import Mathlib.Data.List.Basic
import Mathlib.Tactic.Ring
import PageAudit.Number.Parse

/-!
# Digits and their value

The digits of a number have the number as their value, whatever zeros are put before them, and only
zero itself begins with a zero. Digits are read back up to the first character that is none.
-/

namespace PageAudit

/-- Whether a text does not begin with a digit. -/
def EndsDigits (cs : List Char) : Prop := ∀ c, cs.head? = some c → Digit.ofChar? c = none

theorem endsDigits_nil : EndsDigits [] := fun _ h => nomatch h

namespace Digit

/-! ## Characters -/

theorem ofChar?_toChar (d : Digit) : ofChar? d.toChar = some d := by
  revert d
  decide

theorem ofChar?_digitChar {n : Nat} (h : n < 10) : ofChar? n.digitChar = some ⟨n, h⟩ := by
  revert n
  decide

theorem toChar_mk {n : Nat} (h : n < 10) : toChar ⟨n, h⟩ = n.digitChar := by
  revert n
  decide

theorem isDigit_toChar (d : Digit) : d.toChar.isDigit = true := by
  revert d
  decide

/-! ## Values -/

theorem value_concat (ds : List Digit) (d : Digit) : value (ds ++ [d]) = value ds * 10 + d.val := by
  simp [value]

theorem value_append (xs ys : List Digit) :
    value (xs ++ ys) = value xs * 10 ^ ys.length + value ys := by
  induction ys generalizing xs with
  | nil => simp [value]
  | cons y ys ih =>
      have hxs := ih (xs ++ [y])
      have hy := ih [y]
      rw [value_concat] at hxs
      have hsingle : value [y] = y.val := by simp [value]
      rw [List.append_assoc, List.singleton_append] at hxs
      rw [hxs, List.length_cons, ← List.singleton_append, hy, hsingle]
      ring

theorem value_replicate_zero (n : Nat) : value (List.replicate n 0) = 0 := by
  induction n with
  | zero => rfl
  | succ n ih => rw [List.replicate_succ', value_concat, ih]; rfl

/-! ## The digits of a number -/

theorem ofNat_of_lt {n : Nat} (h : n < 10) : ofNat n = [⟨n, h⟩] := by
  rw [ofNat, Nat.toDigits_of_lt_base h, List.filterMap_cons, ofChar?_digitChar h]
  rfl

theorem ofNat_of_le {n : Nat} (h : 10 ≤ n) :
    ofNat n = ofNat (n / 10) ++ [⟨n % 10, Nat.mod_lt _ (by decide)⟩] := by
  rw [ofNat, Nat.toDigits_of_base_le (by decide) h, List.filterMap_append, List.filterMap_cons,
    ofChar?_digitChar (Nat.mod_lt _ (by decide))]
  rfl

theorem value_ofNat (n : Nat) : value (ofNat n) = n := by
  induction n using Nat.strongRecOn with
  | ind n ih =>
      rcases Nat.lt_or_ge n 10 with h | h
      · rw [ofNat_of_lt h]
        simp [value]
      · rw [ofNat_of_le h, value_concat, ih (n / 10) (by omega)]
        exact Nat.div_add_mod' n 10

theorem map_toChar_ofNat (n : Nat) : (ofNat n).map toChar = Nat.toDigits 10 n := by
  induction n using Nat.strongRecOn with
  | ind n ih =>
      rcases Nat.lt_or_ge n 10 with h | h
      · rw [ofNat_of_lt h, List.map_singleton, toChar_mk, Nat.toDigits_of_lt_base h]
      · rw [ofNat_of_le h, List.map_append, ih (n / 10) (by omega), List.map_singleton, toChar_mk,
          Nat.toDigits_of_base_le (by decide) h]

theorem toList_toString (n : Nat) : (toString n).toList = (ofNat n).map toChar := by
  rw [map_toChar_ofNat]
  exact Nat.toList_repr

theorem isDigit_of_mem_toString {n : Nat} {c : Char} (h : c ∈ (toString n).toList) :
    c.isDigit = true := by
  rw [toList_toString] at h
  obtain ⟨d, -, rfl⟩ := List.mem_map.mp h
  exact isDigit_toChar d

theorem length_ofNat (n : Nat) : (ofNat n).length = (Nat.toDigits 10 n).length := by
  rw [← map_toChar_ofNat, List.length_map]

theorem length_ofNat_le_iff {n k : Nat} (hk : 0 < k) : (ofNat n).length ≤ k ↔ n < 10 ^ k := by
  rw [length_ofNat, Nat.length_toDigits_le_iff (by decide) hk]

theorem ofNat_ne_nil (n : Nat) : ofNat n ≠ [] := by
  intro h
  have hlength := congrArg List.length h
  rw [length_ofNat, List.length_nil, List.length_eq_zero_iff] at hlength
  exact Nat.toDigits_ne_nil hlength

/-- Only zero begins with a zero. -/
theorem head?_ofNat {n : Nat} (h : n ≠ 0) : (ofNat n).head? ≠ some 0 := by
  induction n using Nat.strongRecOn with
  | ind n ih =>
      rcases Nat.lt_or_ge n 10 with hn | hn
      · rw [ofNat_of_lt hn]
        simpa using h
      · rw [ofNat_of_le hn, List.head?_append_of_ne_nil _ (ofNat_ne_nil _)]
        exact ih (n / 10) (by omega) (by omega)

end Digit

/-! ## Reading digits back -/

theorem leadingDigits_append (ds : List Digit) {rest : List Char} (h : EndsDigits rest) :
    leadingDigits (ds.map Digit.toChar ++ rest) = (ds, rest) := by
  induction ds with
  | nil =>
      cases rest with
      | nil => rfl
      | cons c rest =>
          have hc : Digit.ofChar? c = none := h c rfl
          simp [leadingDigits, hc]
  | cons d ds ih => simp [leadingDigits, Digit.ofChar?_toChar, ih]

end PageAudit
