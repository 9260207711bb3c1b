import PageAudit.Proofs.Number.Digits

/-!
# Whole numbers as texts

A whole number is read from a text exactly if the text is digits, with a plus sign before them or
without, and their value is below the limit. Zeros before the number do no harm.
-/

namespace PageAudit

/-- The text is digits, at least one, that have the number as their value. -/
structure DigitsOf (cs : List Char) (n : Nat) : Prop where
  ne_nil : cs ≠ []
  digits : ∀ c ∈ cs, c.isDigit = true
  value : Nat.ofDigitChars 10 cs 0 = n

/-- The text is digits that have the number as their value, with a plus sign before them or without. -/
inductive NumberOf : List Char → Nat → Prop
  | unsigned {cs : List Char} {n : Nat} (h : DigitsOf cs n) : NumberOf cs n
  | signed {cs : List Char} {n : Nat} (h : DigitsOf cs n) : NumberOf ('+' :: cs) n

variable {cs : List Char} {m n limit : Nat}

namespace Digit

theorem ofChar?_eq_some_iff {c : Char} {d : Digit} :
    ofChar? c = some d ↔ c.isDigit = true ∧ d.val = c.toNat - '0'.toNat := by
  rw [ofChar?, Char.isDigit_iff_toNat]
  split
  · next h => rw [and_iff_right h, Option.some.injEq, Fin.ext_iff, eq_comm]
  · next h => exact iff_of_false nofun fun hdigit => h hdigit.1

theorem exists_ofChar? {c : Char} (h : c.isDigit = true) : ∃ d, ofChar? c = some d := by
  rw [ofChar?, dif_pos (Char.isDigit_iff_toNat.mp h)]
  exact ⟨_, rfl⟩

theorem exists_mapM_ofChar? (h : ∀ c ∈ cs, c.isDigit = true) :
    ∃ ds, cs.mapM ofChar? = some ds := by
  induction cs with
  | nil => exact ⟨[], rfl⟩
  | cons c cs ih =>
      rw [List.forall_mem_cons] at h
      obtain ⟨d, hd⟩ := exists_ofChar? h.1
      obtain ⟨ds, hds⟩ := ih h.2
      exact ⟨d :: ds, by rw [List.mapM_cons, hd, hds]; rfl⟩

theorem of_mapM_ofChar? {ds : List Digit} (h : cs.mapM ofChar? = some ds) :
    (∀ c ∈ cs, c.isDigit = true) ∧ ds.map Fin.val = cs.map fun c => c.toNat - '0'.toNat := by
  induction cs generalizing ds with
  | nil =>
      cases h
      exact ⟨List.forall_mem_nil _, rfl⟩
  | cons c cs ih =>
      rw [List.mapM_cons] at h
      obtain ⟨d, hd, h⟩ := Option.bind_eq_some_iff.mp h
      obtain ⟨ds, hds, h⟩ := Option.bind_eq_some_iff.mp h
      cases h
      obtain ⟨hdigit, hvalue⟩ := ofChar?_eq_some_iff.mp hd
      obtain ⟨hdigits, hvalues⟩ := ih hds
      exact ⟨List.forall_mem_cons.mpr ⟨hdigit, hdigits⟩, congrArg₂ List.cons hvalue hvalues⟩

theorem value_eq_ofDigitChars {ds : List Digit}
    (h : ds.map Fin.val = cs.map fun c => c.toNat - '0'.toNat) :
    value ds = Nat.ofDigitChars 10 cs 0 := by
  have hfold : value ds = (ds.map Fin.val).foldl (fun n d => n * 10 + d) 0 := by
    rw [value, List.foldl_map]
  rw [hfold, h, List.foldl_map, Nat.ofDigitChars_eq_foldl]
  simp only [Nat.mul_comm]

end Digit

/-- Reads digits without a sign before them. -/
def digits? (limit : Nat) (cs : List Char) : Option Nat :=
  if cs.isEmpty then none
  else do
    let ds ← cs.mapM Digit.ofChar?
    if Digit.value ds < limit then some (Digit.value ds) else none

theorem natural?_plus (limit : Nat) (cs : List Char) :
    natural? limit ('+' :: cs) = digits? limit cs := rfl

theorem natural?_of_unsigned (h : cs.head? ≠ some '+') (limit : Nat) :
    natural? limit cs = digits? limit cs := by
  unfold natural?
  split
  · simp at h
  · rfl

theorem digits?_eq_some_iff : digits? limit cs = some n ↔ DigitsOf cs n ∧ n < limit := by
  unfold digits?
  split
  · next hempty => exact iff_of_false nofun fun h => h.1.ne_nil (List.isEmpty_iff.mp hempty)
  next hsome =>
    simp only [Option.bind_eq_bind, Option.bind_eq_some_iff, Option.ite_none_right_eq_some,
      Option.some.injEq]
    constructor
    · rintro ⟨ds, hds, hlimit, rfl⟩
      obtain ⟨hdigits, hvalues⟩ := Digit.of_mapM_ofChar? hds
      rw [Digit.value_eq_ofDigitChars hvalues] at hlimit ⊢
      exact ⟨⟨fun hnil => hsome (List.isEmpty_iff.mpr hnil), hdigits, rfl⟩, hlimit⟩
    · rintro ⟨⟨-, hdigits, rfl⟩, hlimit⟩
      obtain ⟨ds, hds⟩ := Digit.exists_mapM_ofChar? hdigits
      have hvalue := Digit.value_eq_ofDigitChars (Digit.of_mapM_ofChar? hds).2
      exact ⟨ds, hds, hvalue ▸ hlimit, hvalue⟩

theorem DigitsOf.head_ne (h : DigitsOf cs n) : cs.head? ≠ some '+' := fun hplus =>
  absurd (h.digits '+' (List.mem_of_head? hplus)) (by decide)

theorem NumberOf.unsigned_iff (h : cs.head? ≠ some '+') : NumberOf cs n ↔ DigitsOf cs n := by
  refine ⟨fun hnumber => ?_, .unsigned⟩
  cases hnumber with
  | unsigned hdigits => exact hdigits
  | signed => exact absurd rfl h

theorem NumberOf.signed_iff : NumberOf ('+' :: cs) n ↔ DigitsOf cs n := by
  refine ⟨fun hnumber => ?_, .signed⟩
  cases hnumber with
  | unsigned hdigits => exact absurd rfl hdigits.head_ne
  | signed hdigits => exact hdigits

theorem natural?_eq_some_iff : natural? limit cs = some n ↔ NumberOf cs n ∧ n < limit := by
  by_cases hplus : cs.head? = some '+'
  · obtain ⟨digits, rfl⟩ := List.head?_eq_some_iff.mp hplus
    rw [natural?_plus, digits?_eq_some_iff, NumberOf.signed_iff]
  · rw [natural?_of_unsigned hplus, digits?_eq_some_iff, NumberOf.unsigned_iff hplus]

theorem NumberOf.characters (h : NumberOf cs n) : ∀ c ∈ cs, c = '+' ∨ c.isDigit = true := by
  cases h with
  | unsigned h => exact fun c hc => .inr (h.digits c hc)
  | signed h => exact List.forall_mem_cons.mpr ⟨.inl rfl, fun c hc => .inr (h.digits c hc)⟩

theorem NumberOf.notMem {c : Char} (h : NumberOf cs n) (hplus : c ≠ '+') (hdigit : c.isDigit = false) :
    c ∉ cs := by
  intro hc
  rcases h.characters c hc with heq | hyes
  · exact hplus heq
  · rw [hdigit] at hyes
    cases hyes

theorem NumberOf.unique (h : NumberOf cs m) (h' : NumberOf cs n) : m = n := by
  cases h with
  | unsigned h => exact h.value.symm.trans ((unsigned_iff h.head_ne).mp h').value
  | signed h => exact h.value.symm.trans (signed_iff.mp h').value

/-- A number is read from its spelling if it is below the limit. -/
theorem natural?_of_numberOf (h : NumberOf cs n) (limit : Nat) :
    natural? limit cs = if n < limit then some n else none := by
  split
  · next hlimit => exact natural?_eq_some_iff.mpr ⟨h, hlimit⟩
  · next hlarge =>
      refine Option.eq_none_iff_forall_ne_some.mpr fun m hm => ?_
      obtain ⟨hnumber, hlimit⟩ := natural?_eq_some_iff.mp hm
      exact hlarge (hnumber.unique h ▸ hlimit)

theorem numberOf_toString (n : Nat) : NumberOf (toString n).toList n := by
  have htext : (toString n).toList = Nat.toDigits 10 n := Nat.toList_repr
  refine .unsigned ⟨htext ▸ Nat.toDigits_ne_nil, fun c hc => Digit.isDigit_of_mem_toString hc, ?_⟩
  rw [htext, Nat.ofDigitChars_ten_toDigits]

end PageAudit
