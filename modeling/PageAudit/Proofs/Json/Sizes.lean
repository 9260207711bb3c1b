import PageAudit.Proofs.Json.Reading

/-!
# How many values a document holds

Every value has a character of its own in the source that it is read from: a list its opening bracket, an
object its opening brace, a number its first digit. So a document has no more values than its source has
characters.
-/

namespace PageAudit.Json

variable {fuel : Nat} {negative : Bool} {src rest : Source} {j : Json} {items : List Json}
  {ms : List (String × Json)} {m : String × Json}

/-! ## The values of a document -/

/-- The number of values in a document, the document itself among them. -/
def size : Json → Nat
  | array items => sizeOfItems items + 1
  | object members => sizeOfMembers members + 1
  | _ => 1
where
  sizeOfItems : List Json → Nat
    | [] => 0
    | j :: rest => j.size + sizeOfItems rest
  sizeOfMembers : List (String × Json) → Nat
    | [] => 0
    | (_, j) :: rest => j.size + sizeOfMembers rest

open size (sizeOfItems sizeOfMembers)

theorem size_pos (j : Json) : 1 ≤ j.size := by
  cases j <;> simp [size]

theorem size_le_sizeOfItems (h : j ∈ items) : j.size ≤ sizeOfItems items := by
  induction items with
  | nil => cases h
  | cons first rest ih =>
      rw [sizeOfItems]
      rcases List.mem_cons.mp h with rfl | h
      · exact Nat.le_add_right _ _
      · exact Nat.le_trans (ih h) (Nat.le_add_left _ _)

theorem size_le_sizeOfMembers (h : m ∈ ms) : m.2.size ≤ sizeOfMembers ms := by
  induction ms with
  | nil => cases h
  | cons first rest ih =>
      obtain ⟨name, j⟩ := first
      rw [sizeOfMembers]
      rcases List.mem_cons.mp h with rfl | h
      · exact Nat.le_add_right _ _
      · exact Nat.le_trans (ih h) (Nat.le_add_left _ _)

/-! ## What is left by the parts of a document -/

theorem length_skipBlanks_le (src : Source) : (skipBlanks src).length ≤ src.length := by
  fun_induction skipBlanks src with
  | case1 c rest _ ih => exact Nat.le_succ_of_le ih
  | case2 => exact Nat.le_refl _
  | case3 => exact Nat.le_refl _

theorem length_of_pieces {ps : List Piece} (h : pieces src = some (ps, rest)) :
    rest.length < src.length := by
  fun_induction pieces src generalizing ps with
  | case1 => cases h
  | case2 after ih =>
      obtain ⟨⟨qs, left⟩, hleft, heq⟩ := Option.map_eq_some_iff.mp h
      cases heq
      exact Nat.lt_succ_of_lt (ih hleft)
  | case3 after =>
      cases h
      exact Nat.lt_succ_self _
  | case4 a b c d after n qs left hleft hunit ih =>
      cases h
      have hlt := ih hleft
      simp only [List.length_cons]
      omega
  | case5 => cases h
  | case6 c after _ d qs left hleft hescaped ih =>
      cases h
      have hlt := ih hleft
      simp only [List.length_cons]
      omega
  | case7 => cases h
  | case8 => cases h
  | case9 c after _ _ _ _ ih =>
      obtain ⟨⟨qs, left⟩, hleft, heq⟩ := Option.map_eq_some_iff.mp h
      cases heq
      exact Nat.lt_succ_of_lt (ih hleft)

theorem length_of_readString {s : Option String} (h : readString src = some (s, rest)) :
    rest.length < src.length := by
  obtain ⟨⟨ps, left⟩, hleft, heq⟩ := Option.map_eq_some_iff.mp h
  cases heq
  exact length_of_pieces hleft

theorem length_digits (src : Source) :
    (digits src).1.length + (digits src).2.length = src.length := by
  fun_induction digits src with
  | case1 c rest d _ ds after hdigits ih =>
      rw [hdigits] at ih
      simp only [List.length_cons] at ih ⊢
      omega
  | case2 => simp
  | case3 => simp

theorem length_of_digits {ds : List Digit} (h : digits src = (ds, rest)) :
    ds.length + rest.length = src.length := by
  have hlength := length_digits src
  rwa [h] at hlength

theorem length_of_readFraction {ds : List Digit} (h : readFraction src = some (ds, rest)) :
    rest.length ≤ src.length := by
  unfold readFraction at h
  split at h
  · split at h
    · cases h
    next hdigits =>
      rw [Option.some.injEq] at h
      have hlength := length_of_digits h
      simp only [List.length_cons]
      omega
  · cases h
    exact Nat.le_refl _

theorem length_of_readPower {power : Option Int} (h : readPower negative src = some (power, rest)) :
    rest.length ≤ src.length := by
  unfold readPower at h
  split at h
  · cases h
  next hdigits =>
    cases h
    have hlength := length_of_digits hdigits
    omega

theorem length_of_readExponent {power : Option Int} (h : readExponent src = some (power, rest)) :
    rest.length ≤ src.length := by
  unfold readExponent at h
  split at h
  · split at h
    · split at h <;>
      · have hlength := length_of_readPower h
        simp only [List.length_cons] at hlength ⊢
        omega
    · cases h
      exact Nat.le_refl _
  · cases h
    exact Nat.le_refl _

/-- A number is a value of its own, and takes a digit. -/
theorem size_of_readNumber (h : readNumber negative src = some (j, rest)) :
    j.size + rest.length ≤ src.length := by
  unfold readNumber at h
  split at h
  · cases h
  next whole after hwhole hdigits =>
    split at h
    · cases h
    · obtain ⟨⟨fraction, left⟩, hfraction, h⟩ := Option.bind_eq_some_iff.mp h
      obtain ⟨⟨power, left'⟩, hpower, h⟩ := Option.bind_eq_some_iff.mp h
      cases h
      have hlength := length_of_digits hdigits
      have hpos : 0 < whole.length := List.length_pos_iff.mpr hwhole
      have hrest := length_of_readFraction hfraction
      have hrest' := length_of_readExponent hpower
      simp only [size]
      omega

/-! ## Values -/

/-- What follows the first character that is no blank is shorter than the source. -/
theorem length_of_skipBlanks {c : Char} (h : skipBlanks src = some c :: rest) :
    rest.length < src.length := by
  have hle := length_skipBlanks_le src
  rw [h, List.length_cons] at hle
  exact hle

mutual

/-- A value that is read has no more values than it takes characters. -/
theorem size_of_readValue {fuel : Nat} {src rest : Source} {j : Json}
    (h : readValue fuel src = some (j, rest)) : j.size + rest.length ≤ src.length := by
  match fuel with
  | 0 => cases h
  | fuel + 1 =>
      have hblanks := length_skipBlanks_le src
      unfold readValue at h
      split at h
      -- the words: null, true and false
      case h_1 left hword | h_2 left hword | h_3 left hword =>
        cases h
        rw [hword] at hblanks
        simp only [List.length_cons, size] at hblanks ⊢
        omega
      next left htext =>
        obtain ⟨⟨text, after⟩, hstring, heq⟩ := Option.map_eq_some_iff.mp h
        cases heq
        have hlt := length_of_skipBlanks htext
        have hstring := length_of_readString hstring
        cases text <;> simp only [size] <;> omega
      next left hlist =>
        have hlt := length_of_skipBlanks hlist
        split at h
        next after hend =>
          cases h
          have hafter := length_of_skipBlanks hend
          simp only [size, size.sizeOfItems]
          omega
        · obtain ⟨⟨items, after⟩, hitems, heq⟩ := Option.map_eq_some_iff.mp h
          cases heq
          have hsize := size_of_readItems hitems
          have hle := length_skipBlanks_le left
          simp only [size]
          omega
      next left hobject =>
        have hlt := length_of_skipBlanks hobject
        split at h
        next after hend =>
          cases h
          have hafter := length_of_skipBlanks hend
          simp only [size, size.sizeOfMembers]
          omega
        · obtain ⟨⟨members, after⟩, hmembers, heq⟩ := Option.map_eq_some_iff.mp h
          cases heq
          have hsize := size_of_readMembers hmembers
          have hle := length_skipBlanks_le left
          cases members <;> simp only [size, Option.elim] at hsize ⊢ <;> omega
      next left hminus =>
        have hlt := length_of_skipBlanks hminus
        have hnumber := size_of_readNumber h
        omega
      · exact Nat.le_trans (size_of_readNumber h) hblanks

theorem size_of_readItems {fuel : Nat} {src rest : Source} {items : List Json}
    (h : readItems fuel src = some (items, rest)) :
    sizeOfItems items + rest.length ≤ src.length := by
  match fuel with
  | 0 => cases h
  | fuel + 1 =>
      unfold readItems at h
      split at h
      · cases h
      next j left hj =>
        have hvalue := size_of_readValue hj
        split at h
        next after hend =>
          cases h
          have hlt := length_of_skipBlanks hend
          simp only [sizeOfItems]
          omega
        next after hmore =>
          obtain ⟨⟨others, left'⟩, hothers, heq⟩ := Option.map_eq_some_iff.mp h
          cases heq
          have hlt := length_of_skipBlanks hmore
          have hitems := size_of_readItems hothers
          simp only [sizeOfItems]
          omega
        · cases h

/-- Members that are missing since a name spells no text count for nothing. -/
theorem size_of_readMembers {fuel : Nat} {src rest : Source} {members : Option (List (String × Json))}
    (h : readMembers fuel src = some (members, rest)) :
    members.elim 0 sizeOfMembers + rest.length ≤ src.length := by
  match fuel with
  | 0 => cases h
  | fuel + 1 =>
      unfold readMembers at h
      split at h
      next left hquote =>
        have hlt := length_of_skipBlanks hquote
        split at h
        · cases h
        next name left' hname =>
          have hname := length_of_readString hname
          split at h
          next left hcolon =>
            have hcolon := length_of_skipBlanks hcolon
            split at h
            · cases h
            next j left' hj =>
              have hvalue := size_of_readValue hj
              -- whether there is a name is asked last, for what has been read is left either way
              dsimp only at h
              split at h
              next after hend =>
                cases h
                have hafter := length_of_skipBlanks hend
                cases name <;> simp only [Option.map, Option.elim, sizeOfMembers] <;> omega
              next after hmore =>
                obtain ⟨⟨others, after'⟩, hothers, heq⟩ := Option.map_eq_some_iff.mp h
                cases heq
                have hafter := length_of_skipBlanks hmore
                have hmembers := size_of_readMembers hothers
                cases name <;> cases others <;>
                  simp only [Option.map, Option.elim, sizeOfMembers] at hmembers ⊢ <;> omega
              · cases h
          · cases h
      · cases h

end

/-- A document has no more values than its source has characters. -/
theorem size_of_ofSource? (h : ofSource? src = some j) : j.size ≤ src.length := by
  unfold ofSource? at h
  split at h
  next j' left hvalue =>
    split at h
    · cases h
      exact Nat.le_trans (Nat.le_add_right _ _) (size_of_readValue hvalue)
    · cases h
  · cases h

end PageAudit.Json
