import Mathlib.Data.Fintype.Basic
import Mathlib.Tactic.FinCases
import PageAudit.Json.Decode
import PageAudit.Proofs.Json.Grammar
import PageAudit.Proofs.Number.Digits

/-!
# Every text of the grammar is read as what it spells

The reader is given more fuel than a text has characters, and every call uses up a character at
least. So it reads what a text spells, whatever follows the text, as long as that cannot belong to a
numeral.
-/

namespace PageAudit.Json

/-- Characters as a source without gaps. -/
def Source.ofChars (cs : List Char) : Source := cs.map some

namespace Source

@[simp] theorem ofChars_nil : ofChars [] = [] := rfl

@[simp] theorem ofChars_cons (c : Char) (cs : List Char) :
    ofChars (c :: cs) = some c :: ofChars cs := rfl

@[simp] theorem ofChars_append (cs ds : List Char) :
    ofChars (cs ++ ds) = ofChars cs ++ ofChars ds := List.map_append

end Source

open Source (ofChars)

/-- Whether a source does not begin with a character that could go on a numeral. -/
def EndsNumeral (src : Source) : Prop :=
  ∀ c, src.head? = some (some c) → Digit.ofChar? c = none ∧ c ≠ '.' ∧ c ≠ 'e' ∧ c ≠ 'E'

theorem endsNumeral_nil : EndsNumeral [] := fun _ h => nomatch h

theorem endsNumeral_cons {c : Char} {src : Source}
    (h : Digit.ofChar? c = none ∧ c ≠ '.' ∧ c ≠ 'e' ∧ c ≠ 'E') : EndsNumeral (some c :: src) := by
  intro d hd
  cases hd
  exact h

/-! ## Blanks -/

theorem skipBlanks_append {ws : List Char} (h : Blanks ws) (src : Source) :
    skipBlanks (ofChars ws ++ src) = skipBlanks src := by
  induction ws with
  | nil => rfl
  | cons c ws ih =>
      have hc := h c List.mem_cons_self
      have hws : Blanks ws := fun d hd => h d (List.mem_cons_of_mem c hd)
      rw [Source.ofChars_cons, List.cons_append, skipBlanks]
      simp [hc, ih hws, or_assoc]

theorem readValue_blanks {ws : List Char} (h : Blanks ws) (fuel : Nat) (src : Source) :
    readValue fuel (ofChars ws ++ src) = readValue fuel src := by
  cases fuel with
  | zero => rfl
  | succ fuel => rw [readValue, readValue, skipBlanks_append h]

theorem endsNumeral_append {ws : List Char} (h : Blanks ws) {src : Source}
    (hsrc : EndsNumeral src) : EndsNumeral (ofChars ws ++ src) := by
  cases ws with
  | nil => exact hsrc
  | cons c ws =>
      refine endsNumeral_cons ?_
      rcases h c List.mem_cons_self with rfl | rfl | rfl | rfl <;> decide

/-! ## Strings -/

theorem hexUnit?_low : ∀ n < 16, hexUnit? '0' '0' '0' n.digitChar = some n := by decide

theorem hexUnit?_high : ∀ n < 16, hexUnit? '0' '0' '1' n.digitChar = some (16 + n) := by decide

/-- What stands before one more piece. -/
def withPiece (p : Piece) (src : Source) : Option (List Piece × Source) :=
  (pieces src).map fun found => (p :: found.1, found.2)

theorem pieces_escape {c e : Char} (hu : e ≠ 'u') (h : escaped? e = some c) (src : Source) :
    pieces (some '\\' :: some e :: src) = withPiece (.char c) src := by
  cases hsrc : pieces src <;> simp [pieces, withPiece, hu, h, hsrc]

theorem pieces_unit {a b c d : Char} {n : Nat} (h : hexUnit? a b c d = some n) (src : Source) :
    pieces (some '\\' :: some 'u' :: some a :: some b :: some c :: some d :: src) =
      withPiece (.unit n) src := by
  cases hsrc : pieces src <;> simp [pieces, withPiece, h, hsrc]

theorem pieces_char {c : Char} (hquote : c ≠ '"') (hslash : c ≠ '\\') (hlow : ¬c.toNat < 32)
    (src : Source) : pieces (some c :: src) = withPiece (.char c) src := by
  cases hsrc : pieces src <;> simp [pieces, withPiece, hslash, hlow, hsrc]

/-- The code units below the surrogates are characters. -/
theorem spell_unit {n : Nat} (h : n < 0xd800) (ps : List Piece) :
    spell (.unit n :: ps) = (spell ps).map (Char.ofNat n :: ·) := by
  rw [spell.eq_def]
  simp [h]

/-- A character is read from its escape as one piece, which spells it. -/
theorem exists_piece (c : Char) : ∃ p,
    (∀ src, pieces (ofChars (escapeChar c) ++ src) = withPiece p src) ∧
    ∀ ps, spell (p :: ps) = (spell ps).map (c :: ·) := by
  have hunit (h : c.toNat < 32) (ps : List Piece) :
      spell (.unit c.toNat :: ps) = (spell ps).map (c :: ·) := by
    rw [spell_unit (by omega), Char.ofNat_toNat]
  unfold escapeChar
  split
  · subst c
    exact ⟨.char '"', pieces_escape (by decide) rfl, fun _ => rfl⟩
  split
  · subst c
    exact ⟨.char '\\', pieces_escape (by decide) rfl, fun _ => rfl⟩
  split
  · subst c
    exact ⟨.char '\x08', pieces_escape (by decide) rfl, fun _ => rfl⟩
  split
  · subst c
    exact ⟨.char '\t', pieces_escape (by decide) rfl, fun _ => rfl⟩
  split
  · subst c
    exact ⟨.char '\n', pieces_escape (by decide) rfl, fun _ => rfl⟩
  split
  · subst c
    exact ⟨.char '\x0c', pieces_escape (by decide) rfl, fun _ => rfl⟩
  split
  · subst c
    exact ⟨.char '\r', pieces_escape (by decide) rfl, fun _ => rfl⟩
  split
  case isTrue hlow =>
    rw [Hex.digits, Nat.toDigits_of_lt_base hlow]
    exact ⟨.unit c.toNat, pieces_unit (hexUnit?_low _ hlow), hunit (by omega)⟩
  split
  case isTrue hlow hhigh =>
    have hread : hexUnit? '0' '0' '1' (c.toNat % 16).digitChar = some c.toNat := by
      rw [hexUnit?_high _ (Nat.mod_lt _ (by decide))]
      congr 1
      omega
    rw [Hex.digits, Nat.toDigits_of_base_le (by decide) (by omega),
      show c.toNat / 16 = 1 by omega, Nat.toDigits_of_lt_base (by decide)]
    exact ⟨.unit c.toNat, pieces_unit hread, hunit hhigh⟩
  case isFalse hquote hslash _ _ _ _ _ _ hhigh =>
    exact ⟨.char c, pieces_char hquote hslash hhigh, fun _ => rfl⟩

theorem pieces_escaped (cs : List Char) (src : Source) :
    ∃ ps, pieces (ofChars (cs.flatMap escapeChar) ++ some '"' :: src) = some (ps, src) ∧
      spell ps = some cs := by
  induction cs with
  | nil => exact ⟨[], rfl, rfl⟩
  | cons c cs ih =>
      obtain ⟨ps, hpieces, hspell⟩ := ih
      obtain ⟨p, hfirst, hp⟩ := exists_piece c
      refine ⟨p :: ps, ?_, by rw [hp, hspell]; rfl⟩
      rw [List.flatMap_cons, Source.ofChars_append, List.append_assoc, hfirst, withPiece, hpieces]
      rfl

theorem readString_escaped (s : String) (src : Source) :
    readString (ofChars (s.toList.flatMap escapeChar) ++ some '"' :: src) =
      some (some s, src) := by
  obtain ⟨ps, hpieces, hspell⟩ := pieces_escaped s.toList src
  simp [readString, hpieces, hspell]

/-! ## Numbers -/

/-- Whether a source does not begin with a digit. -/
def EndsDigits (src : Source) : Prop := ∀ c, src.head? = some (some c) → Digit.ofChar? c = none

theorem EndsNumeral.endsDigits {src : Source} (h : EndsNumeral src) : EndsDigits src :=
  fun c hc => (h c hc).1

theorem digits_append (ds : List Digit) {src : Source} (h : EndsDigits src) :
    digits (ofChars (ds.map Digit.toChar) ++ src) = (ds, src) := by
  induction ds with
  | nil =>
      match src with
      | [] => rfl
      | none :: _ => rfl
      | some c :: _ =>
          have hc : Digit.ofChar? c = none := h c rfl
          simp [digits, hc]
  | cons d ds ih => simp [digits, Digit.ofChar?_toChar, ih]

theorem readFraction_point {ds : List Digit} (hne : ds ≠ []) {src : Source} (h : EndsDigits src) :
    readFraction (some '.' :: (ofChars (ds.map Digit.toChar) ++ src)) = some (ds, src) := by
  rw [readFraction, digits_append ds h]
  cases ds with
  | nil => exact absurd rfl hne
  | cons d ds => rfl

theorem readFraction_none {src : Source} (h : src.head? ≠ some (some '.')) :
    readFraction src = some ([], src) := by
  unfold readFraction
  split
  · exact absurd rfl h
  · rfl

theorem readPower_append (negative : Bool) (n : Nat) {src : Source} (h : EndsDigits src) :
    readPower negative (ofChars ((Digit.ofNat n).map Digit.toChar) ++ src) =
      some (some (if negative then -(n : Int) else n), src) := by
  rw [readPower, digits_append _ h]
  split
  · next hnil => exact absurd (congrArg Prod.fst hnil) (Digit.ofNat_ne_nil n)
  · next hds =>
      cases hds
      rw [Digit.value_ofNat]

theorem readExponent_text (e : Int) {src : Source} (h : EndsDigits src) :
    readExponent (ofChars (Numeral.exponentText e) ++ src) = some (some e, src) := by
  rcases Int.lt_or_le e 0 with hneg | hpos
  · have hvalue : -(e.natAbs : Int) = e := by omega
    rw [Numeral.exponentText, if_pos hneg]
    refine (readPower_append true e.natAbs h).trans ?_
    rw [if_pos rfl, hvalue]
  · have hvalue : (e.natAbs : Int) = e := by omega
    rw [Numeral.exponentText, if_neg (not_lt.mpr hpos)]
    refine (readPower_append false e.natAbs h).trans ?_
    rw [if_neg Bool.false_ne_true, hvalue]

theorem readExponent_none {src : Source} (h : EndsNumeral src) :
    readExponent src = some (none, src) := by
  unfold readExponent
  split
  · next c rest =>
      have hc := h c rfl
      simp [hc]
  · rfl

/-- The text of a numeral after its sign. -/
def unsignedText (n : Numeral) : List Char :=
  n.whole.map Digit.toChar ++
    ((if n.fraction.isEmpty then [] else '.' :: n.fraction.map Digit.toChar) ++
      (n.exponent.map Numeral.exponentText).getD [])

theorem text_eq (n : Numeral) :
    n.text = (if n.negative then ['-'] else []) ++ unsignedText n := by
  obtain ⟨_, _, _, exponent⟩ := n
  cases exponent <;> simp [Numeral.text, unsignedText]

/-- The exponent of a numeral is read, and what stands before it ends there. -/
theorem readExponent_option (e : Option Int) {src : Source} (h : EndsNumeral src) :
    let after := ofChars ((e.map Numeral.exponentText).getD []) ++ src
    readExponent after = some (e, src) ∧ EndsDigits after ∧ after.head? ≠ some (some '.') := by
  cases e with
  | none =>
      exact ⟨readExponent_none h, h.endsDigits, fun hpoint => (h '.' hpoint).2.1 rfl⟩
  | some e =>
      refine ⟨readExponent_text e h.endsDigits, fun c hc => ?_, fun hpoint => ?_⟩
      · cases hc
        decide
      · cases hpoint

theorem readNumber_text {n : Numeral} (hn : n.WellFormed) {src : Source} (h : EndsNumeral src) :
    readNumber n.negative (ofChars (unsignedText n) ++ src) = some (number n, src) := by
  obtain ⟨negative, whole, fraction, exponent⟩ := n
  obtain ⟨hexponent, hends, hpoint⟩ := readExponent_option exponent h
  generalize hafter : ofChars ((exponent.map Numeral.exponentText).getD []) ++ src = after at *
  have hfraction : ∀ cs, (if fraction.isEmpty then [] else '.' :: fraction.map Digit.toChar) = cs →
      readFraction (ofChars cs ++ after) = some (fraction, after) ∧
        EndsDigits (ofChars cs ++ after) := by
    rintro _ rfl
    cases fraction with
    | nil => exact ⟨readFraction_none hpoint, hends⟩
    | cons d ds =>
        refine ⟨readFraction_point (List.cons_ne_nil d ds) hends, fun c hc => ?_⟩
        cases hc
        decide
  obtain ⟨hread, hends'⟩ := hfraction _ rfl
  have hlone : (whole.head? = some 0 && whole.length ≠ 1) = false := by
    have := hn.lone_zero
    grind
  rw [unsignedText, Source.ofChars_append, Source.ofChars_append, List.append_assoc,
    List.append_assoc, hafter, readNumber, digits_append whole hends']
  cases whole with
  | nil => exact absurd rfl hn.whole_ne_nil
  | cons d ds =>
      simp only [hlone, hread, hexponent, Bool.false_eq_true, if_false, Option.bind_eq_bind,
        Option.bind_some]

/-! ## Values -/

theorem readValue_digit (d : Digit) (fuel : Nat) (src : Source) :
    readValue (fuel + 1) (some d.toChar :: src) = readNumber false (some d.toChar :: src) := by
  fin_cases d <;> rfl

theorem readValue_text {n : Numeral} (hn : n.WellFormed) (fuel : Nat) {src : Source}
    (h : EndsNumeral src) :
    readValue (fuel + 1) (ofChars n.text ++ src) = some (number n, src) := by
  have hread := readNumber_text hn h
  rw [text_eq]
  cases hneg : n.negative with
  | true =>
      rw [hneg] at hread
      exact hread
  | false =>
      rw [hneg] at hread
      cases hwhole : n.whole with
      | nil => exact absurd hwhole hn.whole_ne_nil
      | cons d ds =>
          simp only [Bool.false_eq_true, if_false, List.nil_append]
          rw [unsignedText, hwhole] at hread ⊢
          exact (readValue_digit d fuel _).trans hread

theorem skipBlanks_skipBlanks (src : Source) : skipBlanks (skipBlanks src) = skipBlanks src := by
  fun_induction skipBlanks src with
  | case1 c rest hc ih => exact ih
  | case2 c rest hc => rw [skipBlanks, if_neg hc]
  | case3 src hsrc => exact skipBlanks.eq_2 src hsrc

theorem readValue_skipBlanks (fuel : Nat) (src : Source) :
    readValue fuel (skipBlanks src) = readValue fuel src := by
  cases fuel with
  | zero => rfl
  | succ fuel => rw [readValue, readValue, skipBlanks_skipBlanks]

theorem readItems_skipBlanks (fuel : Nat) (src : Source) :
    readItems fuel (skipBlanks src) = readItems fuel src := by
  cases fuel with
  | zero => rfl
  | succ fuel => rw [readItems, readItems, readValue_skipBlanks]

theorem readMembers_skipBlanks (fuel : Nat) (src : Source) :
    readMembers fuel (skipBlanks src) = readMembers fuel src := by
  cases fuel with
  | zero => rfl
  | succ fuel => rw [readMembers, readMembers, skipBlanks_skipBlanks]

theorem readItems_bracket (fuel : Nat) (src : Source) :
    readItems fuel (some ']' :: src) = none := by
  match fuel with
  | 0 => rfl
  | 1 => rfl
  | fuel + 2 => rfl

theorem readValue_array {fuel : Nat} {src rest : Source} {items : List Json}
    (h : readItems fuel src = some (items, rest)) :
    readValue (fuel + 1) (some '[' :: src) = some (array items, rest) := by
  have hopen : skipBlanks (some '[' :: src) = some '[' :: src := rfl
  rw [← readItems_skipBlanks] at h
  simp only [readValue, hopen]
  split
  · next hbracket =>
      rw [hbracket, readItems_bracket] at h
      cases h
  · rw [h]
    rfl

theorem readValue_object {fuel : Nat} {src rest : Source} {members : List (String × Json)}
    (h : readMembers fuel src = some (some members, rest)) :
    readValue (fuel + 1) (some '\x7b' :: src) = some (object members, rest) := by
  have hopen : skipBlanks (some '\x7b' :: src) = some '\x7b' :: src := rfl
  rw [← readMembers_skipBlanks] at h
  simp only [readValue, hopen]
  split
  · next hbrace =>
      rw [hbrace] at h
      cases fuel <;> cases h
  · rw [h]
    rfl

theorem endsNumeral_comma (src : Source) : EndsNumeral (some ',' :: src) :=
  endsNumeral_cons (by decide)

theorem endsNumeral_bracket (src : Source) : EndsNumeral (some ']' :: src) :=
  endsNumeral_cons (by decide)

theorem endsNumeral_brace (src : Source) : EndsNumeral (some '\x7d' :: src) :=
  endsNumeral_cons (by decide)

theorem readString_stringText (s : String) (src : Source) :
    ∃ opened, ofChars (stringText s) ++ src = some '"' :: opened ∧
      readString opened = some (some s, src) := by
  refine ⟨ofChars (s.toList.flatMap escapeChar) ++ some '"' :: src, ?_, readString_escaped s src⟩
  simp [stringText]

theorem length_text_pos {n : Numeral} (hn : n.WellFormed) : 0 < n.text.length := by
  have hwhole := List.length_pos_iff.mpr hn.whole_ne_nil
  simp only [text_eq, unsignedText, List.length_append, List.length_map]
  omega

section

variable {fuel : Nat} {src rest after more : Source} {j : Json}

theorem readItems_last (h : readValue fuel src = some (j, rest))
    (hend : skipBlanks rest = some ']' :: after) :
    readItems (fuel + 1) src = some ([j], after) := by
  rw [readItems, h]
  simp only [hend]

theorem readItems_more {items : List Json} (h : readValue fuel src = some (j, rest))
    (hcomma : skipBlanks rest = some ',' :: more)
    (hmore : readItems fuel more = some (items, after)) :
    readItems (fuel + 1) src = some (j :: items, after) := by
  rw [readItems, h]
  simp only [hcomma, hmore, Option.map_some]

variable {before : List Char} {name : String}

/-- A member's name is read up to its colon. -/
theorem exists_opened (hbefore : Blanks before) (name : String) (src : Source) :
    ∃ opened, skipBlanks (ofChars before ++ (ofChars (stringText name) ++ some ':' :: src)) =
        some '"' :: opened ∧
      readString opened = some (some name, some ':' :: src) := by
  obtain ⟨opened, hopened, hname⟩ := readString_stringText name (some ':' :: src)
  refine ⟨opened, ?_, hname⟩
  rw [skipBlanks_append hbefore, hopened]
  rfl

theorem skipBlanks_colon (src : Source) : skipBlanks (some ':' :: src) = some ':' :: src := rfl

theorem readMembers_last (hbefore : Blanks before) (h : readValue fuel src = some (j, rest))
    (hend : skipBlanks rest = some '\x7d' :: after) :
    readMembers (fuel + 1) (ofChars before ++ (ofChars (stringText name) ++ some ':' :: src)) =
      some (some [(name, j)], after) := by
  obtain ⟨opened, hopened, hname⟩ := exists_opened hbefore name src
  rw [readMembers, hopened]
  simp only [hname, skipBlanks_colon, h, hend, Option.map_some]

theorem readMembers_more {members : List (String × Json)} (hbefore : Blanks before)
    (h : readValue fuel src = some (j, rest)) (hcomma : skipBlanks rest = some ',' :: more)
    (hmore : readMembers fuel more = some (some members, after)) :
    readMembers (fuel + 1) (ofChars before ++ (ofChars (stringText name) ++ some ':' :: src)) =
      some (some ((name, j) :: members), after) := by
  obtain ⟨opened, hopened, hname⟩ := exists_opened hbefore name src
  rw [readMembers, hopened]
  simp only [hname, skipBlanks_colon, h, hcomma, hmore, Option.map_some]

end

mutual

theorem readValue_of_spells {j : Json} {cs : List Char} (h : Spells j cs) (fuel : Nat)
    (rest : Source) (hfuel : cs.length ≤ fuel) (hrest : EndsNumeral rest) :
    readValue fuel (ofChars cs ++ rest) = some (j, rest) :=
  match h, fuel, hfuel with
  | .null, fuel + 1, _ => rfl
  | .bool true, fuel + 1, _ => rfl
  | .bool false, fuel + 1, _ => rfl
  | .garbled, fuel + 1, _ => rfl
  | .emptyArray, fuel + 1, _ => rfl
  | .emptyObject, fuel + 1, _ => rfl
  | .number hn, 0, hfuel => absurd (length_text_pos hn) (by omega)
  | .number hn, fuel + 1, _ => readValue_text hn fuel hrest
  | .string s, fuel + 1, _ => by
      obtain ⟨opened, hopened, hread⟩ := readString_stringText s rest
      have hquote : skipBlanks (some '"' :: opened) = some '"' :: opened := rfl
      rw [hopened, readValue, hquote]
      simp only [hread, Option.map_some]
  | .array hitems, fuel + 1, hfuel => by
      have hread := readItems_of_spells hitems fuel rest (by simpa using hfuel)
      simpa using readValue_array hread
  | .object hmembers, fuel + 1, hfuel => by
      have hread := readMembers_of_spells hmembers fuel rest (by simpa using hfuel)
      simpa using readValue_object hread

theorem readItems_of_spells {items : List Json} {cs : List Char} (h : SpellsItems items cs)
    (fuel : Nat) (rest : Source) (hfuel : cs.length + 1 ≤ fuel) :
    readItems fuel (ofChars cs ++ some ']' :: rest) = some (items, rest) :=
  match h, fuel, hfuel with
  | @SpellsItems.last _ _ after _ hbefore hj hafter, fuel + 1, hfuel => by
      simp only [List.length_append] at hfuel
      have hread := readValue_of_spells hj fuel (ofChars after ++ some ']' :: rest) (by omega)
        (endsNumeral_append hafter (endsNumeral_bracket rest))
      rw [← readValue_blanks hbefore] at hread
      simp only [Source.ofChars_append, List.append_assoc]
      exact readItems_last hread (skipBlanks_append hafter _)
  | @SpellsItems.more _ _ ds _ _ hbefore hj hmore, fuel + 1, hfuel => by
      simp only [List.length_append, List.length_cons] at hfuel
      have hread := readValue_of_spells hj fuel (some ',' :: (ofChars ds ++ some ']' :: rest))
        (by omega) (endsNumeral_comma _)
      have hrest := readItems_of_spells hmore fuel rest (by omega)
      rw [← readValue_blanks hbefore] at hread
      simp only [Source.ofChars_append, Source.ofChars_cons, List.append_assoc, List.cons_append]
      exact readItems_more hread rfl hrest

theorem readMembers_of_spells {members : List (String × Json)} {cs : List Char}
    (h : SpellsMembers members cs) (fuel : Nat) (rest : Source) (hfuel : cs.length + 1 ≤ fuel) :
    readMembers fuel (ofChars cs ++ some '\x7d' :: rest) = some (some members, rest) :=
  match h, fuel, hfuel with
  | @SpellsMembers.last _ _ _ after _ _ hbefore hgap hj hafter, fuel + 1, hfuel => by
      simp only [List.length_append, List.length_cons] at hfuel
      have hread := readValue_of_spells hj fuel (ofChars after ++ some '\x7d' :: rest) (by omega)
        (endsNumeral_append hafter (endsNumeral_brace rest))
      rw [← readValue_blanks hgap] at hread
      simp only [Source.ofChars_append, Source.ofChars_cons, List.append_assoc, List.cons_append]
      exact readMembers_last hbefore hread (skipBlanks_append hafter _)
  | @SpellsMembers.more _ _ _ ds _ _ _ hbefore hgap hj hmore, fuel + 1, hfuel => by
      simp only [List.length_append, List.length_cons] at hfuel
      have hread := readValue_of_spells hj fuel (some ',' :: (ofChars ds ++ some '\x7d' :: rest))
        (by omega) (endsNumeral_comma _)
      have hrest := readMembers_of_spells hmore fuel rest (by omega)
      rw [← readValue_blanks hgap] at hread
      simp only [Source.ofChars_append, Source.ofChars_cons, List.append_assoc, List.cons_append]
      exact readMembers_more hbefore hread rfl hrest

end

/-- Every text of the grammar is read as the document that it spells. -/
theorem ofString?_of_spells {j : Json} {cs : List Char} (h : Spells j cs) :
    ofString? (String.ofList cs) = some j := by
  have hsource : Source.ofString (String.ofList cs) = ofChars cs ++ [] := by
    simp [Source.ofString, ofChars]
  have hread := readValue_of_spells h ((ofChars cs ++ []).length + 1) []
    (by simp [ofChars]) endsNumeral_nil
  rw [ofString?, hsource, ofSource?, hread]
  rfl

theorem ofString?_compact {j : Json} (h : j.Printable) : ofString? j.compact = some j :=
  ofString?_of_spells (spells_compactText j h)

theorem ofString?_pretty {j : Json} (h : j.Printable) : ofString? j.pretty = some j :=
  ofString?_of_spells (spells_prettyText 0 j h)

/-- A document that is read is decoded as its value is. -/
theorem decodeString_ok_iff {α : Type} {s : String} {j : Json} {decode : Decoder α} {a : α}
    (hread : ofString? s = some j) : decodeString s decode = .ok a ↔ decode j = .ok a := by
  have hsource : ofSource? (Source.ofString s) = some j := hread
  rw [decodeString, Source.decode, hsource]
  cases hdecode : decode j with
  | ok b => simp only [hdecode, Except.ok.injEq]
  | error e =>
      simp only [hdecode]
      split <;> simp only [reduceCtorEq]

end PageAudit.Json
