import PageAudit.Proofs.Number.Naturals
import PageAudit.Proofs.Settings.Flags
import PageAudit.Proofs.Text.Search
import PageAudit.Settings.Viewport

/-!
# Sizes as texts

A size is read from a text exactly if the text, in lower case, is one of four names or two numbers with
an `x` between them. A number is digits, with a plus sign before them or without, and each of the two has
to be below the limit. So every size is read back from its numbers.
-/

namespace PageAudit

variable {cs : List Char} {m n : Nat}

/-! ## Lower case -/

namespace Text

/-- A text of ASCII is lower-cased character by character. -/
theorem lowerAfter_of_ascii (h : ∀ c ∈ cs, c.toNat < 128) (before : List Char) :
    lowerAfter before cs = cs.map Char.toLower := by
  induction cs generalizing before with
  | nil => rfl
  | cons c cs ih =>
      rw [List.forall_mem_cons] at h
      have hsigma : c ≠ 'Σ' := by
        rintro rfl
        exact absurd h.1 (by decide)
      rw [lowerAfter, if_neg hsigma, lowerChar, if_pos h.1, ih h.2, List.map_cons, List.singleton_append]

/-- An `x` of either case is one in the lower case. -/
theorem countP_le_count_lowerAfter (before cs : List Char) :
    cs.countP (fun c => c == 'x' || c == 'X') ≤ (lowerAfter before cs).count 'x' := by
  induction cs generalizing before with
  | nil => exact Nat.le_refl 0
  | cons c cs ih =>
      rw [List.countP_cons, lowerAfter, List.count_append, Nat.add_comm]
      refine Nat.add_le_add ?_ (ih _)
      split
      · next hx =>
          rcases Bool.or_eq_true_iff.mp hx with h | h
          all_goals
            rw [beq_iff_eq.mp h, if_neg (by decide)]
            decide
      · exact Nat.zero_le _

end Text

/-! ## Sizes -/

namespace Viewport

def names : List (String × Nat × Nat) :=
  [("desktop", 1920, 1080), ("laptop", 1366, 768), ("tablet", 768, 1024), ("mobile", 390, 844)]

/-- How a size is written in lower case: by its name, or as two numbers with an `x` between them. -/
inductive Written : List Char → Viewport → Prop
  | named {name : String} {v : Viewport} (known : (name, v.width, v.height) ∈ names) :
      Written name.toList v
  | sized {width height : List Char} {v : Viewport} (hwidth : NumberOf width v.width)
      (hheight : NumberOf height v.height) : Written (width ++ 'x' :: height) v

variable {text : List Char} {u v : Viewport}

theorem eq_of_size (hwidth : u.width = v.width) (hheight : u.height = v.height) : u = v := by
  cases u
  cases v
  simp only [mk.injEq]
  exact ⟨hwidth, hheight⟩

theorem lookup_presets : ∀ p ∈ presets, presets.lookup p.1 = some p.2 := by decide

theorem lookup_presets_iff {name : String} :
    presets.lookup name = some v ↔ (name, v.width, v.height) ∈ names := by
  have hnames : names = presets.map fun p => (p.1, p.2.width, p.2.height) := rfl
  constructor
  · intro h
    obtain ⟨before, after, hpresets, -⟩ := List.lookup_eq_some_iff.mp h
    rw [hnames, hpresets]
    simp
  · intro h
    obtain ⟨⟨found, u⟩, hmem, heq⟩ := List.mem_map.mp (hnames ▸ h)
    simp only [Prod.mk.injEq] at heq
    obtain ⟨rfl, hwidth, hheight⟩ := heq
    rw [← eq_of_size hwidth hheight]
    exact lookup_presets _ hmem

theorem of?_eq_some_iff {width height : Nat} :
    of? width height = some v ↔ v.width = width ∧ v.height = height := by
  unfold of?
  split
  · rw [Option.some.injEq]
    refine ⟨fun h => h ▸ ⟨rfl, rfl⟩, fun h => (eq_of_size h.1 h.2).symm⟩
  · next hlarge =>
      refine iff_of_false nofun ?_
      rintro ⟨rfl, rfl⟩
      exact hlarge ⟨v.width_lt, v.height_lt⟩

/-- Two numbers are a size if both are below the limit. -/
theorem ofSize?_numbers {width height : List Char} (hwidth : NumberOf width m)
    (hheight : NumberOf height n) : ofSize? (width ++ 'x' :: height) = of? m n := by
  have hmark : 'x' ∉ width := hwidth.notMem (by decide) (by decide)
  rw [ofSize?, Text.splitOnce_of_notMem hmark]
  simp only [natural?_of_numberOf hwidth, natural?_of_numberOf hheight, of?]
  by_cases hm : m < sizeLimit <;> by_cases hn : n < sizeLimit <;> simp [hm, hn]

theorem ofSize?_eq_some_iff : ofSize? text = some v ↔
    ∃ width height, text = width ++ 'x' :: height ∧ NumberOf width v.width ∧ NumberOf height v.height := by
  constructor
  · intro h
    unfold ofSize? at h
    split at h
    · cases h
    next before after hsplit =>
      split at h
      · next m n hwidth hheight =>
          obtain ⟨rfl, rfl⟩ := of?_eq_some_iff.mp h
          have hcut := (Text.splitOnce_eq_some_iff.mp hsplit).1
          rw [List.append_assoc, List.singleton_append] at hcut
          exact ⟨before, after, hcut, (natural?_eq_some_iff.mp hwidth).1,
            (natural?_eq_some_iff.mp hheight).1⟩
      · cases h
  · rintro ⟨width, height, rfl, hwidth, hheight⟩
    rw [ofSize?_numbers hwidth hheight]
    exact of?_eq_some_iff.mpr ⟨rfl, rfl⟩

/-! ## Names and numbers -/

/-- No name has a blank, a minus sign or an `x` in it. -/
theorem names_plain {name : String} {size : Nat × Nat} (h : (name, size) ∈ names) :
    ∀ c ∈ name.toList, Text.isBlank c = false ∧ c ≠ '-' ∧ c ≠ 'x' := by
  have hall : names.all (fun p => p.1.toList.all fun c =>
      !Text.isBlank c && (c != '-' && c != 'x')) = true := by decide
  intro c hc
  simpa using List.all_eq_true.mp (List.all_eq_true.mp hall _ h) c hc

theorem not_isBlank_of_isDigit {c : Char} (h : c.isDigit = true) : Text.isBlank c = false := by
  obtain ⟨hlow, hhigh⟩ := Char.isDigit_iff_toNat.mp h
  have hapart : Text.Apart Text.blankRanges [('0'.toNat, '9'.toNat)] := by decide
  refine Bool.eq_false_iff.mpr fun hblank => ?_
  obtain ⟨r, hr, hfrom, hto⟩ := Text.isBlank_iff.mp hblank
  rcases hapart r hr _ List.mem_cons_self with hbelow | hbeyond
  · exact absurd hlow (Nat.not_le.mpr (Nat.lt_of_le_of_lt hto hbelow))
  · exact absurd hhigh (Nat.not_le.mpr (Nat.lt_of_lt_of_le hbeyond hfrom))

/-- What a size is written with is no blank and no minus sign. -/
theorem Written.characters (h : Written text v) : ∀ c ∈ text, Text.isBlank c = false ∧ c ≠ '-' := by
  cases h with
  | named known => exact fun c hc => (names_plain known c hc).imp_right And.left
  | sized hwidth hheight =>
      have hnumber {cs : List Char} {n : Nat} (h : NumberOf cs n) :
          ∀ c ∈ cs, Text.isBlank c = false ∧ c ≠ '-' := by
        intro c hc
        refine ⟨?_, ne_of_mem_of_not_mem hc (h.notMem (by decide) (by decide))⟩
        rcases h.characters c hc with rfl | hdigit
        · decide
        · exact not_isBlank_of_isDigit hdigit
      refine List.forall_mem_append.mpr ⟨hnumber hwidth, List.forall_mem_cons.mpr ⟨?_, hnumber hheight⟩⟩
      exact ⟨by decide, by decide⟩

theorem Written.count_le (h : Written text v) : text.count 'x' ≤ 1 := by
  cases h with
  | named known =>
      rw [List.count_eq_zero_of_not_mem fun hx => (names_plain known _ hx).2.2 rfl]
      exact Nat.zero_le 1
  | sized hwidth hheight =>
      have hnone {cs : List Char} {n : Nat} (h : NumberOf cs n) : cs.count 'x' = 0 :=
        List.count_eq_zero_of_not_mem (h.notMem (by decide) (by decide))
      rw [List.count_append, List.count_cons_self, hnone hwidth, hnone hheight]

variable {s : String}

theorem ofText?_of_mark (h : 'x' ∈ (Text.lower s).toList) :
    ofText? s = ofSize? (Text.lower s).toList := by
  have hnone : presets.lookup (Text.lower s) = none := by
    refine Option.eq_none_iff_forall_ne_some.mpr fun v hv => ?_
    exact (names_plain (lookup_presets_iff.mp hv) _ h).2.2 rfl
  rw [ofText?, hnone]

theorem ofText?_eq_some_iff : ofText? s = some v ↔ Written (Text.lower s).toList v := by
  constructor
  · intro h
    unfold ofText? at h
    split at h
    · next found hfound =>
        cases h
        exact .named (lookup_presets_iff.mp hfound)
    · obtain ⟨width, height, heq, hwidth, hheight⟩ := ofSize?_eq_some_iff.mp h
      rw [heq]
      exact .sized hwidth hheight
  · intro h
    generalize htext : (Text.lower s).toList = text at h
    cases h with
    | named known =>
        rw [ofText?, String.toList_inj.mp htext, lookup_presets_iff.mpr known]
    | sized hwidth hheight =>
        rw [ofText?_of_mark (htext ▸ by simp), htext]
        exact ofSize?_eq_some_iff.mpr ⟨_, _, rfl, hwidth, hheight⟩

/-- Numbers are their own lower case. -/
theorem lower_numbers {mark : Char} (hmark : mark ∈ ['x', 'X']) (m n : Nat) :
    (Text.lower (toString m ++ String.singleton mark ++ toString n)).toList =
      (toString m).toList ++ 'x' :: (toString n).toList := by
  have hdigit {k : Nat} {c : Char} (hc : c ∈ (toString k).toList) : c.toNat < 128 ∧ c.toLower = c := by
    have hbound := (Char.isDigit_iff_toNat.mp (Digit.isDigit_of_mem_toString hc)).2
    have hnine : '9'.toNat = 57 := rfl
    rcases Text.toLower_eq_or c with hkept | ⟨hletter, -, -⟩
    · exact ⟨by omega, hkept⟩
    · omega
  have hnumber (k : Nat) : (toString k).toList.map Char.toLower = (toString k).toList :=
    (List.map_congr_left fun c hc => (hdigit hc).2).trans (List.map_id _)
  have hcase : mark.toNat < 128 ∧ mark.toLower = 'x' := by
    rcases List.mem_pair.mp hmark with rfl | rfl
    · exact ⟨by decide, by decide⟩
    · exact ⟨by decide, by decide⟩
  rw [Text.lower, String.toList_ofList, Text.lowerAfter_of_ascii]
  · simp only [String.toList_append, String.toList_singleton, List.append_assoc, List.singleton_append,
      List.map_append, List.map_cons, hnumber, hcase.2]
  · simp only [String.toList_append, String.toList_singleton, List.forall_mem_append,
      List.forall_mem_singleton]
    exact ⟨⟨fun c hc => (hdigit hc).1, hcase.1⟩, fun c hc => (hdigit hc).1⟩

/-- A size is read back from its numbers, with an `x` of either case between them. -/
theorem ofText?_numbers {mark : Char} (hmark : mark ∈ ['x', 'X']) (v : Viewport) :
    ofText? (toString v.width ++ String.singleton mark ++ toString v.height) = some v := by
  rw [ofText?_eq_some_iff, lower_numbers hmark]
  exact .sized (numberOf_toString v.width) (numberOf_toString v.height)

/-- What is read as a size has no blank, no minus sign and no second `x`. -/
theorem characters_of_ofText? (h : ofText? s = some v) :
    (∀ c ∈ s.toList, Text.isBlank c = false ∧ c ≠ '-') ∧
      s.toList.countP (fun c => c == 'x' || c == 'X') ≤ 1 := by
  have hwritten := ofText?_eq_some_iff.mp h
  rw [Text.lower, String.toList_ofList] at hwritten
  have hkept {c : Char} (hself : Text.lowerChar c = [c]) (hc : c ∈ s.toList) :=
    hwritten.characters c (Text.mem_lowerAfter hself hc [])
  refine ⟨fun c hc => ⟨?_, ?_⟩, (Text.countP_le_count_lowerAfter [] _).trans hwritten.count_le⟩
  · cases hblank : Text.isBlank c with
    | false => rfl
    | true => exact hblank ▸ (hkept (Text.lowerChar_of_isBlank hblank) hc).1
  · rintro rfl
    exact (hkept (by decide) hc).2 rfl

/-- A size is read from a text exactly if the lower case of the text is how the size is written: one of
the names, or two numbers with an `x` between them. So every size is read back from its numbers, and
nothing is read where there is a blank, a minus sign, a second `x` or a number that is too large. -/
theorem size_read_iff_written (s : String) (v : Viewport) :
    (ofText? s = some v ↔ Written (Text.lower s).toList v) ∧
    (∀ mark ∈ ['x', 'X'],
      ofText? (toString v.width ++ String.singleton mark ++ toString v.height) = some v) ∧
    (ofText? s = some v →
      (∀ c ∈ s.toList, Text.isBlank c = false ∧ c ≠ '-') ∧
        s.toList.countP (fun c => c == 'x' || c == 'X') ≤ 1) ∧
    ∀ width height m n, (Text.lower s).toList = width ++ 'x' :: height → NumberOf width m →
      NumberOf height n → 2 ^ 32 ≤ m ∨ 2 ^ 32 ≤ n → ofText? s = none := by
  refine ⟨ofText?_eq_some_iff, fun mark hmark => ofText?_numbers hmark v, characters_of_ofText?, ?_⟩
  intro width height m n htext hwidth hheight hlarge
  rw [ofText?_of_mark (htext ▸ by simp), htext, ofSize?_numbers hwidth hheight, of?, dif_neg]
  rintro ⟨hm, hn⟩
  rcases hlarge with hlarge | hlarge
  · exact absurd hm (Nat.not_lt.mpr hlarge)
  · exact absurd hn (Nat.not_lt.mpr hlarge)

example : (ofText? "+1280X0720").map (fun v => (v.width, v.height)) = some (1280, 720) := by
  decide +kernel

end Viewport

end PageAudit
