import PageAudit.Proofs.Text.Blank
import PageAudit.Proofs.Text.Casing
import PageAudit.Settings.Flag

/-!
# Switches in two readings

The word of a switch is read by one rule as a variable and by another as an argument. What both accept
they take for the same. Only the argument may be abbreviated, and only the variable may be empty or
have blanks around it; on all other texts the two rules agree.
-/

namespace PageAudit

variable {s : String}

/-! ## Texts without blanks -/

namespace Text

/-- A character that has no other lower case is left as it is. -/
theorem mem_lowerAfter {c : Char} (hkept : lowerChar c = [c]) {cs : List Char} (hc : c ∈ cs)
    (before : List Char) : c ∈ lowerAfter before cs := by
  induction cs generalizing before with
  | nil => cases hc
  | cons d rest ih =>
      rw [lowerAfter, List.mem_append]
      rcases List.mem_cons.mp hc with rfl | hc
      · left
        rw [if_neg, hkept]
        · exact List.mem_singleton_self c
        · rintro rfl
          revert hkept
          decide
      · exact .inr (ih hc _)

theorem trim_eq_self (h : ∀ c ∈ s.toList, isBlank c = false) : trim s = s := by
  rw [← String.toList_inj, trim, toList_trimBack, toList_trimFront]
  have hfront : s.toList.dropWhile isBlank = s.toList := by
    cases hs : s.toList with
    | nil => rfl
    | cons c cs => exact List.dropWhile_cons_of_neg (by simp [h c (by simp [hs])])
  rw [hfront, List.rdropWhile_eq_self_iff]
  intro hne
  simp [h _ (List.getLast_mem hne)]

/-- A text whose lower case has no blank needs no trimming. -/
theorem trim_of_lower (h : ∀ c ∈ (lower s).toList, isBlank c = false) : trim s = s := by
  refine trim_eq_self fun c hc => ?_
  cases hblank : isBlank c with
  | false => rfl
  | true =>
      have hkept := h c (by
        rw [lower, String.toList_ofList]
        exact mem_lowerAfter (lowerChar_of_isBlank hblank) hc [])
      rw [hblank] at hkept
      exact hkept

end Text

/-! ## Words -/

namespace Flag

/-- What a word is taken for. -/
def meaning? (on off : List String) (word : String) : Option Bool :=
  if on.contains word then some true else if off.contains word then some false else none

theorem ofVariable?_eq (s : String) :
    ofVariable? s = meaning? onWords offWords (Text.lower (Text.trim s)) := rfl

theorem ofArgument?_eq (s : String) :
    ofArgument? s = meaning? onArguments offArguments (Text.lower s) := rfl

theorem mem_of_meaning? {on off : List String} {word : String} {b : Bool}
    (h : meaning? on off word = some b) : word ∈ on ++ off := by
  unfold meaning? at h
  split at h
  · next hon => exact List.mem_append_left _ (List.contains_iff_mem.mp hon)
  split at h
  · next hoff => exact List.mem_append_right _ (List.contains_iff_mem.mp hoff)
  · cases h

theorem exists_meaning? {on off : List String} {word : String} (h : word ∈ on ++ off) :
    ∃ b, meaning? on off word = some b := by
  unfold meaning?
  split
  · exact ⟨true, rfl⟩
  next hon =>
    rcases List.mem_append.mp h with hmem | hmem
    · exact absurd (List.contains_iff_mem.mpr hmem) hon
    · exact ⟨false, if_pos (List.contains_iff_mem.mpr hmem)⟩

/-- The words that only an argument may be. -/
def abbreviations : List String := ["y", "t", "n", "f"]

/-- The text is an abbreviation in any case. -/
def Abbreviated (s : String) : Prop := Text.lower s ∈ abbreviations

/-- The text is a switch for a variable, but empty or with blanks around it. -/
def Padded (s : String) : Prop :=
  Text.lower (Text.trim s) ∈ onWords ++ offWords ∧ (s = "" ∨ Text.trim s ≠ s)

instance (s : String) : Decidable (Abbreviated s) := inferInstanceAs (Decidable (_ ∈ _))

instance (s : String) : Decidable (Padded s) := inferInstanceAs (Decidable (_ ∧ _))

/-! ## Two readings -/

theorem not_isBlank_of_argument {word : String} (h : word ∈ onArguments ++ offArguments) :
    ∀ c ∈ word.toList, Text.isBlank c = false := by
  have hall : (onArguments ++ offArguments).all (fun word => word.toList.all (!Text.isBlank ·)) =
      true := by decide
  intro c hc
  simpa using List.all_eq_true.mp (List.all_eq_true.mp hall word h) c hc

/-- Apart from abbreviations an argument has the words of a variable. -/
theorem meaning?_of_argument {word : String} (h : word ∈ onArguments ++ offArguments)
    (hlong : word ∉ abbreviations) :
    meaning? onWords offWords word = meaning? onArguments offArguments word := by
  revert word
  decide

theorem mem_arguments_of_abbreviation {word : String} (h : word ∈ abbreviations) :
    word ∈ onArguments ++ offArguments ∧ meaning? onWords offWords word = none := by
  revert word
  decide

theorem mem_arguments_of_word {word : String} (h : word ∈ onWords ++ offWords) :
    word = "" ∨ word ∈ onArguments ++ offArguments := by
  revert word
  decide

/-- An argument has nothing to trim. -/
theorem trim_of_argument (h : Text.lower s ∈ onArguments ++ offArguments) :
    s ≠ "" ∧ Text.trim s = s := by
  refine ⟨?_, Text.trim_of_lower (not_isBlank_of_argument h)⟩
  rintro rfl
  revert h
  decide

theorem Abbreviated.readings (h : Abbreviated s) :
    ofVariable? s = none ∧ ∃ b, ofArgument? s = some b := by
  obtain ⟨hargument, hnone⟩ := mem_arguments_of_abbreviation h
  refine ⟨?_, exists_meaning? hargument⟩
  rw [ofVariable?_eq, (trim_of_argument hargument).2, hnone]

theorem Padded.readings (h : Padded s) : (∃ b, ofVariable? s = some b) ∧ ofArgument? s = none := by
  refine ⟨exists_meaning? h.1, ?_⟩
  cases hargument : ofArgument? s with
  | none => rfl
  | some b =>
      obtain ⟨hne, htrim⟩ := trim_of_argument (mem_of_meaning? hargument)
      rcases h.2 with hempty | hpadded
      · exact absurd hempty hne
      · exact absurd htrim hpadded

/-- The two rules read a text alike unless it is abbreviated, empty or padded with blanks. -/
theorem ofVariable?_eq_ofArgument?_iff :
    ofVariable? s = ofArgument? s ↔ ¬Abbreviated s ∧ ¬Padded s := by
  constructor
  · intro h
    refine ⟨fun habbreviated => ?_, fun hpadded => ?_⟩
    · obtain ⟨hnone, b, hsome⟩ := habbreviated.readings
      rw [hnone, hsome] at h
      cases h
    · obtain ⟨⟨b, hsome⟩, hnone⟩ := hpadded.readings
      rw [hsome, hnone] at h
      cases h
  · rintro ⟨hlong, htight⟩
    cases hargument : ofArgument? s with
    | some b =>
        have hmem := mem_of_meaning? hargument
        rw [ofVariable?_eq, (trim_of_argument hmem).2, meaning?_of_argument hmem hlong]
        exact hargument
    | none =>
        cases hvariable : ofVariable? s with
        | none => rfl
        | some b =>
            have hword := mem_of_meaning? hvariable
            have hne : s ≠ "" := fun hempty => htight ⟨hword, .inl hempty⟩
            have htrim : Text.trim s = s := Classical.byContradiction fun hpadded =>
              htight ⟨hword, .inr hpadded⟩
            rw [htrim] at hword
            rcases mem_arguments_of_word hword with hempty | hmem
            · exact absurd (Text.lower_eq_empty_iff.mp hempty) hne
            · obtain ⟨b', hsome⟩ := exists_meaning? hmem
              rw [ofArgument?_eq, hsome] at hargument
              cases hargument

/-- What both rules accept they take for the same. -/
theorem eq_of_readings {b b' : Bool} (hvariable : ofVariable? s = some b)
    (hargument : ofArgument? s = some b') : b = b' := by
  have hagree : ofVariable? s = ofArgument? s := by
    refine ofVariable?_eq_ofArgument?_iff.mpr ⟨fun habbreviated => ?_, fun hpadded => ?_⟩
    · rw [habbreviated.readings.1] at hvariable
      cases hvariable
    · rw [hpadded.readings.2] at hargument
      cases hargument
  rw [hvariable, hargument] at hagree
  exact Option.some.inj hagree

end Flag

end PageAudit
