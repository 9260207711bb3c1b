import PageAudit.Number.Shortest
import PageAudit.Proofs.Time.Rereading

/-!
# Characters that no number and no time has

A text of numbers and times is made of digits and of a few marks, so it holds no character that a
format of reports reads as its own.
-/

namespace PageAudit.Text

/-- The characters of numbers and times that are no digits. -/
def marks : List Char := "+-.: UTCNaNinf".toList

/-- Whether the character is foreign to the texts of numbers and times. -/
def Foreign (c : Char) : Prop := Digit.ofChar? c = none ∧ c ∉ marks

instance (c : Char) : Decidable (Foreign c) :=
  inferInstanceAs (Decidable (Digit.ofChar? c = none ∧ c ∉ marks))

namespace Foreign

variable {c : Char}

theorem ne_toChar (h : Foreign c) (d : Digit) : d.toChar ≠ c := by
  rintro rfl
  cases (Digit.ofChar?_toChar d).symm.trans h.1

theorem notMem_digits (h : Foreign c) (n : Nat) : c ∉ Nat.toDigits 10 n := by
  rw [← Digit.map_toChar_ofNat]
  intro hmem
  obtain ⟨d, -, hd⟩ := List.mem_map.mp hmem
  exact h.ne_toChar d hd

theorem notMem_toString (h : Foreign c) (n : Nat) : c ∉ (toString n).toList := by
  rw [Digit.toList_toString, Digit.map_toChar_ofNat]
  exact h.notMem_digits n

theorem notMem_padded (h : Foreign c) (width n : Nat) : c ∉ (Moment.padded width n).toList := by
  rw [← Digit.map_toChar_padded]
  intro hmem
  obtain ⟨d, -, hd⟩ := List.mem_map.mp hmem
  exact h.ne_toChar d hd

theorem notMem_marks (h : Foreign c) {s : String} (hs : s.toList.all marks.contains = true) :
    c ∉ s.toList :=
  fun hmem => h.2 (List.contains_iff_mem.mp (List.all_eq_true.mp hs c hmem))

theorem notMem_yearText (h : Foreign c) (year : Int) : c ∉ (Moment.yearText year).toList := by
  have hminus : c ∉ "-".toList := h.notMem_marks (by decide)
  have hplus : c ∉ "+".toList := h.notMem_marks (by decide)
  unfold Moment.yearText
  split_ifs
  · exact h.notMem_padded _ _
  · exact String.toList_append ▸ List.not_mem_append hminus (h.notMem_padded _ _)
  · exact String.toList_append ▸ List.not_mem_append hplus (h.notMem_padded _ _)

theorem notMem_displayText (h : Foreign c) (m : Moment) : c ∉ m.displayText.toList := by
  have hmarks : c ∉ "-".toList ∧ c ∉ " ".toList ∧ c ∉ ":".toList ∧ c ∉ " UTC".toList :=
    ⟨h.notMem_marks (by decide), h.notMem_marks (by decide), h.notMem_marks (by decide),
      h.notMem_marks (by decide)⟩
  obtain ⟨hminus, hblank, hcolon, hzone⟩ := hmarks
  simp only [Moment.displayText, Moment.dateText, Moment.clockText, String.toList_append,
    List.mem_append, not_or]
  exact ⟨⟨⟨⟨⟨⟨⟨h.notMem_yearText _, hminus⟩, h.notMem_padded _ _⟩, hminus⟩, h.notMem_padded _ _⟩, hblank⟩,
    ⟨⟨⟨⟨h.notMem_padded _ _, hcolon⟩, h.notMem_padded _ _⟩, hcolon⟩, h.notMem_padded _ _⟩⟩, hzone⟩

theorem notMem_fixed (h : Foreign c) (x : Double) (places : Nat) : c ∉ (x.fixed places).toList := by
  cases x with
  | nan =>
      rw [Double.fixed]
      exact h.notMem_marks (by decide)
  | num s m =>
      have hsign : c ∉ (if s then "-" else "").toList := by
        cases s with
        | true => exact h.notMem_marks (by decide)
        | false => exact List.not_mem_nil
      have hzero : c ≠ '0' := (h.ne_toChar 0).symm
      have hpoint : c ≠ '.' := fun heq => h.2 (heq ▸ by decide)
      have hzeros (k n : Nat) : c ∉ List.replicate k '0' ++ Nat.toDigits 10 n :=
        List.not_mem_append (fun hmem => hzero (List.eq_of_mem_replicate hmem)) (h.notMem_digits n)
      simp only [Double.fixed, List.splitAt_eq]
      split
      · rw [String.toList_append, List.mem_append, not_or]
        exact ⟨hsign, h.notMem_marks (by decide)⟩
      · generalize hds : List.replicate _ '0' ++ Nat.toDigits 10 _ = ds
        have hmem : c ∉ ds := hds ▸ hzeros _ _
        have htake (k : Nat) : c ∉ ds.take k := fun h => hmem (List.mem_of_mem_take h)
        have hdrop (k : Nat) : c ∉ ds.drop k := fun h => hmem (List.mem_of_mem_drop h)
        rw [String.toList_append, String.toList_ofList, List.mem_append, not_or]
        refine ⟨hsign, ?_⟩
        split
        · exact htake _
        · exact List.not_mem_append (htake _) (List.not_mem_cons_of_ne_of_not_mem hpoint (hdrop _))

end Foreign

end PageAudit.Text
