import PageAudit.Json.Record
import PageAudit.Proofs.Number.Digits

/-!
# Decoding what was encoded

Decoders undo encoders one level at a time: a list item by item, a table whose keys are apart key by
key, and a record field by field, whether a field that may be missing was written or not.
-/

namespace PageAudit.Json

variable {α : Type}

/-! ## Plain values -/

theorem toWord_ofNat {n : Nat} (h : n < 2 ^ 64) (shape : Shape) :
    toWord shape (ofNat n) = .ok n := by
  rw [ofNat, toWord, Numeral.ofNat]
  simp only [Digit.value_ofNat, if_pos h]
  rfl

/-! ## Lists and tables -/

theorem toList_map {encode : α → Json} {decode : Decoder α} {as : List α}
    (h : ∀ a ∈ as, decode (encode a) = .ok a) :
    toList decode (array (as.map encode)) = .ok as := by
  rw [toList]
  induction as with
  | nil => rfl
  | cons a as ih =>
      rw [List.map_cons, decodeItems, h a List.mem_cons_self]
      simp only [ih fun b hb => h b (List.mem_cons_of_mem a hb)]

theorem toList_ofStrings (items : List String) : toList toText (ofStrings items) = .ok items :=
  toList_map fun _ _ => rfl

/-- A value under a new name goes to the end of a table. -/
theorem assign_of_notMem {name : String} {a : α} {table : List (String × α)}
    (h : name ∉ table.map Prod.fst) : assign name a table = table ++ [(name, a)] := by
  induction table with
  | nil => rfl
  | cons entry table ih =>
      obtain ⟨n, v⟩ := entry
      rw [List.map_cons, List.mem_cons, not_or] at h
      rw [assign, if_neg (Ne.symm h.1), ih h.2, List.cons_append]

theorem toTable_map {encode : α → Json} {decode : Decoder α} {table : List (String × α)}
    (hkeys : (table.map Prod.fst).Nodup)
    (h : ∀ entry ∈ table, decode (encode entry.2) = .ok entry.2) :
    toTable decode (object (table.map fun entry => (entry.1, encode entry.2))) = .ok table := by
  -- what has been decoded so far is a table of its own, with other keys than the rest
  have hmembers : ∀ (rest acc : List (String × α)), ((acc ++ rest).map Prod.fst).Nodup →
      (∀ entry ∈ rest, decode (encode entry.2) = .ok entry.2) →
      decodeMembers decode acc (rest.map fun entry => (entry.1, encode entry.2)) =
        .ok (acc ++ rest) := by
    intro rest
    induction rest with
    | nil => simp [decodeMembers]
    | cons entry rest ih =>
        intro acc hnodup hdecode
        obtain ⟨name, a⟩ := entry
        have hname : name ∉ acc.map Prod.fst := by
          simp only [List.map_append, List.map_cons] at hnodup
          exact fun hmem => (List.nodup_append.mp hnodup).2.2 _ hmem _ List.mem_cons_self rfl
        have happend : acc ++ (name, a) :: rest = (acc ++ [(name, a)]) ++ rest := by simp
        rw [happend] at hnodup ⊢
        rw [List.map_cons, decodeMembers, hdecode _ List.mem_cons_self]
        simp only [assign_of_notMem hname]
        exact ih _ hnodup fun entry hentry => hdecode entry (List.mem_cons_of_mem _ hentry)
  simpa [toTable] using hmembers table [] (by simpa using hkeys) h

/-! ## Variants -/

theorem toVariant_label {label : α → String} {variants : List α} {a : α} (ha : a ∈ variants)
    (hlabels : ∀ b ∈ variants, label b = label a → b = a) :
    toVariant (variants.map fun v => (label v, v)) (string (label a)) = .ok a := by
  have hlookup : (variants.map fun v => (label v, v)).lookup (label a) = some a := by
    induction variants with
    | nil => cases ha
    | cons b variants ih =>
        rw [List.map_cons, List.lookup_cons]
        by_cases hb : label b = label a
        · rw [hlabels b List.mem_cons_self hb, beq_self_eq_true]
        · rw [beq_false_of_ne (Ne.symm hb)]
          have hmem : a ∈ variants := (List.mem_cons.mp ha).resolve_left fun h => hb (h ▸ rfl)
          exact ih hmem fun c hc => hlabels c (List.mem_cons_of_mem b hc)
  simp [toVariant, toVariant.find, hlookup]

/-! ## Records -/

namespace Field

variable (name other : String) (decode : Decoder α)

@[simp] theorem name_required : (required name decode).name = name := rfl

@[simp] theorem name_optional : (optional name decode).name = name := rfl

@[simp] theorem name_defaulting (a : α) : (defaulting name decode a).name = name := rfl

@[simp] theorem answersTo_required : (required name decode).answersTo other = (name == other) := by
  simp [answersTo, required]

@[simp] theorem answersTo_optional : (optional name decode).answersTo other = (name == other) := by
  simp [answersTo, optional]

end Field

namespace Fields

@[simp]
def names : {ts : List Type} → Fields ts → List String
  | [], _ => []
  | _ :: _, (f, fs) => f.name :: names fs

/-- Whether no field answers to the name of a later one. -/
@[simp]
def Apart : {ts : List Type} → Fields ts → Prop
  | [], _ => True
  | _ :: _, (f, fs) => (∀ name ∈ fs.names, f.answersTo name = false) ∧ Apart fs

/-- The members spell the values in the order of the fields; a field may be left out if its value is
the one that stands for it. -/
inductive Written : (ts : List Type) → Fields ts → List (String × Json) → Values ts → Prop where
  | nil : Written [] () [] ()
  | member {β : Type} {ts : List Type} {f : Field β} {fs : Fields ts} {j : Json} {b : β}
      {ms : List (String × Json)} {bs : Values ts} :
      f.decode j = .ok b → Written ts fs ms bs →
      Written (β :: ts) (f, fs) ((f.name, j) :: ms) (b, bs)
  | missing {β : Type} {ts : List Type} {f : Field β} {fs : Fields ts} {b : β}
      {ms : List (String × Json)} {bs : Values ts} :
      f.absent = some b → Written ts fs ms bs → Written (β :: ts) (f, fs) ms (b, bs)

variable {ts : List Type} {fs : Fields ts} {ms : List (String × Json)} {as : Values ts}

theorem Written.name_mem (h : Written ts fs ms as) : ∀ m ∈ ms, m.1 ∈ fs.names := by
  induction h with
  | nil => exact fun _ hm => absurd hm List.not_mem_nil
  | member _ _ ih =>
      intro m hm
      rcases List.mem_cons.mp hm with rfl | hm
      · exact List.mem_cons_self
      · exact List.mem_cons_of_mem _ (ih m hm)
  | missing _ _ ih => exact fun m hm => List.mem_cons_of_mem _ (ih m hm)

/-- A field that answers to none of the members keeps its slot. -/
theorem fill_skip {f : Field α} {slot : Option α} {slots : Slots ts}
    (h : ∀ m ∈ ms, f.answersTo m.1 = false) :
    @fill (α :: ts) (f, fs) ms (slot, slots) =
      (fs.fill ms slots).map fun slots => ((slot, slots) : Option α × Slots ts) := by
  induction ms generalizing slots with
  | nil => rfl
  | cons m ms ih =>
      obtain ⟨name, j⟩ := m
      have hname : f.answersTo name = false := h _ List.mem_cons_self
      simp only [fill, put, hname]
      cases fs.put name j slots with
      | error e => rfl
      | ok slots => exact ih fun m hm => h m (List.mem_cons_of_mem _ hm)

theorem answersTo_name (f : Field α) : f.answersTo f.name = true := by
  rw [Field.answersTo, beq_self_eq_true, Bool.true_or]

/-- Written fields fill the empty slots, from which the values are taken. -/
theorem Written.fill (h : Written ts fs ms as) (hapart : Apart fs) :
    ∃ slots, fs.fill ms (Slots.empty ts) = .ok slots ∧ fs.close slots = .ok as := by
  induction h with
  | nil => exact ⟨(), rfl, rfl⟩
  | @member α ts f fs j a ms as hdecode hwritten ih =>
      obtain ⟨slots, hfill, hclose⟩ := ih hapart.2
      refine ⟨(some a, slots), ?_, ?_⟩
      · have hskip : ∀ m ∈ ms, f.answersTo m.1 = false :=
          fun m hm => hapart.1 _ (hwritten.name_mem m hm)
        simp only [Slots.empty, Fields.fill, put, answersTo_name, if_true, hdecode]
        rw [fill_skip hskip, hfill]
        rfl
      · rw [close]
        simp only [Option.some_or, hclose]
  | @missing α ts f fs a ms as habsent hwritten ih =>
      obtain ⟨slots, hfill, hclose⟩ := ih hapart.2
      refine ⟨(none, slots), ?_, ?_⟩
      · have hskip : ∀ m ∈ ms, f.answersTo m.1 = false :=
          fun m hm => hapart.1 _ (hwritten.name_mem m hm)
        rw [Slots.empty, fill_skip hskip, hfill]
        rfl
      · rw [close]
        simp only [Option.none_or, habsent, hclose]

theorem Written.decode (h : Written ts fs ms as) (hapart : Apart fs) (record : String) :
    fs.decode record (object ms) = .ok as := by
  obtain ⟨slots, hfill, hclose⟩ := h.fill hapart
  rw [Fields.decode, hfill]
  exact hclose

/-- What is made of the values of a record's fields is made of a document that they are written in. -/
theorem decode_bind {β : Type} {record : String} {f : Values ts → Except DecodeError β} {b : β}
    (as : Values ts) (hf : f as = .ok b) (h : Written ts fs ms as) (hapart : Apart fs) :
    (fs.decode record (object ms) >>= f) = .ok b := by
  rw [h.decode hapart]
  exact hf

theorem Written.required {name : String} {decode : Decoder α} {j : Json} {a : α}
    (hdecode : decode j = .ok a) (h : Written ts fs ms as) :
    Written (α :: ts) (Field.required name decode, fs) ((name, j) :: ms) (a, as) :=
  .member hdecode h

theorem Written.defaulting {name : String} {decode : Decoder α} {default : α} {j : Json} {a : α}
    (hdecode : decode j = .ok a) (h : Written ts fs ms as) :
    Written (α :: ts) (Field.defaulting name decode default, fs) ((name, j) :: ms) (a, as) :=
  .member hdecode h

/-- A field that may be missing is left out when there is no value. -/
theorem Written.optional {name : String} {decode : Decoder α} {encode : α → Json} {v : Option α}
    (hnull : ∀ a, encode a ≠ .null) (hdecode : ∀ a ∈ v, decode (encode a) = .ok a)
    (h : Written ts fs ms as) :
    Written (Option α :: ts) (Field.optional name decode, fs)
      (Json.optional name (v.map encode) ++ ms) (v, as) := by
  cases v with
  | none => exact .missing rfl h
  | some a =>
      have hoption : toOption decode (encode a) = .ok (some a) := by
        unfold toOption
        split
        · next heq => exact absurd heq (hnull a)
        · rw [hdecode a rfl]
          rfl
      exact .member hoption h

/-! ## Refused records -/

/-- The members spell values for the first fields and something that is refused for the next one. -/
inductive Refused : (ts : List Type) → Fields ts → List (String × Json) → Prop where
  | here {β : Type} {ts : List Type} {f : Field β} {fs : Fields ts} {j : Json} {e : DecodeError}
      {ms : List (String × Json)} :
      f.decode j = .error e → Refused (β :: ts) (f, fs) ((f.name, j) :: ms)
  | later {β : Type} {ts : List Type} {f : Field β} {fs : Fields ts} {j : Json} {b : β}
      {ms : List (String × Json)} :
      f.decode j = .ok b → (∀ m ∈ ms, f.answersTo m.1 = false) → Refused ts fs ms →
      Refused (β :: ts) (f, fs) ((f.name, j) :: ms)

theorem Refused.fill (h : Refused ts fs ms) : ∃ e, fs.fill ms (Slots.empty ts) = .error e := by
  induction h with
  | @here β ts f fs j e ms hdecode =>
      refine ⟨e, ?_⟩
      simp only [Slots.empty, Fields.fill, put, answersTo_name, if_true, hdecode]
  | @later β ts f fs j b ms hdecode hskip _ ih =>
      obtain ⟨e, hfill⟩ := ih
      refine ⟨e, ?_⟩
      simp only [Slots.empty, Fields.fill, put, answersTo_name, if_true, hdecode]
      rw [fill_skip hskip, hfill]
      rfl

/-- A record of which one field is refused is refused. -/
theorem Refused.decode_bind {β : Type} (h : Refused ts fs ms) (record : String)
    (f : Values ts → Except DecodeError β) :
    ∃ e, (fs.decode record (object ms) >>= f) = .error e := by
  obtain ⟨e, hfill⟩ := h.fill
  refine ⟨e, ?_⟩
  rw [Fields.decode, hfill]
  rfl

theorem Refused.required {name : String} {decode : Decoder α} {j : Json} {e : DecodeError}
    (hdecode : decode j = .error e) :
    Refused (α :: ts) (Field.required name decode, fs) ((name, j) :: ms) :=
  .here hdecode

theorem Refused.afterRequired {name : String} {decode : Decoder α} {j : Json} {a : α}
    (hdecode : decode j = .ok a) (hskip : ∀ m ∈ ms, name ≠ m.1) (h : Refused ts fs ms) :
    Refused (α :: ts) (Field.required name decode, fs) ((name, j) :: ms) :=
  .later hdecode (fun m hm => by simpa using hskip m hm) h

end Fields

end PageAudit.Json
