import PageAudit.Json.Record
import PageAudit.Proofs.Json.Reading
import PageAudit.Proofs.Text.Utf8

/-!
# Which documents are records

From an object every field takes the value of the one member that answers to it, under whichever of its
names, or, without such a member, the value that stands for a missing one. From a list the fields are
read in their order. So a document tells what is read from it field by field, and nothing else in it
matters.
-/

namespace PageAudit.Json

variable {α : Type} {ts : List Type} {f : Field α} {fs : Fields ts} {ms : List (String × Json)}
  {j : Json} {js items : List Json} {name record : String} {total taken : Nat} {a : α}
  {as : Values ts} {slot slot' : Option α} {slots slots' : Slots ts}

/-! ## Whole documents -/

/-- A document that is read gives what its value is decoded to. -/
theorem Source.decode_eq_ok_iff {src : Source} {decode : Decoder α} :
    src.decode decode = .ok a ↔ ∃ j, ofSource? src = some j ∧ decode j = .ok a := by
  rw [Source.decode]
  cases ofSource? src with
  | none => simp
  | some j =>
      cases hdecode : decode j with
      | ok b => simp [hdecode]
      | error e => cases hwell : j.wellFormed <;> simp [hdecode, hwell]

/-- A printed value is read back from its bytes. -/
theorem ofSource?_of_compact {s : String} (hs : s = j.compact) (h : j.Printable) :
    ofSource? (.ofBytes s.toUTF8) = some j := by
  have hsource : Source.ofBytes s.toUTF8 = .ofString s := Text.characters_toUTF8 s
  rw [hsource, hs]
  exact ofString?_compact h

/-! ## Single fields -/

/-- The field has this value if this is what there is for it, which may be nothing. -/
def Field.Reads (f : Field α) (a : α) : List Json → Prop
  | [] => f.absent = some a
  | [j] => f.decode j = .ok a
  | _ => False

/-- What a slot holds after it was offered what there is. It takes one value at most. -/
def Field.Fills (f : Field α) (slot slot' : Option α) : List Json → Prop
  | [] => slot' = slot
  | [j] => slot = none ∧ ∃ a, f.decode j = .ok a ∧ slot' = some a
  | _ => False

/-- What the members of an object hold for a field. -/
def Field.found (f : Field α) (ms : List (String × Json)) : List Json :=
  (ms.filter fun m => f.answersTo m.1).map Prod.snd

namespace Field

theorem answersTo_iff : f.answersTo name = true ↔ name ∈ f.name :: f.aliases := by
  rw [answersTo, Bool.or_eq_true, beq_iff_eq, List.contains_iff_mem, List.mem_cons, eq_comm]

theorem found_answered (h : f.answersTo name = true) : f.found ((name, j) :: ms) = j :: f.found ms := by
  simp [found, h]

theorem found_other (h : f.answersTo name = false) : f.found ((name, j) :: ms) = f.found ms := by
  simp [found, h]

theorem fills_cons : f.Fills slot slot' (j :: js) ↔
    slot = none ∧ ∃ a, f.decode j = .ok a ∧ f.Fills (some a) slot' js := by
  rcases js with _ | ⟨_, _ | _⟩ <;> simp [Fills]

/-- A field has the value that its slot holds in the end, or else the one that stands for it. -/
theorem reads_iff : f.Reads a js ↔ ∃ slot, f.Fills none slot js ∧ slot.or f.absent = some a := by
  rcases js with _ | ⟨j, _ | _⟩
  · simp [Fills, Reads]
  · simp only [Fills, Reads, true_and]
    constructor
    · exact fun h => ⟨some a, ⟨a, h, rfl⟩, rfl⟩
    · rintro ⟨_, ⟨b, hb, rfl⟩, hor⟩
      rw [hb, Option.some.inj hor]
  · simp [Fills, Reads]

theorem Reads.member {m : String × Json} (h : f.Reads a (f.found ms)) (hm : m ∈ ms)
    (hname : f.answersTo m.1 = true) : f.decode m.2 = .ok a := by
  have hfound : m.2 ∈ f.found ms := List.mem_map_of_mem (List.mem_filter.mpr ⟨hm, hname⟩)
  generalize f.found ms = js at h hfound
  rcases js with _ | ⟨j, _ | _⟩
  · cases hfound
  · rw [List.mem_singleton.mp hfound]
    exact h
  · exact h.elim

theorem Reads.missing (h : f.Reads a (f.found ms)) (hnone : ∀ m ∈ ms, f.answersTo m.1 = false) :
    f.absent = some a := by
  have hfound : f.found ms = [] := by
    rw [found, List.map_eq_nil_iff, List.filter_eq_nil_iff]
    exact fun m hm => by simp [hnone m hm]
  rw [hfound] at h
  exact h

end Field

/-! ## Objects -/

namespace Fields

/-- Whether one of the fields answers to a name. -/
def answersTo : {ts : List Type} → Fields ts → String → Bool
  | [], _, _ => false
  | _ :: _, (f, fs), name => f.answersTo name || fs.answersTo name

/-- Whether every name is answered by one field at most. -/
def Disjoint : {ts : List Type} → Fields ts → Prop
  | [], _ => True
  | _ :: _, (f, fs) => (∀ name ∈ f.name :: f.aliases, fs.answersTo name = false) ∧ fs.Disjoint

/-- The fields have these values if the object has these members. -/
def ReadsObject : {ts : List Type} → Fields ts → Values ts → List (String × Json) → Prop
  | [], _, _, _ => True
  | _ :: _, (f, fs), (a, as), ms => f.Reads a (f.found ms) ∧ fs.ReadsObject as ms

theorem fill_cons : fs.fill ((name, j) :: ms) slots = .ok slots' ↔
    ∃ next, fs.put name j slots = .ok next ∧ fs.fill ms next = .ok slots' := by
  rw [fill]
  cases fs.put name j slots <;> simp

/-- Without fields every member is skipped. -/
theorem fill_nil (fs : Fields []) (ms : List (String × Json)) (slots : Slots []) :
    fs.fill ms slots = .ok slots := by
  induction ms with
  | nil => rfl
  | cons m ms ih => exact ih

/-- A member that no field answers to is skipped. -/
theorem put_skip (h : fs.answersTo name = false) : fs.put name j slots = .ok slots := by
  induction ts with
  | nil => rfl
  | cons α ts ih =>
      obtain ⟨f, fs⟩ := fs
      obtain ⟨slot, slots⟩ := slots
      simp only [answersTo, Bool.or_eq_false_iff] at h
      simp only [put, h.1, ih h.2]
      rfl

theorem put_answered {next : Slots (α :: ts)} (h : f.answersTo name = true) :
    @put (α :: ts) (f, fs) name j (slot, slots) = .ok next ↔
      slot = none ∧ ∃ a, f.decode j = .ok a ∧ ((some a, slots) : Option α × Slots ts) = next := by
  simp only [put, h, if_true]
  cases slot with
  | some b => simp
  | none =>
      cases f.decode j with
      | error e => simp
      | ok a =>
          refine ⟨fun hput => ⟨rfl, a, rfl, Except.ok.inj hput⟩, ?_⟩
          rintro ⟨-, b, hb, rfl⟩
          cases hb
          rfl

theorem put_other {next : Slots (α :: ts)} (h : f.answersTo name = false) :
    @put (α :: ts) (f, fs) name j (slot, slots) = .ok next ↔
      ∃ others, fs.put name j slots = .ok others ∧
        ((slot, others) : Option α × Slots ts) = next := by
  simp only [put, h]
  cases fs.put name j slots with
  | error e => simp
  | ok others =>
      refine ⟨fun hput => ⟨others, rfl, Except.ok.inj hput⟩, ?_⟩
      rintro ⟨_, hothers, rfl⟩
      cases hothers
      rfl

/-- The first field takes what is found for it, and the others are filled as if it were not there. -/
theorem fill_field (hdisjoint : ∀ name ∈ f.name :: f.aliases, fs.answersTo name = false) :
    @fill (α :: ts) (f, fs) ms (slot, slots) = .ok (slot', slots') ↔
      f.Fills slot slot' (f.found ms) ∧ fs.fill ms slots = .ok slots' := by
  induction ms generalizing slot slots with
  | nil =>
      change Except.ok ((slot, slots) : Option α × Slots ts) = .ok (slot', slots') ↔
        slot' = slot ∧ Except.ok slots = .ok slots'
      rw [Except.ok.injEq, Except.ok.injEq, Prod.mk.injEq, eq_comm]
  | cons m ms ih =>
      obtain ⟨name, j⟩ := m
      refine fill_cons.trans ?_
      rw [fill_cons]
      cases hname : f.answersTo name with
      | true =>
          rw [Field.found_answered hname, Field.fills_cons,
            put_skip (hdisjoint name (Field.answersTo_iff.mp hname))]
          simp only [put_answered hname]
          constructor
          · rintro ⟨_, ⟨hslot, a, hdecode, rfl⟩, hrest⟩
            exact ⟨⟨hslot, a, hdecode, (ih.mp hrest).1⟩, slots, rfl, (ih.mp hrest).2⟩
          · rintro ⟨⟨hslot, a, hdecode, hfills⟩, _, hslots, hrest⟩
            cases hslots
            exact ⟨_, ⟨hslot, a, hdecode, rfl⟩, ih.mpr ⟨hfills, hrest⟩⟩
      | false =>
          rw [Field.found_other hname]
          simp only [put_other hname]
          constructor
          · rintro ⟨_, ⟨others, hput, rfl⟩, hrest⟩
            exact ⟨(ih.mp hrest).1, others, hput, (ih.mp hrest).2⟩
          · rintro ⟨hfills, others, hput, hrest⟩
            exact ⟨_, ⟨others, hput, rfl⟩, ih.mpr ⟨hfills, hrest⟩⟩

theorem ok_values_iff {b : α} {bs : Values ts} :
    (Except.ok (b, bs) : Except DecodeError (Values (α :: ts))) = .ok (a, as) ↔ b = a ∧ bs = as := by
  constructor
  · intro h
    cases h
    exact ⟨rfl, rfl⟩
  · rintro ⟨rfl, rfl⟩
    rfl

theorem close_field : @close (α :: ts) (f, fs) (slot, slots) = .ok (a, as) ↔
    slot.or f.absent = some a ∧ fs.close slots = .ok as := by
  simp only [close]
  cases slot.or f.absent with
  | none => simp
  | some b =>
      cases fs.close slots with
      | error e => simp
      | ok bs => exact ok_values_iff.trans (by simp)

/-- A record is read from an object field by field. -/
theorem decode_object_iff (hdisjoint : fs.Disjoint) :
    fs.decode record (.object ms) = .ok as ↔ fs.ReadsObject as ms := by
  have hslots : fs.decode record (.object ms) = .ok as ↔
      ∃ slots, fs.fill ms (Slots.empty ts) = .ok slots ∧ fs.close slots = .ok as := by
    rw [decode]
    cases fs.fill ms (Slots.empty ts) <;> simp
  rw [hslots]
  clear hslots
  induction ts with
  | nil => exact ⟨fun _ => trivial, fun _ => ⟨(), fill_nil fs ms (), rfl⟩⟩
  | cons α ts ih =>
      obtain ⟨f, fs⟩ := fs
      obtain ⟨a, as⟩ := as
      refine Iff.trans ?_ (and_congr Field.reads_iff.symm (ih hdisjoint.2))
      constructor
      · rintro ⟨⟨slot, slots⟩, hfill, hclose⟩
        obtain ⟨hslot, hslots⟩ := (fill_field hdisjoint.1).mp hfill
        obtain ⟨ha, has⟩ := close_field.mp hclose
        exact ⟨⟨slot, hslot, ha⟩, slots, hslots, has⟩
      · rintro ⟨⟨slot, hslot, ha⟩, slots, hslots, has⟩
        exact ⟨(slot, slots), (fill_field hdisjoint.1).mpr ⟨hslot, hslots⟩,
          close_field.mpr ⟨ha, has⟩⟩

/-! ## Lists -/

/-- The fields have these values if these are the items of the list. -/
def ReadsItems : {ts : List Type} → Fields ts → Values ts → List Json → Prop
  | [], _, _, items => items = []
  | _ :: _, (f, fs), (a, as), items => f.Reads a (items.take 1) ∧ fs.ReadsItems as (items.drop 1)

theorem ofItems_field : @ofItems record total taken (α :: ts) (f, fs) items = .ok (a, as) ↔
    f.Reads a (items.take 1) ∧ fs.ofItems record total (taken + 1) (items.drop 1) = .ok as := by
  cases items with
  | nil =>
      simp only [ofItems, List.take_nil, List.drop_nil, Field.Reads]
      cases f.absent with
      | none => simp
      | some b =>
          cases fs.ofItems record total (taken + 1) [] with
          | error e => simp
          | ok bs => exact ok_values_iff.trans (by simp)
  | cons j rest =>
      simp only [ofItems, List.take_succ_cons, List.take_zero, List.drop_succ_cons, List.drop_zero,
        Field.Reads]
      cases f.decode j with
      | error e => simp
      | ok b =>
          cases fs.ofItems record total (taken + 1) rest with
          | error e => simp
          | ok bs => exact ok_values_iff.trans (by simp)

theorem decode_array_iff : fs.decode record (.array items) = .ok as ↔ fs.ReadsItems as items := by
  rw [decode]
  generalize fs.size = total
  generalize 0 = taken
  induction ts generalizing items taken with
  | nil =>
      cases items with
      | nil => exact ⟨fun _ => rfl, fun _ => rfl⟩
      | cons j rest => simp [ofItems, ReadsItems]
  | cons α ts ih =>
      obtain ⟨f, fs⟩ := fs
      obtain ⟨a, as⟩ := as
      exact ofItems_field.trans (and_congr_right fun _ => ih _)

end Fields

end PageAudit.Json
