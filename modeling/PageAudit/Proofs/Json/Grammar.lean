import PageAudit.Json.Printer

/-!
# The grammar of documents

Which texts spell which documents, blanks between the parts included. A printed document is spelled,
compact or laid out, if its numbers are numerals of the grammar.
-/

namespace PageAudit

/-- A numeral of the grammar has digits before its point, and a first zero is the only one. -/
structure Numeral.WellFormed (n : Numeral) : Prop where
  whole_ne_nil : n.whole ≠ []
  lone_zero : n.whole.head? = some 0 → n.whole.length = 1

namespace Json

/-- Whether the characters may stand between the parts of a document. -/
def Blanks (cs : List Char) : Prop := ∀ c ∈ cs, c = ' ' ∨ c = '\n' ∨ c = '\t' ∨ c = '\r'

theorem blanks_nil : Blanks [] := fun _ h => absurd h List.not_mem_nil

theorem blanks_space : Blanks [' '] := fun _ h => Or.inl (List.mem_singleton.mp h)

theorem blanks_newLine (level : Nat) : Blanks (newLine level) := by
  intro c hc
  rcases List.mem_cons.mp hc with rfl | hc
  · exact Or.inr (Or.inl rfl)
  · exact Or.inl (List.eq_of_mem_replicate hc)

mutual

/-- A text that spells a document, without blanks before and after it. -/
inductive Spells : Json → List Char → Prop where
  | null : Spells null ['n', 'u', 'l', 'l']
  | bool (b : Bool) : Spells (bool b) (literal b)
  | number {n : Numeral} : n.WellFormed → Spells (number n) n.text
  | string (s : String) : Spells (string s) (stringText s)
  | garbled : Spells garbled garbledText
  | emptyArray : Spells (array []) ['[', ']']
  | array {items : List Json} {cs : List Char} :
      SpellsItems items cs → Spells (array items) ('[' :: (cs ++ [']']))
  | emptyObject : Spells (object []) ['\x7b', '\x7d']
  | object {members : List (String × Json)} {cs : List Char} :
      SpellsMembers members cs → Spells (object members) ('\x7b' :: (cs ++ ['\x7d']))

/-- One or more items, with the blanks around them. -/
inductive SpellsItems : List Json → List Char → Prop where
  | last {before cs after : List Char} {j : Json} :
      Blanks before → Spells j cs → Blanks after → SpellsItems [j] (before ++ (cs ++ after))
  | more {before cs ds : List Char} {j : Json} {items : List Json} :
      Blanks before → Spells j cs → SpellsItems items ds →
      SpellsItems (j :: items) (before ++ (cs ++ ',' :: ds))

/-- One or more members, with the blanks around them. -/
inductive SpellsMembers : List (String × Json) → List Char → Prop where
  | last {before gap cs after : List Char} {name : String} {j : Json} :
      Blanks before → Blanks gap → Spells j cs → Blanks after →
      SpellsMembers [(name, j)] (before ++ (stringText name ++ ':' :: (gap ++ (cs ++ after))))
  | more {before gap cs ds : List Char} {name : String} {j : Json}
      {members : List (String × Json)} :
      Blanks before → Blanks gap → Spells j cs → SpellsMembers members ds →
      SpellsMembers ((name, j) :: members)
        (before ++ (stringText name ++ ':' :: (gap ++ (cs ++ ',' :: ds))))

end

/-! ## Printed documents -/

/-- Whether every number is a numeral of the grammar. -/
def Printable : Json → Prop
  | number n => n.WellFormed
  | array items => PrintableItems items
  | object members => PrintableMembers members
  | _ => True
where
  PrintableItems : List Json → Prop
    | [] => True
    | j :: rest => j.Printable ∧ PrintableItems rest
  PrintableMembers : List (String × Json) → Prop
    | [] => True
    | (_, j) :: rest => j.Printable ∧ PrintableMembers rest

theorem printable_array {items : List Json} :
    (array items).Printable ↔ ∀ j ∈ items, j.Printable := by
  rw [Printable]
  induction items with
  | nil => simp [Printable.PrintableItems]
  | cons j items ih => rw [Printable.PrintableItems, ih, List.forall_mem_cons]

theorem printable_object {members : List (String × Json)} :
    (object members).Printable ↔ ∀ m ∈ members, m.2.Printable := by
  rw [Printable]
  induction members with
  | nil => simp [Printable.PrintableMembers]
  | cons m members ih =>
      obtain ⟨name, j⟩ := m
      rw [Printable.PrintableMembers, ih, List.forall_mem_cons]

theorem printable_map {α : Type} {encode : α → Json} {as : List α}
    (h : ∀ a ∈ as, (encode a).Printable) : (array (as.map encode)).Printable :=
  printable_array.mpr (List.forall_mem_map.mpr h)

/-- A member that may be left out is printable if its value is. -/
theorem printable_optional {α : Type} {name : String} {encode : α → Json} {value : Option α}
    (h : ∀ a ∈ value, (encode a).Printable) :
    ∀ m ∈ optional name (value.map encode), m.2.Printable := by
  cases value with
  | none => exact fun m hm => absurd hm List.not_mem_nil
  | some a =>
      intro m hm
      rw [List.mem_singleton.mp hm]
      exact h a rfl

mutual

theorem spells_compactText : (j : Json) → j.Printable → Spells j j.compactText
  | .null, _ => .null
  | .bool b, _ => .bool b
  | .number _, h => .number h
  | .string s, _ => .string s
  | .garbled, _ => .garbled
  | .array [], _ => .emptyArray
  | .array (j :: rest), h => by
      have hitems := spellsItems_compactText j rest (spells_compactText j h.1) h.2
      simpa [compactText] using Spells.array hitems
  | .object [], _ => .emptyObject
  | .object ((name, j) :: rest), h => by
      have hmembers := spellsMembers_compactText name j rest (spells_compactText j h.1) h.2
      simpa [compactText] using Spells.object hmembers

theorem spellsItems_compactText (j : Json) : (rest : List Json) → Spells j j.compactText →
    Printable.PrintableItems rest →
    SpellsItems (j :: rest) (j.compactText ++ compactText.itemsText rest)
  | [], hj, _ => .last blanks_nil hj blanks_nil
  | k :: rest, hj, h => by
      have hrest := spellsItems_compactText k rest (spells_compactText k h.1) h.2
      simpa [compactText.itemsText] using SpellsItems.more blanks_nil hj hrest

theorem spellsMembers_compactText (name : String) (j : Json) :
    (rest : List (String × Json)) → Spells j j.compactText → Printable.PrintableMembers rest →
    SpellsMembers ((name, j) :: rest)
      (stringText name ++ ':' :: (j.compactText ++ compactText.membersText rest))
  | [], hj, _ => .last blanks_nil blanks_nil hj blanks_nil
  | (name', k) :: rest, hj, h => by
      have hrest := spellsMembers_compactText name' k rest (spells_compactText k h.1) h.2
      simpa [compactText.membersText] using SpellsMembers.more blanks_nil blanks_nil hj hrest

end

mutual

theorem spells_prettyText (level : Nat) : (j : Json) → j.Printable → Spells j (prettyText level j)
  | .null, _ => .null
  | .bool b, _ => .bool b
  | .number _, h => .number h
  | .string s, _ => .string s
  | .garbled, _ => .garbled
  | .array [], _ => .emptyArray
  | .array (j :: rest), h => by
      have hitems := spellsItems_prettyText level j rest (spells_prettyText (level + 1) j h.1) h.2
      simpa [prettyText] using Spells.array hitems
  | .object [], _ => .emptyObject
  | .object ((name, j) :: rest), h => by
      have hmembers :=
        spellsMembers_prettyText level name j rest (spells_prettyText (level + 1) j h.1) h.2
      simpa [prettyText] using Spells.object hmembers

theorem spellsItems_prettyText (level : Nat) (j : Json) : (rest : List Json) →
    Spells j (prettyText (level + 1) j) → Printable.PrintableItems rest →
    SpellsItems (j :: rest) (newLine (level + 1) ++ (prettyText (level + 1) j ++
      (prettyText.itemsText (level + 1) rest ++ newLine level)))
  | [], hj, _ => .last (blanks_newLine _) hj (blanks_newLine level)
  | k :: rest, hj, h => by
      have hrest := spellsItems_prettyText level k rest (spells_prettyText (level + 1) k h.1) h.2
      simpa [prettyText.itemsText] using SpellsItems.more (blanks_newLine _) hj hrest

theorem spellsMembers_prettyText (level : Nat) (name : String) (j : Json) :
    (rest : List (String × Json)) → Spells j (prettyText (level + 1) j) →
    Printable.PrintableMembers rest →
    SpellsMembers ((name, j) :: rest) (newLine (level + 1) ++ (stringText name ++
      ':' :: ([' '] ++ (prettyText (level + 1) j ++
        (prettyText.membersText (level + 1) rest ++ newLine level)))))
  | [], hj, _ => .last (blanks_newLine _) blanks_space hj (blanks_newLine level)
  | (name', k) :: rest, hj, h => by
      have hrest :=
        spellsMembers_prettyText level name' k rest (spells_prettyText (level + 1) k h.1) h.2
      simpa [prettyText.membersText] using
        SpellsMembers.more (blanks_newLine _) blanks_space hj hrest

end

end Json

end PageAudit
