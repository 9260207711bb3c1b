import PageAudit.Json.Decode

/-!
Records in documents: an object with a member for each field, or a list of the fields in the order of
their declaration. Members of other names are skipped.
-/

namespace PageAudit.Json

variable {α : Type} {ts : List Type}

/-- A field of a record: its name, further names under which it is accepted, its decoder, and the
value that stands for a missing field, if it may be missing. -/
structure Field (α : Type) where
  name : String
  aliases : List String
  decode : Decoder α
  absent : Option α

namespace Field

def required (name : String) (decode : Decoder α) : Field α := ⟨name, [], decode, none⟩

/-- A field that may be missing; `default` stands for it. -/
def defaulting (name : String) (decode : Decoder α) (default : α) : Field α :=
  ⟨name, [], decode, some default⟩

/-- A field that may be missing or null. -/
def optional (name : String) (decode : Decoder α) : Field (Option α) :=
  ⟨name, [], toOption decode, some none⟩

def orNamed (f : Field α) (aliases : List String) : Field α := ⟨f.name, aliases, f.decode, f.absent⟩

def answersTo (f : Field α) (name : String) : Bool := f.name == name || f.aliases.contains name

end Field

def Fields : List Type → Type
  | [] => Unit
  | α :: ts => Field α × Fields ts

def Values : List Type → Type
  | [] => Unit
  | α :: ts => α × Values ts

def Slots : List Type → Type
  | [] => Unit
  | α :: ts => Option α × Slots ts

def Slots.empty : (ts : List Type) → Slots ts
  | [] => ()
  | _ :: ts => (none, Slots.empty ts)

namespace Fields

def put : {ts : List Type} → Fields ts → String → Json → Slots ts → Except DecodeError (Slots ts)
  | [], _, _, _, _ => .ok ()
  | _ :: _, (f, fs), name, j, (slot, slots) =>
    if f.answersTo name then
      match slot with
      | some _ => .error (.duplicateField f.name)
      | none =>
        match f.decode j with
        | .error e => .error e
        | .ok a => .ok (some a, slots)
    else
      match put fs name j slots with
      | .error e => .error e
      | .ok slots => .ok (slot, slots)

def fill (fs : Fields ts) : List (String × Json) → Slots ts → Except DecodeError (Slots ts)
  | [], slots => .ok slots
  | (name, j) :: rest, slots =>
    match fs.put name j slots with
    | .error e => .error e
    | .ok slots => fill fs rest slots

def close : {ts : List Type} → Fields ts → Slots ts → Except DecodeError (Values ts)
  | [], _, _ => .ok ()
  | _ :: _, (f, fs), (slot, slots) =>
    match slot.or f.absent with
    | none => .error (.missingField f.name)
    | some a =>
      match close fs slots with
      | .error e => .error e
      | .ok as => .ok (a, as)

def size : {ts : List Type} → Fields ts → Nat
  | [], _ => 0
  | _ :: _, (_, fs) => size fs + 1

/-- Takes the items of a list as the fields in order; `taken` fields came before. -/
def ofItems (record : String) (total taken : Nat) :
    {ts : List Type} → Fields ts → List Json → Except DecodeError (Values ts)
  | [], _, [] => .ok ()
  | [], _, _ :: _ => .error .tooManyFields
  | _ :: _, (f, fs), [] =>
    match f.absent with
    | none => .error (.tooFewFields taken record total)
    | some a =>
      match ofItems record total (taken + 1) fs [] with
      | .error e => .error e
      | .ok as => .ok (a, as)
  | _ :: _, (f, fs), j :: rest =>
    match f.decode j with
    | .error e => .error e
    | .ok a =>
      match ofItems record total (taken + 1) fs rest with
      | .error e => .error e
      | .ok as => .ok (a, as)

def decode (fs : Fields ts) (record : String) : Decoder (Values ts)
  | .object members =>
    match fs.fill members (Slots.empty ts) with
    | .error e => .error e
    | .ok slots => fs.close slots
  | .array items => fs.ofItems record fs.size 0 items
  | j => .error (.wrongShape j (.record record))

end Fields

end PageAudit.Json
