import PageAudit.Number.Shortest

/-!
Documents in JSON. Members of an object keep their order and may repeat a name, and a number keeps
its spelling.
-/

namespace PageAudit

inductive Json where
  | null
  | bool (b : Bool)
  | number (n : Numeral)
  | string (s : String)
  /-- A string that spells no text: it holds half of a surrogate pair, or bytes that are no
  characters. It can be skipped but not read. An object with such a name is no better. -/
  | garbled
  | array (items : List Json)
  | object (members : List (String × Json))
  deriving Inhabited

namespace Json

def ofNat (n : Nat) : Json := number (.ofNat n)

/-- A finite double; the other doubles have no numeral and become null. -/
def ofDouble (x : Double) : Json :=
  match x.numeral? with
  | some n => number n
  | none => null

def ofStrings (items : List String) : Json := array (items.map string)

def optional (name : String) (value : Option Json) : List (String × Json) :=
  match value with
  | some v => [(name, v)]
  | none => []

/-! ## Well-formedness -/

def depth : Json → Nat
  | array items => depthOfItems items + 1
  | object members => depthOfMembers members + 1
  | _ => 0
where
  depthOfItems : List Json → Nat
    | [] => 0
    | j :: rest => max j.depth (depthOfItems rest)
  depthOfMembers : List (String × Json) → Nat
    | [] => 0
    | (_, j) :: rest => max j.depth (depthOfMembers rest)

/-- Whether every string spells a text and every number is small enough for a double. -/
def legible : Json → Bool
  | number n => n.read.isSome
  | garbled => false
  | array items => legibleItems items
  | object members => legibleMembers members
  | _ => true
where
  legibleItems : List Json → Bool
    | [] => true
    | j :: rest => j.legible && legibleItems rest
  legibleMembers : List (String × Json) → Bool
    | [] => true
    | (_, j) :: rest => j.legible && legibleMembers rest

def deepest : Nat := 127

/-- Whether the document may be blamed for its content; otherwise it is refused as malformed. -/
def wellFormed (j : Json) : Bool := j.legible && j.depth ≤ deepest

end Json

end PageAudit
