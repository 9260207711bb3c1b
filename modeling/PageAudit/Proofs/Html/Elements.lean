import Mathlib.Data.List.TakeWhile
import PageAudit.Proofs.Html.Tokens

/-!
# The elements of a document

A document is read into a tree by its tags: an opening tag begins an element, text and elements go
into the element that was opened last, and the closing tag ends it. The pieces of an element, read
wherever an element is open, add one child to it and change nothing else; so the tree of a rendered
report is put together from the trees of its parts.
-/

namespace PageAudit.Report.Html

/-- An element: its tag with all attributes, the text in it that is not in one of its children, and
its children. -/
structure Element where
  tag : String
  text : List Char
  children : List Element

/-! ## Reading -/

/-- The name of a tag: what stands before its attributes. -/
def nameOf (tag : String) : String := String.ofList (tag.toList.takeWhile (· ≠ ' '))

/-- The elements that have no content and no closing tag. -/
def voidNames : List String :=
  ["area", "base", "br", "col", "embed", "hr", "img", "input", "link", "meta", "source", "track", "wbr"]

inductive TagKind where
  | opening
  | closing (name : String)
  /-- A declaration, or a tag of an element without content. -/
  | alone
  deriving DecidableEq

def TagKind.of (inside : String) : TagKind :=
  match inside.toList with
  | '/' :: name => .closing (String.ofList name)
  | '!' :: _ => .alone
  | _ => if nameOf inside ∈ voidNames then .alone else .opening

namespace Element

def name (e : Element) : String := nameOf e.tag

def empty (tag : String) : Element := ⟨tag, [], []⟩

def add (e : Element) (text : List Char) (children : List Element) : Element :=
  ⟨e.tag, e.text ++ text, e.children ++ children⟩

@[simp] theorem add_nil (e : Element) : e.add [] [] = e := by
  cases e with
  | mk tag text children => simp [add]

@[simp] theorem add_add (e : Element) (text text' : List Char) (children children' : List Element) :
    (e.add text children).add text' children' = e.add (text ++ text') (children ++ children') := by
  simp [add]

end Element

/-- Adds to the element that was opened last, which is the first of the open ones. -/
def addToFirst (text : List Char) (children : List Element) : List Element → List Element
  | [] => []
  | e :: rest => e.add text children :: rest

/-- Ends the element that was opened last, if it has the name, and adds it to the one around it. -/
def close (name : String) : List Element → List Element
  | e :: parent :: rest =>
    if e.name = name then parent.add [] [e] :: rest else e :: parent :: rest
  | es => es

def step (es : List Element) : Token → List Element
  | .char c => addToFirst [c] [] es
  | .tag inside =>
    match TagKind.of inside with
    | .opening => .empty inside :: es
    | .closing name => close name es
    | .alone => addToFirst [] [.empty inside] es

/-- The document as the content of an element around it; none if an element is left open. -/
def Element.ofText? (s : String) : Option Element :=
  match (tokens s).foldl step [.empty ""] with
  | [root] => some root
  | _ => none

/-! ## Names -/

theorem ne_blank {cs : List Char} (h : ' ' ∉ cs) : ∀ c ∈ cs, decide (c ≠ ' ') = true := by
  intro c hc
  rw [decide_eq_true_iff]
  rintro rfl
  exact h hc

theorem nameOf_of_notMem {name : String} (h : ' ' ∉ name.toList) : nameOf name = name := by
  rw [nameOf, List.takeWhile_eq_self_iff.mpr (ne_blank h), String.ofList_toList]

theorem toList_withClass (name cls : String) :
    (withClass name cls).toList = name.toList ++ ' ' :: ("class=\"" ++ cls ++ "\"").toList := by
  simp [withClass]

theorem nameOf_withClass {name : String} (h : ' ' ∉ name.toList) (cls : String) :
    nameOf (withClass name cls) = name := by
  rw [nameOf, toList_withClass, List.takeWhile_append_of_pos (ne_blank h),
    List.takeWhile_cons_of_neg (by decide), List.append_nil, String.ofList_toList]

/-- Whether a tag of this name, with attributes or without, begins an element that has content. -/
def Ordinary (name : String) : Prop := TagKind.of name = .opening ∧ ' ' ∉ name.toList

instance (name : String) : Decidable (Ordinary name) := inferInstanceAs (Decidable (_ ∧ _))

theorem Ordinary.of_withClass {name : String} (h : Ordinary name) (cls : String) :
    TagKind.of (withClass name cls) = .opening := by
  have hopen := h.1
  rw [TagKind.of, nameOf_of_notMem h.2] at hopen
  rw [TagKind.of, nameOf_withClass h.2, toList_withClass]
  cases hchars : name.toList with
  | nil => simpa [hchars] using hopen
  | cons c cs =>
      rw [hchars] at hopen
      by_cases hclosing : c = '/'
      · simp [hclosing] at hopen
      by_cases hdeclaration : c = '!'
      · simp [hdeclaration] at hopen
      simpa [hclosing, hdeclaration] using hopen

theorem Ordinary.name_eq {name : String} (h : Ordinary name) (text : List Char)
    (children : List Element) : (⟨name, text, children⟩ : Element).name = name :=
  nameOf_of_notMem h.2

theorem Ordinary.name_withClass {name : String} (h : Ordinary name) (cls : String)
    (text : List Char) (children : List Element) :
    (⟨withClass name cls, text, children⟩ : Element).name = name :=
  nameOf_withClass h.2 cls

theorem TagKind.of_closing (name : String) : TagKind.of ("/" ++ name) = .closing name := by
  have hchars : ("/" ++ name).toList = '/' :: name.toList := by simp
  rw [TagKind.of, hchars]
  simp

/-! ## What pieces add -/

/-- Whether the pieces, read while an element is open, add the text and the children to it. -/
def Adds (ps : List Piece) (text : List Char) (children : List Element) : Prop :=
  ∀ e rest, (ps.flatMap Piece.tokens).foldl step (e :: rest) = e.add text children :: rest

theorem adds_nil : Adds [] [] [] := by
  intro e rest
  simp

theorem Adds.append {ps qs : List Piece} {text text' : List Char} {children children' : List Element}
    (h : Adds ps text children) (h' : Adds qs text' children') :
    Adds (ps ++ qs) (text ++ text') (children ++ children') := by
  intro e rest
  rw [List.flatMap_append, List.foldl_append, h, h', Element.add_add]

theorem adds_chars {p : Piece} {cs : List Char} (h : p.tokens = cs.map .char) : Adds [p] cs [] := by
  intro e rest
  rw [List.flatMap_singleton, h]
  clear h
  induction cs generalizing e with
  | nil => simp
  | cons c cs ih => simp [step, addToFirst, ih]

theorem adds_plain (s : String) : Adds [.plain s] s.toList [] := adds_chars rfl

theorem adds_text (s : String) : Adds [.text s] (escape s).toList [] := adds_chars rfl

theorem adds_newLine : Adds [newLine] ['\n'] [] := adds_plain "\n"

theorem Adds.line {ps : List Piece} {text : List Char} {children : List Element}
    (h : Adds ps text children) : Adds (ps ++ [newLine]) (text ++ ['\n']) children := by
  simpa using h.append adds_newLine

theorem adds_alone (tag : String) (h : TagKind.of tag = .alone) :
    Adds [.tag tag] [] [.empty tag] := by
  intro e rest
  simp [Piece.tokens, step, h, addToFirst]

/-- Pieces between an opening tag and its closing tag add an element that holds what they add. -/
theorem Adds.enclose {ps : List Piece} {text : List Char} {children : List Element} {tag name : String}
    (h : Adds ps text children) (hopen : TagKind.of tag = .opening) (hname : nameOf tag = name) :
    Adds (.tag tag :: ps ++ [.tag ("/" ++ name)]) [] [⟨tag, text, children⟩] := by
  intro e rest
  have hclose (inner : Element) (hinner : inner.tag = tag) :
      step (inner :: e :: rest) (.tag ("/" ++ name)) = e.add [] [inner] :: rest := by
    rw [step, TagKind.of_closing]
    exact if_pos (by rw [Element.name, hinner, hname])
  have hopened : step (e :: rest) (.tag tag) = .empty tag :: e :: rest := by
    rw [step, hopen]
  rw [List.cons_append, List.flatMap_cons, Piece.tokens, List.singleton_append, List.foldl_cons,
    hopened, List.flatMap_append, List.foldl_append, h, List.flatMap_singleton, Piece.tokens,
    List.foldl_cons, hclose _ rfl, List.foldl_nil]
  rfl

theorem Adds.element {ps : List Piece} {text : List Char} {children : List Element}
    (h : Adds ps text children) (name : String) (hname : Ordinary name) :
    Adds (Html.element name ps) [] [⟨name, text, children⟩] :=
  h.enclose hname.1 (nameOf_of_notMem hname.2)

theorem Adds.classed {ps : List Piece} {text : List Char} {children : List Element}
    {name : String} (h : Adds ps text children) (hname : Ordinary name) (cls : String) :
    Adds (Html.classed name cls ps) [] [⟨withClass name cls, text, children⟩] :=
  h.enclose (hname.of_withClass cls) (nameOf_withClass hname.2 cls)

theorem Adds.map {α : Type} {f : α → List Piece} {g : α → Element} (h : ∀ a, Adds (f a) [] [g a])
    (as : List α) : Adds (as.flatMap f) [] (as.map g) := by
  induction as with
  | nil => exact adds_nil
  | cons a as ih => exact (h a).append ih

/-- Elements with a line break after each. -/
theorem Adds.lines {α : Type} {f : α → List Piece} {g : α → Element} (h : ∀ a, Adds (f a) [] [g a])
    (as : List α) :
    Adds ((as.map f).flatMap (· ++ [newLine])) (as.map fun _ => '\n') (as.map g) := by
  induction as with
  | nil => exact adds_nil
  | cons a as ih => exact (h a).line.append ih

end PageAudit.Report.Html
