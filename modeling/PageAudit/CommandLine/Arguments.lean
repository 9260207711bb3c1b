import PageAudit.Settings.Environment
import PageAudit.Text.Search

/-!
Arguments of commands. A parameter is given by its long name or its letter, with its value behind an
equals sign or as the next argument; arguments that belong to no parameter are operands. Arguments are
read from left to right, and the first that is wrong ends the reading.
-/

namespace PageAudit.CommandLine

inductive Arity where
  | none
  | atMostOne
  | one
  /-- A value that may look like a parameter; the parameter may be repeated. -/
  | anyOne
  deriving DecidableEq

structure Parameter where
  name : String
  letter : Option Char
  arity : Arity
  accepts : String → Bool
  source : Option String

inductive Halt where
  | help
  | misuse
  deriving DecidableEq

structure Given where
  values : List (String × Option String)
  operands : List String
  deriving DecidableEq

namespace Given

def empty : Given := ⟨[], []⟩

def has (g : Given) (name : String) : Bool := g.values.any fun v => v.1 == name

def value? (g : Given) (name : String) : Option String := (g.values.lookup name).join

def all (g : Given) (name : String) : List String :=
  g.values.filterMap fun v => if v.1 = name then v.2 else none

def add (g : Given) (p : Parameter) (value : Option String) : Except Halt Given :=
  if p.arity ≠ .anyOne && g.has p.name then .error .misuse
  else if (value.map p.accepts).getD true then
    .ok ⟨g.values ++ [(p.name, value)], g.operands⟩
  else .error .misuse

def addBare (g : Given) (p : Parameter) : Except Halt Given :=
  match p.arity with
  | .none | .atMostOne => g.add p none
  | .one | .anyOne => .error .misuse

end Given

/-! ## Reading -/

def helpName : String := "help"

def helpLetter : Char := 'h'

inductive Shape where
  | divider
  | long (name : String) (value : Option String)
  | short (letter : Char) (rest : List Char)
  | plain
  deriving DecidableEq

/-- What an argument is by its looks. A single hyphen is plain. -/
def shapeOf (argument : String) : Shape :=
  match argument.toList with
  | ['-', '-'] => .divider
  | '-' :: '-' :: cs =>
    match Text.splitOnce ['='] cs with
    | some (name, value) => .long (String.ofList name) (some (String.ofList value))
    | none => .long (String.ofList cs) none
  | '-' :: c :: cs => .short c cs
  | _ => .plain

def attached : List Char → Option String
  | [] => none
  | '=' :: cs => some (String.ofList cs)
  | cs => some (String.ofList cs)

/-- Takes a parameter with the value attached to it, if one is. A parameter that still wants a value
is returned as well. -/
def takeParameter (g : Given) (p : Parameter) (value : Option String) :
    Except Halt (Given × Option Parameter) :=
  match p.arity, value with
  | .none, some _ => .error .misuse
  | .none, none => (g.add p none).map fun g => (g, none)
  | _, some v => (g.add p (some v)).map fun g => (g, none)
  | _, none => .ok (g, some p)

def takeNamed (ps : List Parameter) (g : Given) (shape : Shape) :
    Except Halt (Given × Option Parameter) :=
  match shape with
  | .long name value =>
    if name = helpName then .error (if value.isSome then .misuse else .help)
    else match ps.find? (·.name == name) with
    | some p => takeParameter g p value
    | none => .error .misuse
  | .short letter rest =>
    if letter = helpLetter then .error .help
    else match ps.find? (·.letter == some letter) with
    | some p => takeParameter g p (attached rest)
    | none => .error .misuse
  | .divider | .plain => .error .misuse

/-- Takes an operand; there may be no more than `limit`, and none may be empty. -/
def takeOperand (limit : Nat) (g : Given) (argument : String) : Except Halt Given :=
  if g.operands.length < limit && !argument.isEmpty then
    .ok ⟨g.values, g.operands ++ [argument]⟩
  else .error .misuse

def takeOperands (limit : Nat) (g : Given) : List String → Except Halt Given
  | [] => .ok g
  | argument :: rest =>
    match takeOperand limit g argument with
    | .error e => .error e
    | .ok g => takeOperands limit g rest

def settle (g : Given) : Option Parameter → Except Halt Given
  | none => .ok g
  | some p => g.addBare p

/-- Whether the next argument is the value of the waiting parameter, whatever it looks like. -/
def takesAnything : Option Parameter → Bool
  | none => false
  | some p => p.arity == .anyOne

/-- Takes arguments from left to right; `waiting` is a parameter that wants a value. -/
def takeAll (ps : List Parameter) (limit : Nat) (g : Given) (waiting : Option Parameter) :
    List String → Except Halt Given
  | [] => settle g waiting
  | argument :: rest =>
    match waiting, (if takesAnything waiting then Shape.plain else shapeOf argument) with
    | some p, .plain =>
      match g.add p (some argument) with
      | .error e => .error e
      | .ok g => takeAll ps limit g none rest
    | none, .plain =>
      match takeOperand limit g argument with
      | .error e => .error e
      | .ok g => takeAll ps limit g none rest
    | waiting, shape =>
      match settle g waiting with
      | .error e => .error e
      | .ok g =>
        if shape = Shape.divider then takeOperands limit g rest
        else match takeNamed ps g shape with
        | .error e => .error e
        | .ok (g, waiting) => takeAll ps limit g waiting rest

/-- Adds the values that the environment gives to parameters without arguments. -/
def takeVariables (env : Environment) (g : Given) : List Parameter → Except Halt Given
  | [] => .ok g
  | p :: rest =>
    match (if g.has p.name then none else p.source.bind fun name => env.lookup name) with
    | none => takeVariables env g rest
    | some value =>
      match g.add p (some value) with
      | .error e => .error e
      | .ok g => takeVariables env g rest

def readArguments (ps : List Parameter) (limit : Nat) (env : Environment)
    (arguments : List String) : Except Halt Given :=
  match takeAll ps limit .empty none arguments with
  | .error e => .error e
  | .ok g => takeVariables env g ps

end PageAudit.CommandLine
