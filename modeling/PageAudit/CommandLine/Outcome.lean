import PageAudit.Text.Quoted

/-!
How the program ends, and what it has printed by then.
-/

namespace PageAudit.CommandLine

inductive Ending where
  | done
  | refused (reason : String)
  | failed (reason : String)
  | misused
  /-- A number left its range. -/
  | crashed
  deriving DecidableEq

def Ending.status : Ending → Nat
  | done => 0
  | refused _ | failed _ => 1
  | misused => 2
  | crashed => 101

/-- The line that says why the program ends, unless all went well. -/
def Ending.complaint? : Ending → Option String
  | done => none
  | refused reason => some ("Error: " ++ Text.quoted reason)
  | failed reason => some ("Error: " ++ reason)
  | misused => some "error: wrong arguments; '--help' lists the commands"
  | crashed => some "error: a number left its range"

structure Outcome where
  output : String
  ending : Ending
  deriving DecidableEq

namespace Outcome

def silent (ending : Ending) : Outcome := ⟨"", ending⟩

def lines (ls : List String) (ending : Ending) : Outcome :=
  ⟨String.join (ls.map (· ++ "\n")), ending⟩

end Outcome

end PageAudit.CommandLine
