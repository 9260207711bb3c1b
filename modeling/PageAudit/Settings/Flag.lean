import PageAudit.Text.Blank
import PageAudit.Text.Case

/-!
Switches as texts. Variables of the environment and arguments of the command line are read by two
rules: a variable may have blanks around it and may be empty, an argument may be abbreviated.
-/

namespace PageAudit.Flag

def onWords : List String := ["1", "true", "yes", "on"]

def offWords : List String := ["0", "false", "no", "off", ""]

def ofVariable? (s : String) : Option Bool :=
  let word := Text.lower (Text.trim s)
  if onWords.contains word then some true
  else if offWords.contains word then some false
  else none

def onArguments : List String := ["y", "yes", "t", "true", "on", "1"]

def offArguments : List String := ["n", "no", "f", "false", "off", "0"]

def ofArgument? (s : String) : Option Bool :=
  let word := Text.lower s
  if onArguments.contains word then some true
  else if offArguments.contains word then some false
  else none

end PageAudit.Flag
