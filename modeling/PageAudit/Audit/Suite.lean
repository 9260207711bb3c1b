import PageAudit.Audit.Page
import PageAudit.Registry.Catalogue
import PageAudit.Report.Summary

/-!
Suites: the pages of a registry are validated one after another on one target, each with evidence of
its own. A page that cannot be validated either stops the suite or is recorded like the others.
-/

namespace PageAudit.Audit

/-- What a suite does with pages that cannot be validated, and whether pages are checked at all. -/
structure Policy where
  continueOnFailure : Bool
  skipServiceCheck : Bool
  deriving DecidableEq

namespace Policy

def ofSettings (s : Settings) : Policy := ⟨s.continueOnFailure, s.skipServiceCheck⟩

def apply (policy : Policy) (o : Options) : Options :=
  { o with skipServiceCheck := policy.skipServiceCheck }

def environment (policy : Policy) (host target : String) (headless : Bool) : Report.Environment where
  host := host
  version := version
  target := target
  headless := headless
  skipServiceCheck := policy.skipServiceCheck
  continueOnFailure := policy.continueOnFailure

end Policy

structure Run where
  start : Moment
  stop : Moment
  results : List PageResult
  deriving DecidableEq

/-- A suite that was stopped: the results up to the page that stopped it, that page, and why. -/
structure Aborted where
  run : Run
  page : String
  error : Error

def Aborted.message (a : Aborted) : String :=
  "suite aborted at page '" ++ a.page ++ "': " ++ a.error.message

def Run.report (run : Run) (environment : Report.Environment) : Report :=
  .build run.results run.start run.stop environment

variable {W : Type}

/-- The results of validating pages in turn, and the name of the page that stopped the suite with the
reason, if one did. -/
def visit (eq : Equipment W) (o : Options) (goOn : Bool) :
    List Page → State W → List PageResult × Option (String × Error) × State W
  | [], s => ([], none, s)
  | page :: rest, s =>
    match validate eq o page s.forget with
    | (.ok result, s) =>
      let (results, stopped, s) := visit eq o goOn rest s
      (result :: results, stopped, s)
    | (.error failure, s) =>
      if goOn then
        let (results, stopped, s) := visit eq o goOn rest s
        (failure.result :: results, stopped, s)
      else ([failure.result], some (page.name, failure.error), s)

def runPages (eq : Equipment W) (policy : Policy) (o : Options) (pages : List Page)
    (s : State W) : Except Aborted Run × State W :=
  let start := Moment.ofNanos (eq.now s)
  let (results, stopped, s) := visit eq (policy.apply o) policy.continueOnFailure pages s
  let run : Run := ⟨start, .ofNanos (eq.now s), results⟩
  match stopped with
  | none => (.ok run, s)
  | some (page, error) => (.error ⟨run, page, error⟩, s)

def runSuite (eq : Equipment W) (policy : Policy) (o : Options) (registry : Registry)
    (s : State W) : Except Aborted Run × State W :=
  runPages eq policy o (registry.pages.map Prod.snd) s

/-! ## Crashes -/

/-- The state in which the program crashes on one of the pages that it comes to, if it does. -/
def crashAmong? (eq : Equipment W) (o : Options) (goOn : Bool) :
    List Page → State W → Option (State W)
  | [], _ => none
  | page :: rest, s =>
    match validate? eq o page s.forget with
    | (none, s) => some s
    | (some (.ok _), s) => crashAmong? eq o goOn rest s
    | (some (.error _), s) => if goOn then crashAmong? eq o goOn rest s else none

/-- What comes of pages; there is no outcome if the program crashes on one of them. -/
def runPages? (eq : Equipment W) (policy : Policy) (o : Options) (pages : List Page)
    (s : State W) : Option (Except Aborted Run) × State W :=
  match crashAmong? eq (policy.apply o) policy.continueOnFailure pages s with
  | some s => (none, s)
  | none =>
    let (outcome, s) := runPages eq policy o pages s
    (some outcome, s)

def runSuite? (eq : Equipment W) (policy : Policy) (o : Options) (registry : Registry)
    (s : State W) : Option (Except Aborted Run) × State W :=
  runPages? eq policy o (registry.pages.map Prod.snd) s

end PageAudit.Audit
