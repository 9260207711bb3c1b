import PageAudit.CommandLine.Command
import PageAudit.Proofs.CommandLine.Variables
import PageAudit.Proofs.Settings.Flags

/-!
# Switches on the command line and in the settings

A switch that is not among the arguments is taken from its variable, by the rule for arguments; the
settings take it from the same variable by the rule for variables. So the command line and the settings
agree on a value exactly when it is neither abbreviated nor empty nor padded with blanks.
-/

namespace PageAudit.CommandLine

variable {env env' : Environment} {g g' : Given} {p : Parameter}

/-! ## Switches -/

inductive Toggle where
  | headless
  | skipServiceCheck
  | continueOnFailure
  deriving DecidableEq

namespace Toggle

def name : Toggle → String
  | headless => "headless"
  | skipServiceCheck => "skip-service-check"
  | continueOnFailure => "continue-on-failure"

/-- The variable that a switch is taken from. -/
def source : Toggle → String
  | headless => Variable.headless
  | skipServiceCheck => Variable.skipServiceCheck
  | continueOnFailure => Variable.continueOnFailure

def parameter (t : Toggle) : Parameter := switch t.name t.source

/-- The state of a switch in the settings. -/
def setting : Toggle → Settings → Bool
  | headless, s => s.headless
  | skipServiceCheck, s => s.skipServiceCheck
  | continueOnFailure, s => s.continueOnFailure

/-- The state of a switch on the command line. -/
def state : Toggle → RunArguments → Bool
  | headless, a => a.headless
  | skipServiceCheck, a => a.policy.skipServiceCheck
  | continueOnFailure, a => a.policy.continueOnFailure

/-- The arguments with a switch in another state. -/
def put (b : Bool) : Toggle → RunArguments → RunArguments
  | headless, a => { a with headless := b }
  | skipServiceCheck, a => { a with policy.skipServiceCheck := b }
  | continueOnFailure, a => { a with policy.continueOnFailure := b }

theorem state_put (t : Toggle) (b : Bool) (a : RunArguments) : t.state (t.put b a) = b := by
  cases t <;> rfl

theorem setting_ofEnvironment (t : Toggle) (value : String) (env : Environment) :
    t.setting (.ofEnvironment ((t.source, value) :: env)) =
      (Flag.ofVariable? value).getD (t.setting .default) := by
  cases t <;> simp [setting, source, Settings.ofEnvironment, Settings.flagOf, List.lookup_cons]

end Toggle

theorem nodup_runParameters : (runParameters.map (·.name)).Nodup := by decide

theorem accepts_parameter (t : Toggle) (value : String) :
    t.parameter.accepts value = (Flag.ofArgument? value).isSome := rfl

theorem parameter_mem (t : Toggle) : t.parameter ∈ runParameters := by
  cases t <;> simp [Toggle.parameter, Toggle.name, Toggle.source, runParameters]

/-- Every variable that is asked for a parameter is asked for no other one. -/
theorem source_ne (t : Toggle) (hp : p ∈ runParameters) (hname : p.name ≠ t.name) :
    p.source ≠ some t.source := by
  revert p
  cases t <;> decide

theorem read_run (env : Environment) (arguments : List String) :
    read env ("run" :: arguments) =
      (readArguments runParameters 0 env arguments).map fun g => .run (runArguments g) := rfl

/-- If nothing else is given differently, only the switch changes. -/
theorem runArguments_eq_put (t : Toggle) {b : Bool}
    (hothers : ∀ name, name ≠ t.name → g'.about name = g.about name)
    (hflag : g'.flag t.name (t.setting .default) = b) :
    runArguments g' = t.put b (runArguments g) := by
  have hvalue : ∀ name, name ≠ t.name → g'.value? name = g.value? name := by
    intro name hname
    rw [Given.value?_eq, Given.value?_eq, hothers name hname]
  have hhas : ∀ name, name ≠ t.name → g'.has name = g.has name := by
    intro name hname
    rw [Given.has_eq, Given.has_eq, hothers name hname]
  have hall : ∀ name, name ≠ t.name → g'.all name = g.all name := by
    intro name hname
    rw [Given.all_eq, Given.all_eq, hothers name hname]
  subst hflag
  cases t <;> simp only [Toggle.name] at hvalue hhas hall ⊢ <;>
    simp [runArguments, Toggle.put, Toggle.setting, Given.get, Given.flag, hvalue, hhas, hall]

/-! ## Values of the variable -/

theorem read_run_ok_iff {arguments : List String} {a : RunArguments} :
    read env ("run" :: arguments) = .ok (.run a) ↔
      ∃ g, takeAll runParameters 0 .empty none arguments = .ok g ∧
        (∀ p ∈ runParameters, ∀ value, said? env g p = some value → p.accepts value = true) ∧
          a = runArguments (completed env g runParameters) := by
  rw [read_run, readArguments]
  cases htaken : takeAll runParameters 0 .empty none arguments with
  | error e => simp [Except.map]
  | ok g =>
      dsimp only
      cases hvariables : takeVariables env g runParameters with
      | error e =>
          have hnone : ¬∀ p ∈ runParameters, ∀ value, said? env g p = some value →
              p.accepts value = true := by
            intro haccepted
            rw [(takeVariables_ok_iff nodup_runParameters).mpr ⟨haccepted, rfl⟩] at hvariables
            cases hvariables
          simp [Except.map, hnone]
      | ok g' =>
          obtain ⟨haccepted, rfl⟩ := (takeVariables_ok_iff nodup_runParameters).mp hvariables
          simp only [Except.map, Except.ok.injEq, Command.run.injEq, exists_eq_left']
          exact ⟨fun h => ⟨haccepted, h.symm⟩, fun h => h.2.symm⟩

theorem read_run_misuse {arguments : List String} {value : String}
    (htaken : takeAll runParameters 0 .empty none arguments = .ok g) (hp : p ∈ runParameters)
    (hsaid : said? env g p = some value) (hrefused : p.accepts value = false) :
    read env ("run" :: arguments) = .error .misuse := by
  rw [read_run, readArguments, htaken]
  dsimp only
  cases hvariables : takeVariables env g runParameters with
  | error e =>
      rw [takeVariables_error hvariables]
      rfl
  | ok g' =>
      have haccepted := ((takeVariables_ok_iff nodup_runParameters).mp hvariables).1 p hp value hsaid
      rw [hrefused] at haccepted
      cases haccepted

/-- The environment with a value for a switch. -/
def Toggle.assign (t : Toggle) (value : String) (env : Environment) : Environment :=
  (t.source, value) :: env

theorem said?_assign (t : Toggle) (value : String) (hfree : g.has t.name = false) :
    said? (t.assign value env) g t.parameter = some value := by
  rw [said?, Toggle.parameter, switch, hfree, Toggle.assign]
  simp

theorem said?_assign_of_ne (t : Toggle) (value : String) (hp : p ∈ runParameters)
    (hname : p.name ≠ t.name) : said? (t.assign value env) g p = said? env g p := by
  rw [said?, said?]
  cases hsource : p.source with
  | none => rfl
  | some source =>
      have hother : source ≠ t.source := fun hsame => source_ne t hp hname (hsame ▸ hsource)
      simp [Toggle.assign, List.lookup_cons, beq_false_of_ne hother]

/-- The parameter of a switch is the only one of its name. -/
theorem eq_parameter (t : Toggle) (hp : p ∈ runParameters) (hname : p.name = t.name) :
    p = t.parameter :=
  List.inj_on_of_nodup_map nodup_runParameters hp (parameter_mem t) hname

theorem flag_assign (t : Toggle) {value : String} {b : Bool} (hfree : g.has t.name = false)
    (hvalue : Flag.ofArgument? value = some b) (fallback : Bool) :
    (completed (t.assign value env) g runParameters).flag t.name fallback = b := by
  have hnone : g.about t.name = [] := by
    rw [Given.has_eq, Bool.not_eq_false'] at hfree
    exact List.isEmpty_iff.mp hfree
  have habout : (completed (t.assign value env) g runParameters).about t.name = [some value] := by
    have hcompleted :=
      about_completed (t.assign value env) g nodup_runParameters (parameter_mem t)
    rw [said?_assign t value hfree] at hcompleted
    rw [Toggle.parameter, switch, hnone] at hcompleted
    exact hcompleted
  rw [Given.flag, Given.get, Given.has_eq, Given.value?_eq, habout]
  simp [hvalue]

/-- The switch is not among the arguments. -/
def Unnamed (t : Toggle) (arguments : List String) : Prop :=
  ∀ g, takeAll runParameters 0 .empty none arguments = .ok g → g.has t.name = false

variable {arguments : List String} {a : RunArguments}

/-- On a command line that is right otherwise, the rule for arguments decides on the value. -/
theorem read_assign (t : Toggle) (hrest : read env ("run" :: arguments) = .ok (.run a))
    (hunnamed : Unnamed t arguments) (value : String) :
    read (t.assign value env) ("run" :: arguments) =
      match Flag.ofArgument? value with
      | some b => .ok (.run (t.put b a))
      | none => .error .misuse := by
  obtain ⟨g, htaken, haccepted, rfl⟩ := read_run_ok_iff.mp hrest
  have hfree := hunnamed g htaken
  cases hvalue : Flag.ofArgument? value with
  | none =>
      refine read_run_misuse htaken (parameter_mem t) (said?_assign t value hfree) ?_
      rw [accepts_parameter, hvalue]
      rfl
  | some b =>
      refine read_run_ok_iff.mpr ⟨g, htaken, fun p hp other hsaid => ?_, ?_⟩
      · by_cases hname : p.name = t.name
        · obtain rfl := eq_parameter t hp hname
          rw [said?_assign t value hfree, Option.some.injEq] at hsaid
          rw [← hsaid, accepts_parameter, hvalue]
          rfl
        · exact haccepted p hp other ((said?_assign_of_ne t value hp hname).symm.trans hsaid)
      · refine (runArguments_eq_put t (fun name hname => ?_) (flag_assign t hfree hvalue _)).symm
        exact about_completed_congr fun p hp hp' =>
          said?_assign_of_ne t value hp (fun hsame => hname (hp'.symm.trans hsame))

/-- The command line accepts a value exactly when the settings do, and then both have it switched
alike. -/
def Agree (t : Toggle) (env : Environment) (arguments : List String) (value : String) : Prop :=
  ((∃ a, read (t.assign value env) ("run" :: arguments) = .ok (.run a)) ↔
      ∃ b, Flag.ofVariable? value = some b) ∧
    ∀ a, read (t.assign value env) ("run" :: arguments) = .ok (.run a) →
      t.setting (.ofEnvironment (t.assign value env)) = t.state a

theorem agree_iff (t : Toggle) (hrest : read env ("run" :: arguments) = .ok (.run a))
    (hunnamed : Unnamed t arguments) (value : String) :
    Agree t env arguments value ↔ Flag.ofVariable? value = Flag.ofArgument? value := by
  rw [Agree, read_assign t hrest hunnamed value, Toggle.assign, t.setting_ofEnvironment]
  cases hargument : Flag.ofArgument? value with
  | none => cases hvariable : Flag.ofVariable? value <;> simp
  | some b =>
      cases hvariable : Flag.ofVariable? value with
      | none => simp
      | some b' => simp [Toggle.state_put]

/-- The command line takes a switch from its variable by the rule for arguments, and the settings by
the rule for variables. What both accept they take for the same, and they agree on all values but
those that are abbreviated, empty or padded with blanks. -/
theorem switch_readers_agree_iff (t : Toggle) (env : Environment) (arguments : List String)
    (value : String) (hrest : read env ("run" :: arguments) = .ok (.run a))
    (hunnamed : Unnamed t arguments) :
    (read (t.assign value env) ("run" :: arguments) =
      match Flag.ofArgument? value with
      | some b => .ok (.run (t.put b a))
      | none => .error .misuse) ∧
    t.setting (.ofEnvironment (t.assign value env)) =
      (Flag.ofVariable? value).getD (t.setting .default) ∧
    (∀ b b', Flag.ofVariable? value = some b → Flag.ofArgument? value = some b' → b = b') ∧
    (Agree t env arguments value ↔ ¬Flag.Abbreviated value ∧ ¬Flag.Padded value) := by
  refine ⟨read_assign t hrest hunnamed value, t.setting_ofEnvironment value env,
    fun b b' hvariable hargument => Flag.eq_of_readings hvariable hargument, ?_⟩
  rw [agree_iff t hrest hunnamed value, Flag.ofVariable?_eq_ofArgument?_iff]

/-- A run without a browser and with nothing else said. -/
def mockRun : RunArguments := runArguments ⟨[("target", some "mock")], []⟩

theorem takeAll_mock : takeAll runParameters 0 .empty none ["--target", "mock"] =
    .ok ⟨[("target", some "mock")], []⟩ := by
  rfl

theorem yes_is_agreed_on : read [] ["run", "--target", "mock"] = .ok (.run mockRun) ∧
    Unnamed .headless ["--target", "mock"] ∧
      Agree .headless [] ["--target", "mock"] "YES" := by
  have hrest : read [] ["run", "--target", "mock"] = .ok (.run mockRun) := by rfl
  have hunnamed : Unnamed .headless ["--target", "mock"] := by
    intro g hg
    rw [takeAll_mock] at hg
    cases hg
    rfl
  obtain ⟨-, -, -, hagree⟩ :=
    switch_readers_agree_iff .headless [] ["--target", "mock"] "YES" hrest hunnamed
  exact ⟨hrest, hunnamed, hagree.mpr ⟨by decide, by decide⟩⟩

/-- The command line skips the recognition on `t`, and the settings do not. -/
theorem abbreviation_read_by_one :
    (∃ a, read [(Variable.skipServiceCheck, "t")] ["run"] = .ok (.run a) ∧
      a.policy.skipServiceCheck = true) ∧ Flag.ofVariable? "t" = none ∧
        (Settings.ofEnvironment [(Variable.skipServiceCheck, "t")]).skipServiceCheck = false := by
  exact ⟨⟨_, rfl, by decide⟩, by decide, by decide⟩

end PageAudit.CommandLine
