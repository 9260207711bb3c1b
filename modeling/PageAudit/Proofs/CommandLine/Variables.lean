import Mathlib.Data.List.Nodup
import PageAudit.CommandLine.Arguments

/-!
# Variables in the place of arguments

Parameters that are not among the arguments are taken from the environment, each on its own: all of
them have to be accepted, and what is taken for one makes no difference to the others.
-/

namespace PageAudit.CommandLine

variable {env env' : Environment} {g g' : Given} {ps : List Parameter} {p : Parameter}
  {name : String}

/-! ## What is given for a parameter -/

namespace Given

/-- The values of one parameter. -/
def about (g : Given) (name : String) : List (Option String) :=
  g.values.filterMap fun v => if v.1 = name then some v.2 else none

theorem has_eq (g : Given) (name : String) : g.has name = !(g.about name).isEmpty := by
  rw [has, about, Bool.eq_iff_iff]
  simp [List.filterMap_eq_nil_iff]

theorem value?_eq (g : Given) (name : String) : g.value? name = (g.about name).head?.join := by
  rw [value?, about]
  induction g.values with
  | nil => rfl
  | cons v rest ih =>
      obtain ⟨key, value⟩ := v
      rw [List.lookup_cons, List.filterMap_cons]
      by_cases hkey : key = name
      · simp [hkey]
      · rw [beq_false_of_ne (Ne.symm hkey), if_neg hkey]
        exact ih

theorem all_eq (g : Given) (name : String) : g.all name = (g.about name).filterMap id := by
  rw [all, about, List.filterMap_filterMap]
  congr 1
  funext v
  split <;> simp

end Given

/-! ## What the environment adds -/

/-- What the environment says for a parameter that is not given among the arguments. -/
def said? (env : Environment) (g : Given) (p : Parameter) : Option String :=
  if g.has p.name then none else p.source.bind fun source => env.lookup source

/-- What is given once the environment has been asked for all parameters. -/
def completed (env : Environment) (g : Given) (ps : List Parameter) : Given :=
  ⟨g.values ++ ps.filterMap fun p => (said? env g p).map fun value => (p.name, some value),
    g.operands⟩

theorem has_of_said? {value : String} (h : said? env g p = some value) : g.has p.name = false := by
  unfold said? at h
  split at h
  · cases h
  · next hfree => exact Bool.eq_false_iff.mpr hfree

theorem takeVariables_of_none {rest : List Parameter} (hsaid : said? env g p = none) :
    takeVariables env g (p :: rest) = takeVariables env g rest := by
  unfold said? at hsaid
  rw [takeVariables, hsaid]

theorem takeVariables_of_some {rest : List Parameter} {value : String}
    (hsaid : said? env g p = some value) :
    takeVariables env g (p :: rest) =
      if p.accepts value then takeVariables env ⟨g.values ++ [(p.name, some value)], g.operands⟩ rest
      else .error .misuse := by
  have hfree := has_of_said? hsaid
  unfold said? at hsaid
  rw [takeVariables, hsaid]
  dsimp only
  rw [Given.add, hfree, Bool.and_false, if_neg Bool.false_ne_true]
  by_cases haccepts : p.accepts value = true
  · rw [if_pos haccepts, if_pos (by simpa using haccepts)]
  · rw [if_neg haccepts, if_neg (by simpa using haccepts)]

/-- Taking variables fails only by misuse. -/
theorem takeVariables_error {e : Halt} (h : takeVariables env g ps = .error e) : e = .misuse := by
  induction ps generalizing g with
  | nil => cases h
  | cons p rest ih =>
      cases hsaid : said? env g p with
      | none =>
          rw [takeVariables_of_none hsaid] at h
          exact ih h
      | some value =>
          rw [takeVariables_of_some hsaid] at h
          split at h
          · exact ih h
          · cases h
            rfl

theorem said?_of_other {value : String} (hother : p.name ≠ name) :
    said? env ⟨g.values ++ [(name, some value)], g.operands⟩ p = said? env g p := by
  have hhas : Given.has ⟨g.values ++ [(name, some value)], g.operands⟩ p.name = g.has p.name := by
    simp [Given.has, Ne.symm hother]
  rw [said?, said?, hhas]

/-- The value of the first parameter can be taken before those of the others. -/
theorem completed_of_some {rest : List Parameter} {value : String}
    (hsaid : said? env g p = some value)
    (hothers : ∀ q ∈ rest,
      said? env ⟨g.values ++ [(p.name, some value)], g.operands⟩ q = said? env g q) :
    completed env ⟨g.values ++ [(p.name, some value)], g.operands⟩ rest =
      completed env g (p :: rest) := by
  rw [completed, completed, List.filterMap_cons, hsaid, Given.mk.injEq]
  refine ⟨?_, rfl⟩
  rw [List.append_assoc]
  exact congrArg (fun more => g.values ++ (p.name, some value) :: more)
    (List.filterMap_congr fun q hq => by rw [hothers q hq])

/-- The values of the environment are taken if all of them are accepted. -/
theorem takeVariables_ok_iff (hnames : (ps.map (·.name)).Nodup) :
    takeVariables env g ps = .ok g' ↔
      (∀ p ∈ ps, ∀ value, said? env g p = some value → p.accepts value = true) ∧
        g' = completed env g ps := by
  induction ps generalizing g with
  | nil =>
      rw [takeVariables, completed, List.filterMap_nil, List.append_nil, Except.ok.injEq, eq_comm]
      simp
  | cons p rest ih =>
      rw [List.map_cons, List.nodup_cons] at hnames
      rw [List.forall_mem_cons]
      cases hsaid : said? env g p with
      | none =>
          rw [takeVariables_of_none hsaid, ih hnames.2]
          simp [completed, hsaid]
      | some value =>
          have hothers : ∀ q ∈ rest,
              said? env ⟨g.values ++ [(p.name, some value)], g.operands⟩ q = said? env g q := by
            intro q hq
            exact said?_of_other fun hsame => hnames.1 (List.mem_map.mpr ⟨q, hq, hsame⟩)
          rw [takeVariables_of_some hsaid]
          by_cases haccepts : p.accepts value = true
          · rw [if_pos haccepts, ih hnames.2, completed_of_some hsaid hothers]
            refine and_congr_left fun _ => ?_
            constructor
            · intro hrest
              exact ⟨fun _ hvalue => Option.some.inj hvalue ▸ haccepts,
                fun q hq other hother => hrest q hq other ((hothers q hq).trans hother)⟩
            · rintro ⟨-, hrest⟩ q hq other hother
              exact hrest q hq other ((hothers q hq).symm.trans hother)
          · rw [if_neg haccepts]
            simp [haccepts]

/-- Parameters of other names add nothing. -/
theorem about_completed (env : Environment) (g : Given) (hnames : (ps.map (·.name)).Nodup)
    (hp : p ∈ ps) :
    (completed env g ps).about p.name = g.about p.name ++ (said? env g p).toList.map some := by
  rw [Given.about, completed, List.filterMap_append]
  refine congrArg _ ?_
  rw [List.filterMap_filterMap]
  induction ps with
  | nil => cases hp
  | cons q rest ih =>
      rw [List.map_cons, List.nodup_cons] at hnames
      rcases List.mem_cons.mp hp with rfl | hp
      · have hrest : rest.filterMap (fun q => ((said? env g q).map fun value =>
            (q.name, some value)).bind fun v => if v.1 = p.name then some v.2 else none) = [] := by
          refine List.filterMap_eq_nil_iff.mpr fun q hq => ?_
          have hother : q.name ≠ p.name := fun hsame =>
            hnames.1 (List.mem_map.mpr ⟨q, hq, hsame⟩)
          cases said? env g q <;> simp [hother]
        rw [List.filterMap_cons, hrest]
        cases said? env g p <;> simp
      · have hother : q.name ≠ p.name := fun hsame =>
          hnames.1 (List.mem_map.mpr ⟨p, hp, hsame.symm⟩)
        rw [List.filterMap_cons, ih hnames.2 hp]
        cases said? env g q <;> simp [hother]

/-- What is given for a name depends only on what is said for its parameter. -/
theorem about_completed_congr
    (hsaid : ∀ p ∈ ps, p.name = name → said? env' g p = said? env g p) :
    (completed env' g ps).about name = (completed env g ps).about name := by
  rw [Given.about, Given.about, completed, completed, List.filterMap_append, List.filterMap_append,
    List.filterMap_filterMap, List.filterMap_filterMap]
  refine congrArg _ (List.filterMap_congr fun p hp => ?_)
  by_cases hname : p.name = name
  · rw [hsaid p hp hname]
  · cases said? env' g p <;> cases said? env g p <;> simp [hname]

end PageAudit.CommandLine
