import PageAudit.CommandLine.Program
import PageAudit.Proofs.Files.Removing

/-!
# Cleaning up

What cleaning takes away are directories that lie in the base directory and were last changed longer
ago than asked; it says how many they are, and leaves everything else. An age that has too many seconds
for a word of 64 bits ends the program before it has looked at the base directory.
-/

namespace PageAudit

open Files (IsName Node Path)
open Files.Tree (Without destination)

variable {base : String} {names removed : List String} {h after : Host}

namespace Host

/-! ## Directories of a directory -/

theorem removeDirectory_error {path : String}
    (hnone : h.files.holdsDirectory h.current path = false) :
    ∃ fault, h.removeDirectory path = (.error fault, h.withFiles h.files) := by
  obtain ⟨fault, hfault⟩ := Files.Tree.removeDirectory_error hnone h.time
  exact ⟨fault, by rw [removeDirectory, hfault]; rfl⟩

theorem removeDirectory_join {name : String} (hname : IsName name)
    (hheld : h.files.holdsDirectory h.current (Path.join base name) = true) :
    h.removeDirectory (Path.join base name) =
      (.ok (), h.withFiles (h.files.prune (destination h.current base ++ [name]) h.time)) := by
  rw [removeDirectory, Files.Tree.removeDirectory_join hname hheld]
  rfl

theorem holds_of_holdsDirectory (hbase : h.files.holdsDirectory h.current base = true) :
    h.holds base = true := by
  obtain ⟨place, hlocate, hplace⟩ := Files.Tree.holdsDirectory_iff.mp hbase
  obtain ⟨changed, hfind⟩ := Files.Tree.exists_directory_of_passable hplace
  rw [holds, Files.Tree.holds, hlocate]
  simp only [hfind, Option.isSome_some]

theorem list_of_holdsDirectory (hbase : h.files.holdsDirectory h.current base = true) :
    h.list base = .ok (h.files.entries (destination h.current base)) := by
  obtain ⟨place, hlocate, hplace⟩ := Files.Tree.holdsDirectory_iff.mp hbase
  obtain ⟨changed, hfind⟩ := Files.Tree.exists_directory_of_passable hplace
  rw [list, Files.Tree.list, hlocate, ← Files.Tree.locate_destination hlocate]
  simp only [hfind]

/-- What is there but no directory is a file. -/
theorem list_of_holds (hheld : h.holds base = true)
    (hbase : h.files.holdsDirectory h.current base = false) :
    h.list base = .error .notADirectory := by
  rw [holds, Files.Tree.holds] at hheld
  rw [Files.Tree.holdsDirectory] at hbase
  rw [list, Files.Tree.list]
  cases hlocate : h.files.locate h.current base with
  | error fault => simp [hlocate] at hheld
  | ok place =>
      rw [hlocate] at hheld hbase
      unfold Files.Tree.isDirectory at hbase
      cases hfind : h.files.find? place with
      | none => simp [hfind] at hheld
      | some node =>
          cases node with
          | file content => simp only [hfind]
          | directory changed => simp [hfind] at hbase

end Host

/-! ## Removing sessions -/

namespace Session

/-- Some of the named directories go from the base directory. All of them do that can be reached,
unless the path of the base directory goes up and perhaps through one of them. -/
structure Removes (base : String) (names removed : List String) (h after : Host) : Prop where
  among : removed.Sublist names
  files : Without h.files (destination h.current base) removed after.files
  current : after.current = h.current
  thorough : Path.above ∉ (Path.ofText base).parts → ∀ name ∈ names,
    h.files.holdsDirectory h.current (Path.join base name) = true → name ∈ removed

theorem removeAll_cons (base name : String) (rest : List String) (h : Host) :
    removeAll base (name :: rest) h =
      match h.removeDirectory (Path.join base name) with
      | (.ok (), h) => ((removeAll base rest h).1 + 1, (removeAll base rest h).2)
      | (.error _, h) => removeAll base rest h := by
  rfl

theorem removeAll_removes (base : String) (h : Host) (hnames : ∀ name ∈ names, IsName name)
    (hdistinct : names.Nodup) : ∃ removed, (removeAll base names h).1 = removed.length ∧
      Removes base names removed h (removeAll base names h).2 := by
  induction names generalizing h with
  | nil => exact ⟨[], rfl, .refl _, .refl .., rfl, fun _ name hname => (List.not_mem_nil hname).elim⟩
  | cons name rest ih =>
      obtain ⟨hname, hrest⟩ := List.forall_mem_cons.mp hnames
      obtain ⟨hfresh, hdistinct⟩ := List.nodup_cons.mp hdistinct
      cases hheld : h.files.holdsDirectory h.current (Path.join base name) with
      | false =>
          obtain ⟨fault, hstep⟩ := Host.removeDirectory_error hheld
          obtain ⟨removed, hcount, hremoves⟩ := ih (h.withFiles h.files) hrest hdistinct
          rw [removeAll_cons, hstep]
          refine ⟨removed, hcount, hremoves.among.cons _, hremoves.files, hremoves.current, ?_⟩
          intro habove other hother hreached
          rcases List.mem_cons.mp hother with rfl | hother
          · rw [hheld] at hreached
            cases hreached
          · exact hremoves.thorough habove other hother hreached
      | true =>
          obtain ⟨removed, hcount, hremoves⟩ := ih
            (h.withFiles (h.files.prune (destination h.current base ++ [name]) h.time)) hrest hdistinct
          rw [removeAll_cons, Host.removeDirectory_join hname hheld]
          refine ⟨name :: removed, congrArg (· + 1) hcount, hremoves.among.cons_cons _, ?_,
            hremoves.current, ?_⟩
          · exact (Files.Tree.without_prune h.files _ name h.time).trans hremoves.files
          intro habove other hother hreached
          rcases List.mem_cons.mp hother with rfl | hother
          · exact List.mem_cons_self
          · refine List.mem_cons_of_mem _ (hremoves.thorough habove other hother ?_)
            exact Files.Tree.holdsDirectory_prune habove (hrest other hother)
              (fun heq => hfresh (heq ▸ hother)) hreached

/-! ## What is left -/

/-- Whether more than an age in hours has passed since a directory was changed. -/
def IsOlder (hours now : Nat) (changed : Int) : Prop :=
  ((Span.ofSeconds (hours * 3600)).nanos : Int) < (now : Int) - changed

theorem isExpired_iff {hours now : Nat} {node : Node} :
    isExpired now (.ofSeconds (hours * 3600)) node = true ↔
      ∃ changed, node = .directory changed ∧ IsOlder hours now changed := by
  cases node with
  | file content => simp [isExpired]
  | directory changed => simp [isExpired, IsOlder]

/-- What cleaning does in a base directory that is there: what it removes is older than asked, and
nothing else is touched. -/
structure Sweeps (base : String) (hours : Nat) (removed : List String) (h after : Host) : Prop where
  distinct : removed.Nodup
  older : ∀ name ∈ removed, ∃ changed,
    h.files.find? (destination h.current base ++ [name]) = some (.directory changed) ∧
      IsOlder hours h.time changed
  files : Without h.files (destination h.current base) removed after.files
  /-- Whatever else lies in the base directory stays, with all that is in it. -/
  spares : ∀ name node, h.files.find? (destination h.current base ++ [name]) = some node →
    (∀ changed, node = .directory changed → ¬IsOlder hours h.time changed) →
      ∀ rest, after.files.find? (destination h.current base ++ name :: rest) =
        h.files.find? (destination h.current base ++ name :: rest)
  /-- What is older is removed if it can be reached, unless the base's path goes up. -/
  thorough : Path.above ∉ (Path.ofText base).parts → ∀ name changed,
    h.files.find? (destination h.current base ++ [name]) = some (.directory changed) →
      IsOlder hours h.time changed →
        h.files.holdsDirectory h.current (Path.join base name) = true → name ∈ removed

/-- The names of the entries in the base directory that are older than asked. -/
def expired (base : String) (hours : Nat) (h : Host) : List String :=
  ((h.files.entries (destination h.current base)).filter fun e =>
    isExpired h.time (.ofSeconds (hours * 3600)) e.2).map Prod.fst

theorem mem_expired_iff (htree : h.files.WellFormed) {hours : Nat} {name : String} :
    name ∈ expired base hours h ↔ ∃ changed,
      h.files.find? (destination h.current base ++ [name]) = some (.directory changed) ∧
        IsOlder hours h.time changed := by
  simp only [expired, List.mem_map, List.mem_filter, isExpired_iff]
  constructor
  · rintro ⟨⟨name, node⟩, ⟨hentry, changed, rfl, holder⟩, rfl⟩
    exact ⟨changed, Files.Tree.find?_of_mem_entries htree hentry, holder⟩
  · rintro ⟨changed, hfind, holder⟩
    exact ⟨(name, _), ⟨Files.Tree.mem_entries_of_find? hfind, changed, rfl, holder⟩, rfl⟩

theorem sweeps_of_removes (htree : h.files.WellFormed) {hours : Nat}
    (hremoves : Removes base (expired base hours h) removed h after) :
    Sweeps base hours removed h after := by
  have holder : ∀ name ∈ removed, _ := fun name hname =>
    (mem_expired_iff htree).mp (hremoves.among.subset hname)
  refine ⟨?_, holder, hremoves.files, fun name node hfind hyoung rest => ?_,
    fun habove name changed hfind hold => ?_⟩
  · have hnames := Files.Tree.nodup_names htree (destination h.current base)
    exact (hremoves.among.trans (List.filter_sublist.map _)).nodup hnames
  · refine hremoves.files.stays _ (by simp) fun other hother hunder => ?_
    obtain ⟨changed, hchanged, hold⟩ := holder other hother
    have hsame := (List.cons_prefix_cons.mp ((List.prefix_append_right_inj _).mp hunder)).1
    rw [hsame, hfind] at hchanged
    exact hyoung changed (Option.some.inj hchanged) hold
  · exact hremoves.thorough habove name ((mem_expired_iff htree).mpr ⟨changed, hfind, hold⟩)

theorem cleanUp_of_holdsDirectory (hours : Nat)
    (hbase : h.files.holdsDirectory h.current base = true) :
    cleanUp base (.ofSeconds (hours * 3600)) h =
      (.ok (removeAll base (expired base hours h) h).1, (removeAll base (expired base hours h) h).2) := by
  rw [cleanUp, if_pos (Host.holds_of_holdsDirectory hbase), Host.list_of_holdsDirectory hbase]
  rfl

theorem cleanUp_of_holds (limit : Span) (hheld : h.holds base = true)
    (hbase : h.files.holdsDirectory h.current base = false) :
    cleanUp base limit h = (.error .notADirectory, h) := by
  rw [cleanUp, if_pos hheld, Host.list_of_holds hheld hbase]

theorem cleanUp_of_missing (limit : Span) (hmissing : h.holds base = false) :
    cleanUp base limit h = (.ok 0, h) := by
  rw [cleanUp, hmissing]
  rfl

theorem all_of_missing (hmissing : h.holds base = false) : all base h = .ok [] := by
  rw [all, hmissing]
  rfl

/-- What is left in the base directory can be listed. -/
theorem exists_all (hbase : h.files.holdsDirectory h.current base = true)
    (hremoves : Removes base names removed h after) : ∃ kept, all base after = .ok kept := by
  cases hheld : after.holds base with
  | false => exact ⟨[], all_of_missing hheld⟩
  | true =>
      have hafter : after.files.holdsDirectory after.current base = true := by
        obtain ⟨place, hlocate, hplace⟩ := Files.Tree.holdsDirectory_iff.mp hbase
        rw [Host.holds, Files.Tree.holds] at hheld
        split at hheld
        · cases hheld
        next place' hlocate' =>
          refine Files.Tree.holdsDirectory_iff.mpr ⟨place', hlocate', ?_⟩
          rw [Files.Tree.locate_destination hlocate', hremoves.current, hremoves.files.passable,
            ← Files.Tree.locate_destination hlocate, hplace]
      rw [all, if_pos hheld, Host.list_of_holdsDirectory hafter]
      exact ⟨_, rfl⟩

end Session

/-! ## The command -/

namespace CommandLine

open Session (Sweeps)

/-- The ways in which cleaning ends. -/
inductive Cleans (hours : Nat) (h : Host) : Outcome × Host → Prop
  | crashed (overflow : 2 ^ 64 ≤ hours * 3600) : Cleans hours h (.silent .crashed, h)
  | missing (fits : hours * 3600 < 2 ^ 64) (missing : h.holds h.settings.sessionBase = false) :
      Cleans hours h (.lines ["Removed 0 sessions from " ++ h.settings.sessionBase] .done, h)
  | refused (fits : hours * 3600 < 2 ^ 64) (held : h.holds h.settings.sessionBase = true)
      (closed : h.files.holdsDirectory h.current h.settings.sessionBase = false) :
      Cleans hours h (.silent (.failed Files.Fault.notADirectory.message), h)
  | swept {removed kept : List String} {after : Host} (fits : hours * 3600 < 2 ^ 64)
      (held : h.files.holdsDirectory h.current h.settings.sessionBase = true)
      (sweeps : Sweeps h.settings.sessionBase hours removed h after)
      (left : Session.all h.settings.sessionBase after = .ok kept) :
      Cleans hours h (.lines (("Removed " ++ toString removed.length ++ " sessions from " ++
        h.settings.sessionBase) :: kept.map fun path => "  kept " ++ path) .done, after)

theorem clean_cleans (hours : Nat) (h : Host) (htree : h.files.WellFormed) :
    Cleans hours h (clean hours h) := by
  unfold clean
  dsimp only
  split
  · next hoverflow => exact .crashed hoverflow
  next hfits =>
    rw [Nat.not_le] at hfits
    cases hbase : h.files.holdsDirectory h.current h.settings.sessionBase with
    | true =>
        have hentries : ∀ name ∈ Session.expired h.settings.sessionBase hours h, IsName name := by
          intro name hname
          obtain ⟨changed, hfind, -⟩ := (Session.mem_expired_iff htree).mp hname
          exact Files.Tree.isName_of_mem_entries htree (Files.Tree.mem_entries_of_find? hfind)
        have hdistinct : (Session.expired h.settings.sessionBase hours h).Nodup :=
          (List.filter_sublist.map _).nodup (Files.Tree.nodup_names htree _)
        obtain ⟨removed, hcount, hremoves⟩ :=
          Session.removeAll_removes h.settings.sessionBase h hentries hdistinct
        obtain ⟨kept, hkept⟩ := Session.exists_all hbase hremoves
        rw [Session.cleanUp_of_holdsDirectory hours hbase, hcount]
        dsimp only
        rw [hkept]
        exact .swept hfits hbase (Session.sweeps_of_removes htree hremoves) hkept
    | false =>
        cases hheld : h.holds h.settings.sessionBase with
        | true =>
            rw [Session.cleanUp_of_holds _ hheld hbase]
            exact .refused hfits hheld hbase
        | false =>
            rw [Session.cleanUp_of_missing _ hheld]
            dsimp only
            rw [Session.all_of_missing hheld]
            exact .missing hfits hheld

/-- Cleaning ends in one of its ways. It crashes on ages that have too many seconds, and on no others,
so up to 5124095576030431 hours only directories that are older than asked are removed. -/
theorem clean_removes_older (hours : Nat) (h : Host) (htree : h.files.WellFormed) :
    ((clean hours h).1.ending = .crashed ↔ 5124095576030431 < hours) ∧
      Cleans hours h (clean hours h) := by
  have hcleans := clean_cleans hours h htree
  refine ⟨?_, hcleans⟩
  generalize clean hours h = outcome at hcleans ⊢
  cases hcleans with
  | crashed hoverflow => exact ⟨fun _ => by omega, fun _ => rfl⟩
  | missing hfits => exact ⟨(fun hcrashed => by cases hcrashed), fun hlong => by omega⟩
  | refused hfits => exact ⟨(fun hcrashed => by cases hcrashed), fun hlong => by omega⟩
  | swept hfits => exact ⟨(fun hcrashed => by cases hcrashed), fun hlong => by omega⟩

/-- A machine whose base directory has a session of two hours, one of an hour and a file. -/
def twoSessions : Host where
  name := "ci"
  process := 1
  environment := [(Variable.sessionBase, "sessions")]
  current := ["home"]
  files := ⟨[(["home"], .directory 0), (["home", "sessions"], .directory 0),
    (["home", "sessions", "early"], .directory 0),
    (["home", "sessions", "late"], .directory 3600000000000),
    (["home", "sessions", "notes.txt"], .file (.text "kept"))]⟩
  clock := fun _ => 7200000000000
  steps := 0
  calls := []
  programs := fun _ _ => .missing .notFound

theorem twoSessions_wellFormed : twoSessions.files.WellFormed := ⟨by decide, by decide⟩

/-- The session of two hours is removed; the one of an hour and the file stay. -/
theorem two_sessions_cleaned : twoSessions.files.WellFormed ∧
    (clean 1 twoSessions).1.ending ≠ .crashed ∧ Cleans 1 twoSessions (clean 1 twoSessions) ∧
    (clean 1 twoSessions).1 =
      .lines ["Removed 1 sessions from sessions", "  kept sessions/late"] .done ∧
    (clean 1 twoSessions).2.holds "sessions/early" = false ∧
    (clean 1 twoSessions).2.holds "sessions/late" = true ∧
    ((clean 1 twoSessions).2.readText "sessions/notes.txt").toOption = some "kept" := by
  obtain ⟨hcrash, hcleans⟩ := clean_removes_older 1 twoSessions twoSessions_wellFormed
  exact ⟨twoSessions_wellFormed, fun hcrashed => by simp [hcrash] at hcrashed, hcleans,
    by decide +kernel, by decide +kernel, by decide +kernel, by decide +kernel⟩

theorem clean_of_overflow {hours : Nat} (hoverflow : 2 ^ 64 ≤ hours * 3600) (h : Host) :
    clean hours h = (.silent .crashed, h) := if_pos hoverflow

/-- Asked to keep sessions of any age, the program crashes. -/
theorem long_age_crashes : 5124095576030432 < 2 ^ 64 ∧ twoSessions.files.WellFormed ∧
    (clean 5124095576030432 twoSessions).1.ending = .crashed := by
  refine ⟨by decide, twoSessions_wellFormed, ?_⟩
  rw [clean_of_overflow (by decide)]
  rfl

end CommandLine

end PageAudit
