import PageAudit.Host
import PageAudit.Proofs.Files.Directories
import PageAudit.Proofs.Files.Joining

/-!
# What a machine keeps

Whatever is written on a machine and whatever programs it calls, its directories stay and its clock
goes on. Making directories leaves all files as they are.
-/

namespace PageAudit.Host

open Files (Content Fault)
open Files.Tree (Widens)

/-- The machine goes on: no directory is lost, and no step of the clock is taken back. -/
structure Grew (h h' : Host) : Prop where
  current : h'.current = h.current
  clock : h'.clock = h.clock
  programs : h'.programs = h.programs
  steps : h.steps ≤ h'.steps
  widens : Widens h.files h'.files

variable {h h' h'' : Host}

theorem Grew.refl (h : Host) : Grew h h := ⟨rfl, rfl, rfl, Nat.le_refl _, .refl _⟩

theorem Grew.trans (g : Grew h h') (g' : Grew h' h'') : Grew h h'' :=
  ⟨g'.current.trans g.current, g'.clock.trans g.clock, g'.programs.trans g.programs,
    Nat.le_trans g.steps g'.steps, g.widens.trans g'.widens⟩

theorem write_ok {path : String} {content : Content} (hwrite : h.write path content = (.ok (), h')) :
    h'.current = h.current ∧
      ∃ place, Files.Tree.Wrote h.files h.current path content h'.files place := by
  unfold write at hwrite
  split at hwrite
  · next files hfiles =>
      cases hwrite
      exact ⟨rfl, Files.Tree.write_ok hfiles⟩
  · cases hwrite

theorem write_grew {path : String} {content : Content} {answer : Except Fault Unit}
    (hwrite : h.write path content = (answer, h')) : Grew h h' := by
  unfold write at hwrite
  split at hwrite
  · next files hfiles =>
      cases hwrite
      obtain ⟨place, hwrote⟩ := Files.Tree.write_ok hfiles
      exact ⟨rfl, rfl, rfl, Nat.le_succ _, hwrote.widens⟩
  · cases hwrite
    exact ⟨rfl, rfl, rfl, Nat.le_succ _, .refl _⟩

theorem createDirectories_grew {path : String} {answer : Except Fault Unit}
    (hmade : h.createDirectories path = (answer, h')) : Grew h h' := by
  cases hmade
  exact ⟨rfl, rfl, rfl, Nat.le_succ _, (Files.Tree.createDirectories_extends ..).widens⟩

theorem writeAll_grew (h : Host) (files : List (String × Content)) : Grew h (h.writeAll files) := by
  induction files generalizing h with
  | nil => exact .refl h
  | cons file rest ih => exact (write_grew (h := h) rfl).trans (ih _)

theorem call_grew {c : PageAudit.Call} {completion : Completion}
    (hcall : h.call c = (completion, h')) : Grew h h' := by
  unfold call at hcall
  dsimp only at hcall
  split at hcall
  · cases hcall
    exact ⟨rfl, rfl, rfl, Nat.le_succ _, .refl _⟩
  · next files _ =>
      cases hcall
      have called : Grew h { h with calls := h.calls ++ [c], steps := h.steps + 1 } :=
        ⟨rfl, rfl, rfl, Nat.le_succ _, .refl _⟩
      exact called.trans (writeAll_grew _ files)

/-- A call takes a step of the clock. -/
theorem steps_call {c : PageAudit.Call} {completion : Completion}
    (hcall : h.call c = (completion, h')) : h.steps < h'.steps := by
  unfold call at hcall
  dsimp only at hcall
  split at hcall
  · cases hcall
    exact Nat.lt_succ_self _
  · next files _ =>
      cases hcall
      exact (writeAll_grew { h with calls := h.calls ++ [c], steps := h.steps + 1 } files).steps

/-- What was written is read back. -/
theorem write_read {path : String} {content : Content} (hwrite : h.write path content = (.ok (), h')) :
    h'.read path = .ok content := by
  obtain ⟨hcurrent, place, hwrote⟩ := write_ok hwrite
  rw [read, hcurrent]
  exact hwrote.read

/-- A file in a directory is read as before when one of another name is written there. -/
theorem read_join {directory name other : String} {content c : Content}
    (hwrite : h.write (Files.Path.join directory name) content = (.ok (), h'))
    (hname : Files.IsName name) (hother : Files.IsName other) (hne : other ≠ name)
    (hread : h.read (Files.Path.join directory other) = .ok c) :
    h'.read (Files.Path.join directory other) = .ok c := by
  obtain ⟨hcurrent, place, hwrote⟩ := write_ok hwrite
  obtain ⟨q, hlocated, -, -⟩ := Files.Tree.read_ok hread
  rw [read, hcurrent]
  refine hwrote.read_other hlocated ?_ hread
  rintro rfl
  have hlast := Files.Tree.locate_join hother hlocated
  rw [Files.Tree.locate_join hname hwrote.located] at hlast
  exact hne (Option.some.inj hlast).symm

/-! ## Calls -/

theorem calls_write {path : String} {content : Content} {answer : Except Fault Unit}
    (hwrite : h.write path content = (answer, h')) : h'.calls = h.calls := by
  unfold write at hwrite
  split at hwrite <;> cases hwrite <;> rfl

theorem calls_createDirectories {path : String} {answer : Except Fault Unit}
    (hmade : h.createDirectories path = (answer, h')) : h'.calls = h.calls := by
  cases hmade
  rfl

theorem calls_writeAll (h : Host) (files : List (String × Content)) :
    (h.writeAll files).calls = h.calls := by
  induction files generalizing h with
  | nil => rfl
  | cons file rest ih => exact (ih _).trans (calls_write rfl)

/-- A program that has ended was called. -/
theorem calls_of_exited {c : PageAudit.Call} {status : ExitStatus} {output errors : ByteArray}
    {files : List (String × Content)} (hcall : h.call c = (.exited status output errors files, h')) :
    h'.calls = h.calls ++ [c] := by
  unfold call at hcall
  dsimp only at hcall
  split at hcall
  · cases hcall
  · cases hcall
    exact calls_writeAll ..

/-! ## Directories -/

theorem steps_createDirectories {path : String} {answer : Except Fault Unit}
    (hmade : h.createDirectories path = (answer, h')) : h'.steps = h.steps + 1 :=
  (congrArg (fun outcome => outcome.2.steps) hmade).symm

/-- What was made a directory is listed from then on. -/
theorem exists_list {path : String} (hmade : h.createDirectories path = (.ok (), h'))
    (hparts : (Files.Path.ofText path).parts ≠ []) (g : Grew h' h'') :
    ∃ entries, h''.list path = .ok entries := by
  have hhost : h' = (h.createDirectories path).2 := (congrArg Prod.snd hmade).symm
  have hcurrent : h'.current = h.current := by rw [hhost]; rfl
  have hcreated : h.files.createDirectories h.current path h.time = (.ok (), h'.files) := by
    refine Prod.ext ?_ (by rw [hhost]; rfl)
    exact congrArg (fun outcome => outcome.1) hmade
  obtain ⟨place, hlocate, hplace⟩ := Files.Tree.createDirectories_ok hcreated hparts
  obtain ⟨changed, hfind⟩ := Files.Tree.exists_directory_of_passable
    (g.widens place (Files.Tree.passable_iff.mpr hplace))
  refine ⟨h''.files.entries place, ?_⟩
  rw [list, g.current, hcurrent, Files.Tree.list, g.widens.locate hlocate]
  simp only [hfind]

/-! ## Files that stay -/

/-- The machine goes on, and every file that could be read is read as before. -/
structure Retains (h h' : Host) : Prop extends Grew h h' where
  read {path : String} {c : Content} : h.read path = .ok c → h'.read path = .ok c

theorem Retains.refl (h : Host) : Retains h h := ⟨.refl h, id⟩

theorem createDirectories_retains {path : String} {answer : Except Fault Unit}
    (hmade : h.createDirectories path = (answer, h')) : Retains h h' := by
  refine ⟨createDirectories_grew hmade, fun hread => ?_⟩
  cases hmade
  exact (Files.Tree.createDirectories_extends ..).read hread

theorem write_error_retains {path : String} {content : Content} {fault : Fault}
    (hwrite : h.write path content = (.error fault, h')) : Retains h h' := by
  refine ⟨write_grew hwrite, fun hread => ?_⟩
  unfold write at hwrite
  split at hwrite
  · cases hwrite
  · cases hwrite
    exact hread

/-- Programs that write no files. -/
def WriteNothing (programs : List PageAudit.Call → PageAudit.Call → Completion) : Prop :=
  ∀ calls c status output errors files,
    programs calls c = .exited status output errors files → files = []

theorem call_retains (hprograms : WriteNothing h.programs) {c : PageAudit.Call}
    {completion : Completion} (hcall : h.call c = (completion, h')) : Retains h h' := by
  refine ⟨call_grew hcall, fun hread => ?_⟩
  unfold call at hcall
  dsimp only at hcall
  split at hcall
  · cases hcall
    exact hread
  next status output errors files hanswer =>
    have hnone : files = [] := by
      unfold answer at hanswer
      split at hanswer
      · exact hprograms _ _ _ _ _ _ hanswer
      · cases hanswer
    subst hnone
    cases hcall
    exact hread

end PageAudit.Host
