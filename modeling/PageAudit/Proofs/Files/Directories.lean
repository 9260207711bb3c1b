import PageAudit.Proofs.Files.Writing

/-!
# Making directories

Making directories takes nothing away: every file and every directory stays. The path along which
they were made leads to a directory, and so it does after everything that is written later.
-/

namespace PageAudit.Files.Tree

variable {t t' t'' : Tree} {current origin place : Place} {path : String} {parts : List String}
  {time : Int}

theorem passable_iff : t.passable place = .ok () ↔ t.isDirectory place = true := by
  unfold passable isDirectory
  rcases t.find? place with _ | ⟨_ | _⟩ <;> simp

theorem exists_directory_of_passable (h : t.passable place = .ok ()) :
    ∃ changed, t.find? place = some (.directory changed) := by
  unfold passable at h
  split at h
  · next changed hfind => exact ⟨changed, hfind⟩
  · cases h
  · cases h

/-! ## Trees that lose nothing -/

theorem Widens.refl (t : Tree) : Widens t t := fun _ h => h

theorem Widens.trans (h : Widens t t') (h' : Widens t' t'') : Widens t t'' :=
  fun place hplace => h' place (h place hplace)

/-- Every directory and every file of the one tree is in the other. -/
structure Extends (t t' : Tree) : Prop where
  widens : Widens t t'
  files : ∀ q c, t.find? q = some (.file c) → t'.find? q = some (.file c)

theorem Extends.refl (t : Tree) : Extends t t := ⟨.refl t, fun _ _ h => h⟩

theorem Extends.trans (h : Extends t t') (h' : Extends t' t'') : Extends t t'' :=
  ⟨h.widens.trans h'.widens, fun q c hq => h'.files q c (h.files q c hq)⟩

theorem Extends.read {c : Content} (h : Extends t t') (hread : t.read current path = .ok c) :
    t'.read current path = .ok c := by
  obtain ⟨place, hlocated, hopened, hfile⟩ := read_ok hread
  exact read_eq (h.widens.locate hlocated) hopened (h.files place c hfile)

/-! ## Paths to directories -/

/-- The parts of a path lead from a place to a directory. -/
def Leads (t : Tree) (origin : Place) (parts : List String) : Prop :=
  ∃ place, t.follow origin parts = .ok place ∧ t.passable place = .ok ()

theorem leads_of_leadsToDirectory (h : t.leadsToDirectory origin parts = true) :
    t.Leads origin parts := by
  unfold leadsToDirectory at h
  split at h
  · cases h
  · next place hfollow => exact ⟨place, hfollow, passable_iff.mpr h⟩

/-! ## Making one directory -/

theorem find?_assign {node : Node} (hplace : place ≠ []) (q : Place) :
    (Tree.mk (assign place node t.nodes)).find? q = if q = place then some node else t.find? q := by
  unfold find?
  split
  · next hroot =>
      rw [if_neg]
      rintro rfl
      exact hplace (List.isEmpty_iff.mp hroot)
  · exact lookup_assign ..

theorem add_directory (hnone : t.find? place = none) (time : Int) :
    Extends t (t.add place (.directory time) time) ∧
      (t.add place (.directory time) time).passable place = .ok () := by
  have hplace : place ≠ [] := by
    rintro rfl
    cases hnone
  have hother {q : Place} {node : Node} (hq : t.find? q = some node) :
      (Tree.mk (assign place (.directory time) t.nodes)).find? q = some node := by
    rw [find?_assign hplace, if_neg, hq]
    rintro rfl
    cases hnone.symm.trans hq
  refine ⟨⟨fun q hq => ?_, fun q c hq => ?_⟩, ?_⟩
  · rw [add, passable_touch]
    unfold passable at hq ⊢
    cases hfind : t.find? q with
    | none => simp [hfind] at hq
    | some node => rwa [hother hfind, ← hfind]
  · rw [add, find?_touch_file]
    exact hother hq
  · rw [add, passable_touch, passable, find?_assign hplace, if_pos rfl]

theorem makeDirectory_ok (h : t.makeDirectory origin parts time = .ok t') :
    Extends t t' ∧ t'.Leads origin parts := by
  unfold makeDirectory at h
  split at h
  · cases h
  · next place hfollow =>
      split at h
      · cases h
      · next hnone =>
          cases h
          obtain ⟨hextends, hplace⟩ := add_directory hnone time
          exact ⟨hextends, place, hextends.widens.follow hfollow, hplace⟩

/-! ## Making the directories of a path -/

/-- What comes of making directories: nothing is lost, and if all went well the path leads to one. -/
structure Made (t : Tree) (origin : Place) (parts : List String)
    (outcome : Except Fault Unit × Tree) : Prop where
  kept : Extends t outcome.2
  leads : outcome.1 = .ok () → outcome.2.Leads origin parts

theorem ensureDirectory_made (t : Tree) (origin : Place) (parts : List String) (time : Int) :
    Made t origin parts (t.ensureDirectory origin parts time) := by
  unfold ensureDirectory
  split
  · next t' hmake =>
      obtain ⟨hextends, hleads⟩ := makeDirectory_ok hmake
      exact ⟨hextends, fun _ => hleads⟩
  · refine ⟨.refl t, fun hok => ?_⟩
    dsimp only at hok
    split at hok
    · next hleads => exact leads_of_leadsToDirectory hleads
    · cases hok

theorem ensureAll_extends (t : Tree) (origin : Place) (time : Int) (parts : List String) :
    Extends t (t.ensureAll origin time parts).2 := by
  fun_induction ensureAll t origin time parts with
  | case1 => exact .refl t
  | case2 part rest _ e t' hrest ih =>
      rw [hrest] at ih
      exact ih
  | case3 part rest _ t' hrest ih =>
      rw [hrest] at ih
      exact ih.trans (ensureDirectory_made t' origin _ time).kept
  | case4 part rest => exact (ensureDirectory_made t origin _ time).kept

/-- The parts of the path are given backwards, and there is at least one. -/
theorem ensureAll_made (t : Tree) (origin : Place) (time : Int) (part : String)
    (rest : List String) :
    Made t origin (part :: rest).reverse (t.ensureAll origin time (part :: rest)) := by
  refine ⟨ensureAll_extends t origin time _, ?_⟩
  -- whatever was made further out, the last step is the directory of the whole path
  rw [ensureAll]
  split
  · split
    · intro hok
      cases hok
    · exact (ensureDirectory_made _ origin _ time).leads
  · exact (ensureDirectory_made t origin _ time).leads

theorem createDirectories_extends (t : Tree) (current : Place) (path : String) (time : Int) :
    Extends t (t.createDirectories current path time).2 := by
  unfold createDirectories
  split
  · exact .refl t
  · exact ensureAll_extends ..

/-- Where the directories of a path were made, the path is that of a directory. -/
theorem createDirectories_ok (h : t.createDirectories current path time = (.ok (), t'))
    (hparts : (Path.ofText path).parts ≠ []) :
    ∃ place, t'.locate current path = .ok place ∧ t'.isDirectory place = true := by
  unfold createDirectories at h
  cases hrefusal : refusal? path with
  | some fault => simp [hrefusal] at h
  | none =>
      rw [hrefusal] at h
      obtain ⟨part, rest, hreverse⟩ := List.exists_cons_of_ne_nil (by simpa using hparts :
        (Path.ofText path).parts.reverse ≠ [])
      have hmade := ensureAll_made t (origin current (.ofText path)) time part rest
      rw [← hreverse, List.reverse_reverse] at hmade
      dsimp only at h
      rw [h] at hmade
      obtain ⟨place, hfollow, hplace⟩ := hmade.leads rfl
      refine ⟨place, ?_, passable_iff.mp hplace⟩
      have hempty : path.isEmpty = false := by
        refine Bool.eq_false_iff.mpr fun hempty => hparts ?_
        rw [String.isEmpty_iff.mp hempty]
        rfl
      exact locate_ok_iff.mpr ⟨hrefusal, hempty, hfollow⟩

end PageAudit.Files.Tree
