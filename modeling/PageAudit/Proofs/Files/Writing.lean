import PageAudit.Files.Tree

/-!
# Reading what was written

A file that was written is read back by the same path, and what is at other places stays there: a
write makes no directory impassable, so paths lead where they led before.
-/

namespace PageAudit.Files.Tree

variable {t t' : Tree} {current place : Place} {path : String} {content : Content} {time : Int}

/-! ## Nodes -/

theorem lookup_assign (place q : Place) (node : Node) (nodes : List (Place × Node)) :
    (assign place node nodes).lookup q = if q = place then some node else nodes.lookup q := by
  induction nodes with
  | nil =>
      by_cases hq : q = place
      · simp [assign, hq]
      · simp [assign, hq, List.lookup_cons, beq_false_of_ne hq]
  | cons entry nodes ih =>
      obtain ⟨p, n⟩ := entry
      by_cases hp : p = place
      · subst hp
        by_cases hq : q = p
        · simp [assign, hq]
        · simp [assign, hq, List.lookup_cons, beq_false_of_ne hq]
      · rw [assign, if_neg hp]
        by_cases hq : q = p
        · simp [hq, hp]
        · simp [List.lookup_cons, beq_false_of_ne hq, ih]

/-- A change of a directory's time leaves every file and every directory. -/
theorem lookup_touch (t : Tree) (directory q : Place) (time : Int) :
    (t.touch directory time).nodes.lookup q = (t.nodes.lookup q).map fun node =>
      match node with
      | .directory old => .directory (if q = directory then time else old)
      | .file c => .file c := by
  obtain ⟨nodes⟩ := t
  unfold touch
  induction nodes with
  | nil => rfl
  | cons entry nodes ih =>
      obtain ⟨p, n⟩ := entry
      by_cases hq : q = p
      · subst hq
        cases n <;> simp
      · cases n <;> simp [List.lookup_cons, beq_false_of_ne hq, ih]

theorem find?_touch_file (t : Tree) (directory q : Place) (time : Int) (c : Content) :
    (t.touch directory time).find? q = some (.file c) ↔ t.find? q = some (.file c) := by
  unfold find?
  split
  · exact Iff.rfl
  · rw [lookup_touch]
    cases t.nodes.lookup q with
    | none => exact Iff.rfl
    | some node => cases node <;> simp

theorem passable_touch (t : Tree) (directory q : Place) (time : Int) :
    (t.touch directory time).passable q = t.passable q := by
  unfold passable find?
  by_cases hroot : q.isEmpty = true
  · rw [if_pos hroot, if_pos hroot]
  · rw [if_neg hroot, if_neg hroot, lookup_touch]
    cases t.nodes.lookup q with
    | none => rfl
    | some node => cases node <;> rfl

/-! ## Paths -/

/-- A path is followed through a directory by a name that is not too long. -/
theorem follow_cons_ok_iff {start : Place} {part : String} {parts : List String} :
    t.follow start (part :: parts) = .ok place ↔ t.passable start = .ok () ∧
      part.utf8ByteSize ≤ Path.nameLimit ∧ t.follow (resolve start [part]) parts = .ok place := by
  rw [follow, resolve, List.foldl_cons, List.foldl_nil, ← Nat.not_lt]
  cases t.passable start with
  | error e => simp
  | ok =>
      by_cases hlong : Path.nameLimit < part.utf8ByteSize
      · simp [hlong]
      · simp only [hlong, if_false, not_false_eq_true, true_and]
        split
        · rfl
        · split <;> rfl

theorem locate_ok_iff : t.locate current path = .ok place ↔
    refusal? path = none ∧ path.isEmpty = false ∧
      t.follow (origin current (.ofText path)) (Path.ofText path).parts = .ok place := by
  rw [locate]
  cases refusal? path with
  | some fault => simp
  | none => cases path.isEmpty <;> simp

/-- Whether every directory of the one tree is a directory of the other. -/
def Widens (t t' : Tree) : Prop := ∀ place, t.passable place = .ok () → t'.passable place = .ok ()

theorem Widens.follow (h : Widens t t') {parts : List String} {start : Place}
    (hfollow : t.follow start parts = .ok place) : t'.follow start parts = .ok place := by
  induction parts generalizing start with
  | nil => exact hfollow
  | cons part parts ih =>
      obtain ⟨hstart, hshort, hrest⟩ := follow_cons_ok_iff.mp hfollow
      exact follow_cons_ok_iff.mpr ⟨h start hstart, hshort, ih hrest⟩

theorem Widens.locate (h : Widens t t') (hlocate : t.locate current path = .ok place) :
    t'.locate current path = .ok place := by
  obtain ⟨hpassed, hpath, hfollow⟩ := locate_ok_iff.mp hlocate
  exact locate_ok_iff.mpr ⟨hpassed, hpath, h.follow hfollow⟩

/-! ## Files -/

/-- What a write does to a tree: the file is there, no other file is touched, and the directories
stay. -/
structure Wrote (t : Tree) (current : Place) (path : String) (content : Content) (t' : Tree)
    (place : Place) : Prop where
  located : t.locate current path = .ok place
  opened : (Path.ofText path).closed = false
  written : t'.find? place = some (.file content)
  kept : ∀ q c, q ≠ place → t.find? q = some (.file c) → t'.find? q = some (.file c)
  widens : Widens t t'

/-- A file in the place of a file or of nothing. -/
def put (t : Tree) (place : Place) (content : Content) : Tree :=
  ⟨assign place (.file content) t.nodes⟩

theorem find?_put (hplace : place ≠ []) (q : Place) :
    (t.put place content).find? q = if q = place then some (.file content) else t.find? q := by
  unfold find? put
  split
  · next hroot =>
      rw [if_neg]
      rintro rfl
      exact hplace (List.isEmpty_iff.mp hroot)
  · exact lookup_assign ..

theorem wrote_put (hlocated : t.locate current path = .ok place)
    (hopened : (Path.ofText path).closed = false) (hroot : place ≠ [])
    (hfree : t.isDirectory place = false) :
    Wrote t current path content (t.put place content) place where
  located := hlocated
  opened := hopened
  written := by rw [find?_put hroot, if_pos rfl]
  kept q c hq hfile := by rwa [find?_put hroot, if_neg hq]
  widens q hq := by
    by_cases hqp : q = place
    · subst hqp
      unfold passable at hq
      unfold isDirectory at hfree
      split at hq <;> simp_all
    · unfold passable at hq ⊢
      rwa [find?_put hroot, if_neg hqp]

theorem Wrote.touch (h : Wrote t current path content t' place) (directory : Place) (time : Int) :
    Wrote t current path content (t'.touch directory time) place where
  located := h.located
  opened := h.opened
  written := (find?_touch_file ..).mpr h.written
  kept q c hq hfile := (find?_touch_file ..).mpr (h.kept q c hq hfile)
  widens q hq := (passable_touch ..).trans (h.widens q hq)

theorem write_ok (h : t.write current path content time = .ok t') :
    ∃ place, Wrote t current path content t' place := by
  unfold write at h
  cases hlocated : t.locate current path with
  | error e => simp [hlocated] at h
  | ok place =>
      rw [hlocated] at h
      dsimp only at h
      refine ⟨place, ?_⟩
      have hroot (hfound : t.find? place ≠ some (.directory 0)) : place ≠ [] := by
        rintro rfl
        exact hfound rfl
      split at h
      · cases h
      · next c hfile =>
          split at h
          · cases h
          · next hopened =>
              cases h
              exact wrote_put hlocated (Bool.eq_false_iff.mpr hopened) (hroot (by simp [hfile]))
                (by simp [isDirectory, hfile])
      · next hnone =>
          split at h
          · cases h
          · next hopened =>
              cases h
              exact (wrote_put hlocated (Bool.eq_false_iff.mpr hopened) (hroot (by simp [hnone]))
                (by simp [isDirectory, hnone])).touch _ _

theorem read_eq (hlocated : t.locate current path = .ok place)
    (hopened : (Path.ofText path).closed = false) (hfile : t.find? place = some (.file content)) :
    t.read current path = .ok content := by
  rw [read, hlocated]
  simp only [hfile, hopened, Bool.false_eq_true, if_false]

theorem read_ok {c : Content} (h : t.read current path = .ok c) :
    ∃ place, t.locate current path = .ok place ∧ (Path.ofText path).closed = false ∧
      t.find? place = some (.file c) := by
  unfold read at h
  cases hlocated : t.locate current path with
  | error e => simp [hlocated] at h
  | ok place =>
      rw [hlocated] at h
      dsimp only at h
      split at h
      · cases h
      · cases h
      · next c' hfile =>
          split at h
          · cases h
          · next hopened =>
              cases h
              exact ⟨place, rfl, Bool.eq_false_iff.mpr hopened, hfile⟩

/-- What was written is read back. -/
theorem Wrote.read (h : Wrote t current path content t' place) :
    t'.read current path = .ok content :=
  read_eq (h.widens.locate h.located) h.opened h.written

/-- What a path to another place leads to is read as before. -/
theorem Wrote.read_other (h : Wrote t current path content t' place) {other : String} {q : Place}
    {c : Content} (hq : t.locate current other = .ok q) (hne : q ≠ place)
    (hread : t.read current other = .ok c) : t'.read current other = .ok c := by
  obtain ⟨q', hlocated, hopened, hfile⟩ := read_ok hread
  cases hq.symm.trans hlocated
  exact read_eq (h.widens.locate hlocated) hopened (h.kept q c hne hfile)

end PageAudit.Files.Tree
