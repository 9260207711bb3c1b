import Mathlib.Data.List.Nodup
import PageAudit.Proofs.Files.Directories
import PageAudit.Proofs.Files.Joining

/-!
# Removing directories from a directory

A directory is removed with all that is in it, and nothing else changes but the time of the directory
that it lay in. So several of them go one after another, and the paths to the others still lead there.
-/

namespace PageAudit.Files.Tree

variable {t t' t'' : Tree} {current directory place q : Place} {name : String} {node : Node}
  {names removed : List String} {time : Int}

/-! ## Entries -/

/-- A tree as a machine has it: at every place there is one thing, and places are made of names. -/
structure WellFormed (t : Tree) : Prop where
  distinct : (t.nodes.map Prod.fst).Nodup
  named : ∀ place ∈ t.nodes.map Prod.fst, ∀ name ∈ place, IsName name

theorem nameWithin?_eq_some_iff :
    nameWithin? directory place = some name ↔ place = directory ++ [name] := by
  unfold nameWithin?
  constructor
  · intro h
    split at h
    · next hunder =>
        obtain ⟨rest, rfl⟩ := List.isPrefixOf_iff_prefix.mp hunder
        rw [List.drop_left] at h
        split at h
        · cases h
          rfl
        · cases h
    · cases h
  · rintro rfl
    rw [if_pos (List.isPrefixOf_iff_prefix.mpr (List.prefix_append ..)), List.drop_left]

theorem mem_entries_iff :
    (name, node) ∈ t.entries directory ↔ (directory ++ [name], node) ∈ t.nodes := by
  simp only [entries, List.mem_filterMap, Option.map_eq_some_iff, Prod.mk.injEq]
  constructor
  · rintro ⟨⟨p, n⟩, hnode, name', hwithin, rfl, rfl⟩
    rwa [← nameWithin?_eq_some_iff.mp hwithin]
  · intro hnode
    exact ⟨_, hnode, name, nameWithin?_eq_some_iff.mpr rfl, rfl, rfl⟩

theorem nodup_names (h : t.WellFormed) (directory : Place) :
    ((t.entries directory).map Prod.fst).Nodup := by
  have hnames : (t.entries directory).map Prod.fst =
      (t.nodes.map Prod.fst).filterMap (nameWithin? directory) := by
    rw [entries, List.map_filterMap, List.filterMap_map]
    congr 1
    funext node
    simp [Function.comp_def]
  rw [hnames]
  refine List.Nodup.filterMap (fun p p' name hp hp' => ?_) h.distinct
  rw [nameWithin?_eq_some_iff.mp hp, nameWithin?_eq_some_iff.mp hp']

theorem mem_entries_of_find? (hfind : t.find? (directory ++ [name]) = some node) :
    (name, node) ∈ t.entries directory := by
  rw [find?, if_neg (by simp), List.lookup_eq_some_iff] at hfind
  obtain ⟨before, after, hnodes, -⟩ := hfind
  rw [mem_entries_iff, hnodes]
  simp

theorem isName_of_mem_entries (h : t.WellFormed) (hentry : (name, node) ∈ t.entries directory) :
    IsName name :=
  h.named _ (List.mem_map_of_mem (mem_entries_iff.mp hentry)) name (by simp)

theorem find?_of_mem_entries (h : t.WellFormed) (hentry : (name, node) ∈ t.entries directory) :
    t.find? (directory ++ [name]) = some node := by
  obtain ⟨before, after, hnodes⟩ := List.append_of_mem (mem_entries_iff.mp hentry)
  have hdistinct := h.distinct
  rw [hnodes, List.map_append, List.map_cons] at hdistinct
  rw [find?, if_neg (by simp), List.lookup_eq_some_iff]
  refine ⟨before, after, hnodes, fun other hother => bne_iff_ne.mpr fun heq => ?_⟩
  exact (List.nodup_append.mp hdistinct).2.2 _ (List.mem_map_of_mem hother) _
    (List.mem_cons_self ..) heq.symm

/-! ## Removing one directory -/

theorem lookup_filter (keep : Place → Bool) (q : Place) (nodes : List (Place × Node)) :
    (nodes.filter fun entry => keep entry.1).lookup q =
      if keep q then nodes.lookup q else none := by
  induction nodes with
  | nil => simp
  | cons entry nodes ih =>
      obtain ⟨p, n⟩ := entry
      by_cases hq : q = p
      · subst hq
        cases hkeep : keep q
        · rw [List.filter_cons_of_neg (by simp [hkeep]), ih, hkeep]
          rfl
        · simp [hkeep]
      · cases hkeep : keep p
        · rw [List.filter_cons_of_neg (by simp [hkeep]), ih, List.lookup_cons, beq_false_of_ne hq]
        · rw [List.filter_cons_of_pos (by simpa using hkeep), List.lookup_cons, List.lookup_cons,
            beq_false_of_ne hq, ih]

/-- What is left at a place when everything under another place has gone. -/
theorem lookup_outside (t : Tree) (place q : Place) :
    (Tree.mk (t.nodes.filter fun (p, _) => !place.isPrefixOf p)).nodes.lookup q =
      if place <+: q then none else t.nodes.lookup q := by
  refine (lookup_filter (fun p => !place.isPrefixOf p) q t.nodes).trans ?_
  by_cases hunder : place <+: q
  · rw [if_pos hunder, if_neg (by simpa using hunder)]
  · rw [if_neg hunder, if_pos]
    rw [Bool.not_eq_true', Bool.eq_false_iff]
    exact mt List.isPrefixOf_iff_prefix.mp hunder

/-- Nothing in a directory leads back to it. -/
theorem not_prefix_self (directory : Place) (name : String) : ¬directory ++ [name] <+: directory := by
  intro hunder
  have hlength := hunder.length_le
  rw [List.length_append, List.length_singleton] at hlength
  omega

theorem find?_prune_within (h : place <+: q) (hplace : place ≠ []) (time : Int) :
    (t.prune place time).find? q = none := by
  have hq : q ≠ [] := by
    rintro rfl
    exact hplace (List.prefix_nil.mp h)
  rw [prune, find?, if_neg (by simpa using hq), lookup_touch, lookup_outside, if_pos h]
  rfl

theorem find?_prune_outside (h : ¬place <+: q) (hq : q ≠ place.dropLast) (time : Int) :
    (t.prune place time).find? q = t.find? q := by
  unfold find?
  split
  · rfl
  · rw [prune, lookup_touch, lookup_outside, if_neg h]
    cases t.nodes.lookup q with
    | none => rfl
    | some node => cases node <;> simp [hq]

theorem passable_prune_outside (h : ¬place <+: q) (time : Int) :
    (t.prune place time).passable q = t.passable q := by
  rw [prune, passable_touch]
  unfold passable find?
  by_cases hroot : q.isEmpty = true
  · rw [if_pos hroot, if_pos hroot]
  · rw [if_neg hroot, if_neg hroot, lookup_outside, if_neg h]

theorem entries_prune (t : Tree) (directory : Place) (name : String) (time : Int) :
    (t.prune (directory ++ [name]) time).entries directory =
      (t.entries directory).filter (·.1 ≠ name) := by
  rw [entries, entries, prune, touch, List.filterMap_map, List.filterMap_filter,
    List.filter_filterMap]
  congr 1
  funext (p, n)
  dsimp only [Function.comp]
  cases hwithin : nameWithin? directory p with
  | none => cases n <;> simp [hwithin]
  | some other =>
      obtain rfl := nameWithin?_eq_some_iff.mp hwithin
      have hunder : (directory ++ [name]).isPrefixOf (directory ++ [other]) = true ↔ other = name := by
        rw [List.isPrefixOf_iff_prefix, List.prefix_append_right_inj]
        simp [eq_comm]
      by_cases hother : other = name
      · subst hother
        have hgone := hunder.mpr rfl
        simp [Option.filter, hgone]
      · have hkept := Bool.eq_false_iff.mpr (mt hunder.mp hother)
        cases n <;> simp [Option.filter, hwithin, hother, hkept]

/-! ## Trees without some directories -/

/-- The one tree without those of a directory's entries that have been removed. -/
structure Without (t : Tree) (directory : Place) (removed : List String) (t' : Tree) : Prop where
  entries : t'.entries directory = (t.entries directory).filter (·.1 ∉ removed)
  gone : ∀ name ∈ removed, ∀ q, directory ++ [name] <+: q → t'.find? q = none
  stays : ∀ q, q ≠ directory → (∀ name ∈ removed, ¬directory ++ [name] <+: q) →
    t'.find? q = t.find? q
  passable : t'.passable directory = t.passable directory

theorem Without.refl (t : Tree) (directory : Place) : Without t directory [] t where
  entries := (List.filter_eq_self.mpr fun _ _ => by simp).symm
  gone := by simp
  stays _ _ _ := rfl
  passable := rfl

theorem Without.trans (h : Without t directory names t') (h' : Without t' directory removed t'') :
    Without t directory (names ++ removed) t'' where
  entries := by
    rw [h'.entries, h.entries, List.filter_filter]
    refine List.filter_congr fun entry _ => ?_
    simp [Bool.and_comm]
  gone name hname q hq := by
    have hne : q ≠ directory := by
      rintro rfl
      exact not_prefix_self q name hq
    by_cases hlater : ∃ other ∈ removed, directory ++ [other] <+: q
    · obtain ⟨other, hother, hunder⟩ := hlater
      exact h'.gone other hother q hunder
    · rw [h'.stays q hne fun other hother hunder => hlater ⟨other, hother, hunder⟩]
      rcases List.mem_append.mp hname with hname | hname
      · exact h.gone name hname q hq
      · exact absurd ⟨name, hname, hq⟩ hlater
  stays q hq hnone := by
    rw [h'.stays q hq fun name hname => hnone name (List.mem_append_right _ hname),
      h.stays q hq fun name hname => hnone name (List.mem_append_left _ hname)]
  passable := h'.passable.trans h.passable

theorem without_prune (t : Tree) (directory : Place) (name : String) (time : Int) :
    Without t directory [name] (t.prune (directory ++ [name]) time) where
  entries := by
    rw [entries_prune]
    simp
  gone other hother q hq := by
    cases List.mem_singleton.mp hother
    exact find?_prune_within hq (by simp) time
  stays q hq hnone := by
    refine find?_prune_outside (hnone name (List.mem_singleton_self name)) ?_ time
    rwa [List.dropLast_concat]
  passable := by
    exact passable_prune_outside (not_prefix_self directory name) time

/-! ## The way to the others -/

/-- Without parts that go up, a path leads further in with each part. -/
theorem prefix_of_follow {parts : List String} (habove : Path.above ∉ parts) {start : Place}
    (hfollow : t.follow start parts = .ok place) : start <+: place := by
  induction parts generalizing start with
  | nil =>
      cases hfollow
      exact List.prefix_rfl
  | cons part parts ih =>
      obtain ⟨-, -, hrest⟩ := follow_cons_ok_iff.mp hfollow
      rw [List.mem_cons, not_or] at habove
      have hstep : start <+: resolve start [part] := by
        simp only [resolve, List.foldl_cons, List.foldl_nil, if_neg (Ne.symm habove.1)]
        split
        · exact List.prefix_rfl
        · exact List.prefix_append ..
      exact hstep.trans (ih habove.2 hrest)

theorem follow_congr {parts : List String} (habove : Path.above ∉ parts)
    (hpassable : ∀ p, p <+: place → t'.passable p = t.passable p) {start : Place}
    (hfollow : t.follow start parts = .ok place) : t'.follow start parts = .ok place := by
  induction parts generalizing start with
  | nil => exact hfollow
  | cons part parts ih =>
      have hstart := prefix_of_follow habove hfollow
      obtain ⟨hopen, hshort, hrest⟩ := follow_cons_ok_iff.mp hfollow
      refine follow_cons_ok_iff.mpr ⟨(hpassable start hstart).trans hopen, hshort, ?_⟩
      exact ih (fun hmem => habove (List.mem_cons_of_mem _ hmem)) hrest

theorem locate_congr {path : String} (habove : Path.above ∉ (Path.ofText path).parts)
    (hpassable : ∀ p, p <+: place → t'.passable p = t.passable p)
    (hlocate : t.locate current path = .ok place) : t'.locate current path = .ok place := by
  obtain ⟨hpassed, hpath, hfollow⟩ := locate_ok_iff.mp hlocate
  exact locate_ok_iff.mpr ⟨hpassed, hpath, follow_congr habove hpassable hfollow⟩

/-! ## Paths within a directory -/

theorem holdsDirectory_iff {path : String} : t.holdsDirectory current path = true ↔
    ∃ place, t.locate current path = .ok place ∧ t.passable place = .ok () := by
  unfold holdsDirectory
  cases t.locate current path with
  | error fault => simp
  | ok place => simp [passable_iff]

theorem removeDirectory_error {path : String} (hnone : t.holdsDirectory current path = false)
    (time : Int) :
    ∃ fault, t.removeDirectory current path time = (.error fault, t) := by
  unfold holdsDirectory at hnone
  unfold removeDirectory
  cases hlocate : t.locate current path with
  | error fault => exact ⟨fault, rfl⟩
  | ok place =>
      rw [hlocate] at hnone
      unfold isDirectory at hnone
      cases hfind : t.find? place with
      | none => exact ⟨.notFound, by simp only [hfind]⟩
      | some node =>
          cases node with
          | file c => exact ⟨.notADirectory, by simp only [hfind]⟩
          | directory changed => simp [hfind] at hnone

/-- A directory in another one goes with all that is in it. -/
theorem removeDirectory_join {base : String} (hname : IsName name)
    (hheld : t.holdsDirectory current (Path.join base name) = true) :
    t.removeDirectory current (Path.join base name) time =
      (.ok (), t.prune (destination current base ++ [name]) time) := by
  obtain ⟨place, hlocate, hplace⟩ := holdsDirectory_iff.mp hheld
  obtain ⟨changed, hfind⟩ := exists_directory_of_passable hplace
  rw [removeDirectory, hlocate, ← destination_join hname, ← locate_destination hlocate]
  simp [hfind, Path.parts_join hname, removeAt, hname.ne_here, hname.ne_above]

/-- The others in the directory are found as before, unless the way to them goes through it. -/
theorem holdsDirectory_prune {base other : String} (habove : Path.above ∉ (Path.ofText base).parts)
    (hother : IsName other) (hne : other ≠ name)
    (hheld : t.holdsDirectory current (Path.join base other) = true) :
    (t.prune (destination current base ++ [name]) time).holdsDirectory current
      (Path.join base other) = true := by
  obtain ⟨place, hlocate, hplace⟩ := holdsDirectory_iff.mp hheld
  have hpassable : ∀ p, p <+: place →
      (t.prune (destination current base ++ [name]) time).passable p = t.passable p := by
    intro p hp
    refine passable_prune_outside (fun hunder => hne ?_) time
    rw [locate_destination hlocate, destination_join hother] at hp
    have hsame := (List.prefix_append_right_inj _).mp (hunder.trans hp)
    exact (List.cons_prefix_cons.mp hsame).1.symm
  have hparts : Path.above ∉ (Path.ofText (Path.join base other)).parts := by
    rw [Path.parts_join hother, List.mem_append, List.mem_singleton, not_or]
    exact ⟨habove, hother.ne_above.symm⟩
  refine holdsDirectory_iff.mpr ⟨place, locate_congr hparts hpassable hlocate, ?_⟩
  rw [hpassable place List.prefix_rfl, hplace]

end PageAudit.Files.Tree
