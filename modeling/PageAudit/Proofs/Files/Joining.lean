import PageAudit.Files.Path
import PageAudit.Proofs.Files.Writing

/-!
# Files in one directory

The path of a file within a directory ends in the file's name, and so does the place that the path
leads to. So files of different names lie at different places, however the directory is spelled.
-/

namespace PageAudit

/-- Cutting a text is splitting its list of characters. -/
theorem Text.piecesAt_eq_splitOnP (p : Char → Bool) (cs : List Char) :
    piecesAt p cs = cs.splitOnP p := by
  induction cs with
  | nil => rw [List.splitOnP_nil]; rfl
  | cons c cs ih =>
      rw [piecesAt, List.splitOnP_cons_eq_if_modifyHead, ih]
      split
      · rfl
      · cases hcs : cs.splitOnP p with
        | nil => exact absurd hcs (List.splitOnP_ne_nil p cs)
        | cons piece more => rfl

namespace Files

/-- A name that a directory can list. -/
structure IsName (name : String) : Prop where
  ne_empty : name ≠ ""
  no_slash : '/' ∉ name.toList
  ne_here : name ≠ Path.here
  ne_above : name ≠ Path.above

instance (name : String) : Decidable (IsName name) :=
  decidable_of_iff (name ≠ "" ∧ '/' ∉ name.toList ∧ name ≠ Path.here ∧ name ≠ Path.above)
    ⟨fun h => ⟨h.1, h.2.1, h.2.2.1, h.2.2.2⟩, fun h => ⟨h.ne_empty, h.no_slash, h.ne_here, h.ne_above⟩⟩

namespace Path

/-- The parts that the characters of a path spell. -/
def partsOf (cs : List Char) : List String :=
  ((Text.piecesAt (· == '/') cs).filter (!·.isEmpty)).map String.ofList

theorem parts_ofText (s : String) : (ofText s).parts = partsOf s.toList := rfl

theorem partsOf_append (xs ys : List Char) : partsOf (xs ++ '/' :: ys) = partsOf xs ++ partsOf ys := by
  simp only [partsOf, Text.piecesAt_eq_splitOnP]
  rw [List.splitOnP_append_cons xs ys (by decide), List.filter_append, List.map_append]

theorem partsOf_name {name : String} (h : IsName name) : partsOf name.toList = [name] := by
  have hpieces : Text.piecesAt (· == '/') name.toList = [name.toList] := by
    rw [Text.piecesAt_eq_splitOnP]
    exact List.splitOnP_eq_singleton fun c hc => beq_false_of_ne fun heq => h.no_slash (heq ▸ hc)
  have hne : name.toList.isEmpty = false := by
    simpa [List.isEmpty_iff] using h.ne_empty
  simp [partsOf, hpieces, hne]

/-- A name is joined to the parts of a directory's path, with a slash or after its last one. -/
theorem parts_join {name : String} (h : IsName name) (directory : String) :
    (ofText (join directory name)).parts = (ofText directory).parts ++ [name] := by
  have hrelative : (ofText name).absolute = false := by
    refine beq_false_of_ne fun hslash => h.no_slash (List.mem_of_head? hslash)
  have hempty : partsOf [] = [] := rfl
  simp only [join, hrelative, parts_ofText, Bool.false_eq_true, if_false]
  split
  · next hend =>
      rw [String.toList_append]
      rcases Bool.or_eq_true_iff.mp hend with hdirectory | hclosed
      · rw [String.isEmpty_iff.mp hdirectory]
        exact partsOf_name h
      · -- the last slash ends the directory's path and begins nothing
        obtain ⟨xs, hxs⟩ := List.getLast?_eq_some_iff.mp (beq_iff_eq.mp hclosed)
        rw [hxs, List.append_assoc, List.singleton_append, partsOf_append, partsOf_name h,
          partsOf_append, hempty, List.append_nil]
  · rw [String.toList_append, String.toList_append, List.append_assoc]
    exact (partsOf_append _ _).trans (congrArg _ (partsOf_name h))

theorem fileName?_join {name : String} (h : IsName name) (directory : String) :
    fileName? (join directory name) = some name := by
  have hhere : isHere name = false := beq_false_of_ne h.ne_here
  rw [fileName?, parts_join h, List.reverse_concat,
    List.dropWhile_cons_of_neg (Bool.eq_false_iff.mp hhere)]
  exact if_neg h.ne_above

/-- Whether a path within a directory is absolute is decided by the directory's path. -/
theorem absolute_join {name : String} (h : IsName name) (directory : String) :
    (ofText (join directory name)).absolute = (ofText directory).absolute := by
  have hrelative : (ofText name).absolute = false := by
    refine beq_false_of_ne fun hslash => h.no_slash (List.mem_of_head? hslash)
  simp only [join, hrelative, Bool.false_eq_true, if_false]
  by_cases hempty : directory = ""
  · subst hempty
    exact hrelative
  · obtain ⟨c, cs, hcs⟩ := List.exists_cons_of_ne_nil
      (fun hnil => hempty (String.toList_eq_nil_iff.mp hnil))
    split <;> simp only [ofText, String.toList_append, hcs, List.cons_append, List.head?_cons]

end Path

namespace Tree

variable {t : Tree} {current place : Place}

/-- Where parts lead does not depend on what there is. -/
theorem follow_resolve {parts : List String} {start : Place}
    (hfollow : t.follow start parts = .ok place) : place = resolve start parts := by
  induction parts generalizing start with
  | nil =>
      cases hfollow
      rfl
  | cons part parts ih =>
      obtain ⟨-, -, hrest⟩ := follow_cons_ok_iff.mp hfollow
      exact ih hrest

theorem resolve_name {name : String} (h : IsName name) (start : Place) (parts : List String) :
    resolve start (parts ++ [name]) = resolve start parts ++ [name] := by
  simp only [resolve, List.foldl_append, List.foldl_cons, List.foldl_nil, if_neg h.ne_here,
    if_neg h.ne_above]

/-- The place that a path names, whether or not there is anything. -/
def destination (current : Place) (path : String) : Place :=
  resolve (origin current (.ofText path)) (Path.ofText path).parts

theorem destination_join {name : String} (h : IsName name) (current : Place) (directory : String) :
    destination current (Path.join directory name) = destination current directory ++ [name] := by
  rw [destination, Path.parts_join h, resolve_name h, origin, Path.absolute_join h]
  rfl

theorem locate_destination {path : String} (hlocate : t.locate current path = .ok place) :
    place = destination current path := by
  obtain ⟨-, -, hfollow⟩ := locate_ok_iff.mp hlocate
  exact follow_resolve hfollow

theorem locate_join {name directory : String} (h : IsName name)
    (hlocate : t.locate current (Path.join directory name) = .ok place) :
    place.getLast? = some name := by
  rw [locate_destination hlocate, destination_join h, List.getLast?_concat]

end Tree

end Files

end PageAudit
