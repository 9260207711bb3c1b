import Mathlib.Data.List.Basic
import Mathlib.Data.List.TakeWhile
import PageAudit.Proofs.Text.Words
import PageAudit.Report.Summary

/-!
# The module of a route

A route belongs to the module that its first segment names. The segment is found in front of the query
and the fragment, behind whatever slashes there are, so only what stands there can change the module.
-/

namespace PageAudit

variable {cs : List Char}

namespace Text

variable {p : Char → Bool}

/-- The first piece ends at the first cut. -/
theorem exists_piecesAt (p : Char → Bool) (cs : List Char) :
    ∃ more, piecesAt p cs = cs.takeWhile (!p ·) :: more := by
  induction cs with
  | nil => exact ⟨[], rfl⟩
  | cons c cs ih =>
      obtain ⟨more, hmore⟩ := ih
      cases hc : p c with
      | true => exact ⟨piecesAt p cs, by simp [piecesAt, hc]⟩
      | false => exact ⟨more, by simp [piecesAt, hc, hmore]⟩

/-- What stands behind the first cuts, up to the next one. -/
def firstRun (p : Char → Bool) (cs : List Char) : List Char := (cs.dropWhile p).takeWhile (!p ·)

theorem find?_piecesAt (p : Char → Bool) (cs : List Char) :
    (piecesAt p cs).find? (!·.isEmpty) = if firstRun p cs = [] then none else some (firstRun p cs) := by
  induction cs with
  | nil => rfl
  | cons c cs ih =>
      cases hc : p c with
      | true => simpa [piecesAt, firstRun, hc] using ih
      | false =>
          obtain ⟨more, hmore⟩ := exists_piecesAt p cs
          simp [piecesAt, firstRun, hc, hmore]

/-- Nothing is taken beyond a character that ends the taking. -/
theorem takeWhile_append_cons {q : Char → Bool} {c : Char} (h : q c = false) (cs rest : List Char) :
    (cs ++ c :: rest).takeWhile q = cs.takeWhile q := by
  induction cs with
  | nil => simp [h]
  | cons d cs ih => cases hd : q d <;> simp [hd, ih]

/-- What follows a cut behind the first run does not matter. -/
theorem firstRun_append_cons {c : Char} (hcut : p c = true) (hrun : ∃ d ∈ cs, p d = false)
    (rest : List Char) : firstRun p (cs ++ c :: rest) = firstRun p cs := by
  obtain ⟨d, hd, hword⟩ := hrun
  have hsome : ¬(cs.dropWhile p).isEmpty = true := by
    rw [List.isEmpty_iff, List.dropWhile_eq_nil_iff]
    exact fun hall => absurd (hall d hd) (Bool.eq_false_iff.mp hword)
  rw [firstRun, List.dropWhile_append, if_neg hsome, takeWhile_append_cons (by rw [hcut]; rfl), firstRun]

end Text

namespace Report

/-! ## Paths and segments -/

/-- What a route has in front of its query and its fragment. -/
structure PathOf (route path : String) : Prop where
  cut : ∃ rest : String, route = path ++ rest ∧ ∀ c ∈ rest.toList.head?, c = '?' ∨ c = '#'
  no_query : '?' ∉ path.toList
  no_fragment : '#' ∉ path.toList

/-- A number of slashes. -/
def slashes (n : Nat) : String := String.ofList (List.replicate n '/')

/-- What a path is named by: the first of its longest parts without slashes, or `root` if there are
only slashes. -/
inductive NamedBy : String → String → Prop
  | segment {name rest : String} (n : Nat) (nonempty : name ≠ "") (plain : '/' ∉ name.toList)
      (ends : ∀ c ∈ rest.toList.head?, c = '/') : NamedBy (slashes n ++ name ++ rest) name
  | root (n : Nat) : NamedBy (slashes n) "root"

def isSlash (c : Char) : Bool := c == '/'

/-- Whether a character of a route belongs to its path. -/
def inPath (c : Char) : Bool := c != '?' && c != '#'

/-- What a path is named by, as the function that reads it. -/
def keyOf (path : List Char) : String :=
  if Text.firstRun isSlash path = [] then rootModule else String.ofList (Text.firstRun isSlash path)

theorem moduleKey_eq (route : String) : moduleKey route = keyOf (route.toList.takeWhile inPath) := by
  have hfind := Text.find?_piecesAt isSlash (route.toList.takeWhile inPath)
  unfold moduleKey keyOf
  dsimp only
  split
  · next segment h =>
      have hsome := hfind.symm.trans h
      split at hsome
      · cases hsome
      · next hne => rw [if_neg hne, Option.some.inj hsome]
  · next h =>
      have hnone := hfind.symm.trans h
      split at hnone
      · next hempty => rw [if_pos hempty]
      · cases hnone

variable {route path key : String}

/-! ## Reading agrees with the description -/

theorem PathOf.takeWhile (h : PathOf route path) : route.toList.takeWhile inPath = path.toList := by
  obtain ⟨rest, rfl, hrest⟩ := h.cut
  have hpath : ∀ c ∈ path.toList, inPath c = true := by
    intro c hc
    rw [inPath, Bool.and_eq_true, bne_iff_ne, bne_iff_ne]
    exact ⟨ne_of_mem_of_not_mem hc h.no_query, ne_of_mem_of_not_mem hc h.no_fragment⟩
  rw [String.toList_append, List.takeWhile_append_of_pos hpath]
  cases hcs : rest.toList with
  | nil => rw [List.takeWhile_nil, List.append_nil]
  | cons c cs =>
      have hend : inPath c = false := by
        rcases hrest c (by rw [hcs]; rfl) with rfl | rfl <;> decide
      rw [List.takeWhile_cons_of_neg (Bool.eq_false_iff.mp hend), List.append_nil]

theorem exists_pathOf (route : String) : ∃ path, PathOf route path := by
  refine ⟨String.ofList (route.toList.takeWhile inPath), ?_, ?_, ?_⟩
  · refine ⟨String.ofList (route.toList.dropWhile inPath), ?_, fun c hc => ?_⟩
    · rw [← String.ofList_append, List.takeWhile_append_dropWhile, String.ofList_toList]
    · rw [String.toList_ofList] at hc
      have hend := List.head?_dropWhile_not inPath route.toList
      rw [hc] at hend
      simpa [inPath, imp_iff_or_not, or_comm] using hend
  · rw [String.toList_ofList]
    exact fun hc => absurd (List.mem_takeWhile_imp hc) (by decide)
  · rw [String.toList_ofList]
    exact fun hc => absurd (List.mem_takeWhile_imp hc) (by decide)

theorem eq_of_mem_slashes {n : Nat} {c : Char} (h : c ∈ (slashes n).toList) : c = '/' := by
  rw [slashes, String.toList_ofList] at h
  exact List.eq_of_mem_replicate h

theorem firstRun_slashes (n : Nat) (cs : List Char) :
    Text.firstRun isSlash ((slashes n).toList ++ cs) = Text.firstRun isSlash cs := by
  have hslashes : ∀ c ∈ (slashes n).toList, isSlash c = true := fun c hc =>
    beq_iff_eq.mpr (eq_of_mem_slashes hc)
  rw [Text.firstRun, List.dropWhile_append_of_pos hslashes, ← Text.firstRun]

theorem NamedBy.keyOf (h : NamedBy path key) : keyOf path.toList = key := by
  cases h with
  | @segment _ rest n nonempty plain ends =>
      have hplain : ∀ c ∈ key.toList, isSlash c = false := fun c hc =>
        beq_false_of_ne (ne_of_mem_of_not_mem hc plain)
      have hrun : Text.firstRun isSlash (slashes n ++ key ++ rest).toList = key.toList := by
        obtain ⟨c, cs, hcs⟩ := List.exists_cons_of_ne_nil (mt String.toList_eq_nil_iff.mp nonempty)
        have hdrop : (key.toList ++ rest.toList).dropWhile isSlash =
            key.toList ++ rest.toList := by
          rw [hcs] at hplain ⊢
          exact List.dropWhile_cons_of_neg (Bool.eq_false_iff.mp (hplain c List.mem_cons_self))
        rw [String.toList_append, String.toList_append, List.append_assoc, firstRun_slashes,
          Text.firstRun, hdrop, List.takeWhile_append_of_pos fun c hc => by rw [hplain c hc]; rfl]
        cases hrest : rest.toList with
        | nil => rw [List.takeWhile_nil, List.append_nil]
        | cons c cs =>
            rw [ends c (by rw [hrest]; rfl), List.takeWhile_cons_of_neg (by decide), List.append_nil]
      rw [Report.keyOf, hrun, if_neg (mt String.toList_eq_nil_iff.mp nonempty), String.ofList_toList]
  | root n =>
      have hrun := firstRun_slashes n []
      rw [List.append_nil] at hrun
      rw [Report.keyOf, hrun]
      rfl

/-- What follows the slashes that begin a path. -/
theorem exists_slashes (path : String) :
    ∃ n rest, path = slashes n ++ rest ∧ ∀ c ∈ rest.toList.head?, c ≠ '/' := by
  refine ⟨(path.toList.takeWhile isSlash).length, String.ofList (path.toList.dropWhile isSlash), ?_,
    fun c hc => ?_⟩
  · have hslashes : path.toList.takeWhile isSlash =
        List.replicate (path.toList.takeWhile isSlash).length '/' :=
      List.eq_replicate_of_mem fun c hc => by simpa [isSlash] using List.mem_takeWhile_imp hc
    rw [slashes, ← hslashes, ← String.ofList_append, List.takeWhile_append_dropWhile,
      String.ofList_toList]
  · rw [String.toList_ofList] at hc
    have hstop := List.head?_dropWhile_not isSlash path.toList
    rw [hc] at hstop
    simpa [isSlash] using hstop

theorem exists_namedBy (path : String) : ∃ key, NamedBy path key := by
  obtain ⟨n, rest, rfl, hrest⟩ := exists_slashes path
  cases hcs : rest.toList with
  | nil =>
      rw [String.toList_eq_nil_iff.mp hcs, String.append_empty]
      exact ⟨"root", .root n⟩
  | cons c cs =>
      have hc : isSlash c = false := beq_false_of_ne (hrest c (by rw [hcs]; rfl))
      have hcut : rest = String.ofList (rest.toList.takeWhile (!isSlash ·)) ++
          String.ofList (rest.toList.dropWhile (!isSlash ·)) := by
        rw [← String.ofList_append, List.takeWhile_append_dropWhile, String.ofList_toList]
      rw [hcut, ← String.append_assoc]
      refine ⟨_, .segment n ?_ ?_ fun d hd => ?_⟩
      · rw [hcs, List.takeWhile_cons_of_pos (by rw [hc]; rfl)]
        exact mt String.toList_eq_nil_iff.mpr (by rw [String.toList_ofList]; exact List.cons_ne_nil _ _)
      · rw [String.toList_ofList]
        exact fun hmem => absurd (List.mem_takeWhile_imp hmem) (by decide)
      · rw [String.toList_ofList] at hd
        have hstop := List.head?_dropWhile_not (!isSlash ·) rest.toList
        rw [hd] at hstop
        simpa [isSlash] using hstop

theorem moduleKey_eq_iff : moduleKey route = key ↔ ∃ path, PathOf route path ∧ NamedBy path key := by
  constructor
  · rintro rfl
    obtain ⟨path, hpath⟩ := exists_pathOf route
    obtain ⟨key, hkey⟩ := exists_namedBy path
    rw [moduleKey_eq, hpath.takeWhile, hkey.keyOf]
    exact ⟨path, hpath, hkey⟩
  · rintro ⟨path, hpath, hkey⟩
    rw [moduleKey_eq, hpath.takeWhile, hkey.keyOf]

/-! ## Modules of longer routes -/

/-- The text can be the segment of a path. -/
structure IsSegment (key : String) : Prop where
  ne_empty : key ≠ ""
  no_slash : '/' ∉ key.toList
  no_query : '?' ∉ key.toList
  no_fragment : '#' ∉ key.toList

theorem isSegment_moduleKey (route : String) : IsSegment (moduleKey route) := by
  obtain ⟨path, hpath, hkey⟩ := moduleKey_eq_iff.mp (Eq.refl (moduleKey route))
  generalize moduleKey route = key at hkey
  cases hkey with
  | @segment _ rest n nonempty plain ends =>
      have hsub {c : Char} (hc : c ∈ key.toList) : c ∈ (slashes n ++ key ++ rest).toList := by
        simp only [String.toList_append, List.mem_append]
        exact .inl (.inr hc)
      exact ⟨nonempty, plain, fun hc => hpath.no_query (hsub hc),
        fun hc => hpath.no_fragment (hsub hc)⟩
  | root => exact ⟨by decide, by decide, by decide, by decide⟩

/-- A segment behind slashes names its own module. -/
theorem IsSegment.moduleKey (h : IsSegment key) (n : Nat) : moduleKey (slashes n ++ key) = key := by
  have hplain {c : Char} (hslash : c ≠ '/') (hkey : c ∉ key.toList) : c ∉ (slashes n ++ key).toList := by
    rw [String.toList_append]
    exact List.not_mem_append (fun hc => hslash (eq_of_mem_slashes hc)) hkey
  have hnamed := @NamedBy.segment key "" n h.ne_empty h.no_slash (by simp)
  rw [String.append_empty] at hnamed
  exact moduleKey_eq_iff.mpr ⟨_, ⟨⟨"", by simp, by simp⟩, hplain (by decide) h.no_query,
    hplain (by decide) h.no_fragment⟩, hnamed⟩

theorem moduleKey_slashes (n : Nat) (route : String) :
    moduleKey (slashes n ++ route) = moduleKey route := by
  have hpath : ∀ c ∈ (slashes n).toList, inPath c = true := fun c hc => by
    rw [eq_of_mem_slashes hc]
    decide
  rw [moduleKey_eq, moduleKey_eq, String.toList_append, List.takeWhile_append_of_pos hpath, keyOf,
    firstRun_slashes, keyOf]

theorem moduleKey_append_query {mark : Char} (hmark : mark ∈ ['?', '#']) (route rest : String) :
    moduleKey (route ++ String.singleton mark ++ rest) = moduleKey route := by
  have hend : inPath mark = false := by
    rcases List.mem_pair.mp hmark with rfl | rfl <;> decide
  rw [moduleKey_eq, moduleKey_eq, String.toList_append, String.toList_append, String.toList_singleton,
    List.append_assoc, List.singleton_append, Text.takeWhile_append_cons hend]

/-- What follows the slash behind a segment does not matter. -/
theorem moduleKey_append_slash (hsegment : ∃ c ∈ route.toList, c ≠ '/') (hquery : '?' ∉ route.toList)
    (hfragment : '#' ∉ route.toList) (rest : String) :
    moduleKey (route ++ "/" ++ rest) = moduleKey route := by
  have hpath : PathOf route route := ⟨⟨"", by simp, by simp⟩, hquery, hfragment⟩
  have hall : ∀ c ∈ route.toList, inPath c = true := List.takeWhile_eq_self_iff.mp hpath.takeWhile
  have hlonger : (route ++ "/" ++ rest).toList.takeWhile inPath =
      route.toList ++ '/' :: rest.toList.takeWhile inPath := by
    have hslash : "/".toList = ['/'] := rfl
    rw [String.toList_append, String.toList_append, hslash, List.append_assoc, List.singleton_append,
      List.takeWhile_append_of_pos hall, List.takeWhile_cons_of_pos (by decide)]
  have hword : ∃ c ∈ route.toList, isSlash c = false := by
    obtain ⟨c, hc, hword⟩ := hsegment
    exact ⟨c, hc, beq_false_of_ne hword⟩
  rw [moduleKey_eq, moduleKey_eq, hlonger, hpath.takeWhile, keyOf,
    Text.firstRun_append_cons (by decide) hword, keyOf]

/-- A route belongs to the module that the first segment of its path names, or to `root` if there is
none. This can be the segment of a path itself, and its module is itself. Slashes before the route, a
query or a fragment behind it and more segments behind its first one do not change it. -/
theorem module_of_first_segment (route : String) :
    (∀ key, moduleKey route = key ↔ ∃ path, PathOf route path ∧ NamedBy path key) ∧
    IsSegment (moduleKey route) ∧ moduleKey ("/" ++ moduleKey route) = moduleKey route ∧
    (∀ n, moduleKey (slashes n ++ route) = moduleKey route) ∧
    (∀ mark ∈ ['?', '#'], ∀ rest,
      moduleKey (route ++ String.singleton mark ++ rest) = moduleKey route) ∧
    ((∃ c ∈ route.toList, c ≠ '/') → '?' ∉ route.toList → '#' ∉ route.toList →
      ∀ rest, moduleKey (route ++ "/" ++ rest) = moduleKey route) :=
  ⟨fun _ => moduleKey_eq_iff, isSegment_moduleKey route, (isSegment_moduleKey route).moduleKey 1,
    fun n => moduleKey_slashes n route, fun _ hmark => moduleKey_append_query hmark route,
    moduleKey_append_slash⟩

example : moduleKey "//rules/archive?tab=/open" = "rules" := by decide

end Report

end PageAudit
