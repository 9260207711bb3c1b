import Mathlib.Data.List.Basic
import PageAudit.Report.Html

/-!
# Escaping and what undoes it

An escaped text holds no bracket and no quote, and every ampersand in it begins one of five entities.
Replacing entities by what they stand for, once and from the left, gives back every text that was
escaped, whatever follows it; characters that stand for themselves stay. Escaping is the same as
replacing the five characters everywhere, one after the other, if the ampersand comes first.
-/

namespace PageAudit.Report.Html

variable {c : Char} {cs : List Char}

theorem toList_escape (s : String) : (escape s).toList = s.toList.flatMap escapeChar := by
  simp [escape]

/-! ## Entities -/

/-- The characters that are escaped, with the entities that are written for them. -/
def entities : List (Char × String) :=
  [('&', "&amp;"), ('<', "&lt;"), ('>', "&gt;"), ('"', "&quot;"), ('\'', "&#39;")]

theorem ampersand_mem : ('&', "&amp;") ∈ entities := List.mem_cons_self

/-- A character is escaped as its entity, or stands for itself. -/
theorem escapeChar_cases (c : Char) :
    (∃ e ∈ entities, e.1 = c ∧ escapeChar c = e.2.toList) ∨
      (∀ e ∈ entities, e.1 ≠ c) ∧ escapeChar c = [c] := by
  unfold escapeChar
  split_ifs with hamp hlt hgt hquote happ
  · exact .inl ⟨('&', "&amp;"), by simp [entities], hamp.symm, rfl⟩
  · exact .inl ⟨('<', "&lt;"), by simp [entities], hlt.symm, rfl⟩
  · exact .inl ⟨('>', "&gt;"), by simp [entities], hgt.symm, rfl⟩
  · exact .inl ⟨('"', "&quot;"), by simp [entities], hquote.symm, rfl⟩
  · exact .inl ⟨('\'', "&#39;"), by simp [entities], happ.symm, rfl⟩
  · refine .inr ⟨?_, rfl⟩
    simpa [entities, eq_comm] using ⟨hamp, hlt, hgt, hquote, happ⟩

/-- An entity is an ampersand and characters that are never escaped. -/
theorem exists_entity_tail {e : Char × String} (he : e ∈ entities) :
    ∃ tail, e.2.toList = '&' :: tail ∧ ∀ e' ∈ entities, e'.1 ∉ tail := by
  have hall : ∀ e ∈ entities, e.2.toList = '&' :: e.2.toList.tail ∧
      ∀ e' ∈ entities, e'.1 ∉ e.2.toList.tail := by decide
  exact ⟨_, (hall e he).1, (hall e he).2⟩

/-! ## What is left in an escaped text -/

/-- Of the characters that are escaped only the ampersand is left. -/
theorem eq_ampersand_of_mem {e : Char × String} (he : e ∈ entities) (h : e.1 ∈ cs.flatMap escapeChar) :
    e.1 = '&' := by
  obtain ⟨c, -, hc⟩ := List.mem_flatMap.mp h
  rcases escapeChar_cases c with ⟨e', he', -, hescaped⟩ | ⟨hplain, hescaped⟩
  · obtain ⟨tail, htail, hfree⟩ := exists_entity_tail he'
    rw [hescaped, htail] at hc
    exact (List.mem_cons.mp hc).resolve_right (hfree e he)
  · rw [hescaped, List.mem_singleton] at hc
    exact absurd hc (hplain e he)

/-- An escaped text holds no character that is escaped but the ampersand. -/
theorem ne_of_mem_escape {s : String} (h : c ∈ (escape s).toList) {e : Char × String}
    (he : e ∈ entities) (hamp : e.1 ≠ '&') : c ≠ e.1 := by
  rintro rfl
  rw [toList_escape] at h
  exact hamp (eq_ampersand_of_mem he h)

theorem notMem_escape (s : String) : '<' ∉ (escape s).toList := fun h =>
  @ne_of_mem_escape _ s h ('<', "&lt;") (by simp [entities]) (by decide) rfl

/-- An ampersand of an escaped text is that of an entity. -/
theorem entity_at_ampersand {before after : List Char}
    (h : cs.flatMap escapeChar = before ++ '&' :: after) :
    ∃ e ∈ entities, e.2.toList <+: '&' :: after := by
  induction cs generalizing before with
  | nil => simp at h
  | cons c cs ih =>
      rw [List.flatMap_cons] at h
      rcases List.append_eq_append_iff.mp h with ⟨more, -, hrest⟩ | ⟨more, hchar, hrest⟩
      · exact ih hrest
      cases more with
      | nil => exact @ih [] hrest.symm
      | cons d more =>
          -- the ampersand is in what is written for the first character
          obtain ⟨rfl, rfl⟩ := List.cons.inj hrest
          rcases escapeChar_cases c with ⟨e, he, -, hescaped⟩ | ⟨hplain, hescaped⟩
          · obtain ⟨tail, htail, hfree⟩ := exists_entity_tail he
            rw [hescaped, htail] at hchar
            cases before with
            | nil =>
                refine ⟨e, he, ?_⟩
                rw [htail, hchar]
                exact List.prefix_append _ _
            | cons b before =>
                refine absurd ?_ (hfree ('&', "&amp;") ampersand_mem)
                rw [(List.cons.inj hchar).2]
                exact List.mem_append_right _ List.mem_cons_self
          · have hself : '&' ∈ [c] := by
              rw [← hescaped, hchar]
              exact List.mem_append_right _ List.mem_cons_self
            exact absurd (List.mem_singleton.mp hself) (hplain ('&', "&amp;") ampersand_mem)

/-! ## Replacing entities -/

/-- The text with every entity replaced by the character that it stands for. -/
def unescape : List Char → List Char
  | '&' :: 'a' :: 'm' :: 'p' :: ';' :: rest => '&' :: unescape rest
  | '&' :: 'l' :: 't' :: ';' :: rest => '<' :: unescape rest
  | '&' :: 'g' :: 't' :: ';' :: rest => '>' :: unescape rest
  | '&' :: 'q' :: 'u' :: 'o' :: 't' :: ';' :: rest => '"' :: unescape rest
  | '&' :: '#' :: '3' :: '9' :: ';' :: rest => '\'' :: unescape rest
  | c :: rest => c :: unescape rest
  | [] => []

@[simp] theorem unescape_nil : unescape [] = [] := rfl

theorem unescape_cons {c : Char} (h : c ≠ '&') (rest : List Char) :
    unescape (c :: rest) = c :: unescape rest := by
  rw [unescape.eq_def]
  split <;> simp_all

theorem unescape_entity {e : Char × String} (he : e ∈ entities) (rest : List Char) :
    unescape (e.2.toList ++ rest) = e.1 :: unescape rest := by
  simp only [entities, List.mem_cons, List.not_mem_nil, or_false] at he
  rcases he with rfl | rfl | rfl | rfl | rfl <;> rfl

theorem unescape_escapeChar (c : Char) (rest : List Char) :
    unescape (escapeChar c ++ rest) = c :: unescape rest := by
  rcases escapeChar_cases c with ⟨e, he, rfl, hescaped⟩ | ⟨hplain, hescaped⟩
  · rw [hescaped, unescape_entity he]
  · rw [hescaped, List.singleton_append,
      unescape_cons (hplain ('&', "&amp;") ampersand_mem).symm]

theorem unescape_escaped (cs rest : List Char) :
    unescape (cs.flatMap escapeChar ++ rest) = cs ++ unescape rest := by
  induction cs with
  | nil => rfl
  | cons c cs ih => rw [List.flatMap_cons, List.append_assoc, unescape_escapeChar, ih, List.cons_append]

theorem unescape_plain {cs : List Char} (h : '&' ∉ cs) (rest : List Char) :
    unescape (cs ++ rest) = cs ++ unescape rest := by
  induction cs with
  | nil => rfl
  | cons c cs ih =>
      rw [List.mem_cons, not_or] at h
      rw [List.cons_append, unescape_cons (Ne.symm h.1), ih h.2, List.cons_append]

theorem unescape_escape (s : String) : unescape (escape s).toList = s.toList := by
  rw [toList_escape, ← List.append_nil (List.flatMap _ _), unescape_escaped, unescape_nil,
    List.append_nil]

theorem escape_injective : Function.Injective escape := fun s t h => by
  rw [← String.toList_inj, ← unescape_escape s, h, unescape_escape]

/-! ## One replacement after the other -/

/-- The text with every place of a character replaced. -/
def replaceAll (c : Char) (entity : String) (cs : List Char) : List Char :=
  cs.flatMap fun d => if d = c then entity.toList else [d]

/-- The text with all places of one character replaced after those of the other. -/
def replaceInTurn (replacements : List (Char × String)) (cs : List Char) : List Char :=
  replacements.foldl (fun cs e => replaceAll e.1 e.2 cs) cs

/-- What becomes of a text is what becomes of its characters. -/
theorem replaceInTurn_flatMap (replacements : List (Char × String)) (f : Char → List Char) :
    replaceInTurn replacements (cs.flatMap f) = cs.flatMap fun c => replaceInTurn replacements (f c) := by
  induction replacements generalizing f with
  | nil => rfl
  | cons e replacements ih =>
      rw [replaceInTurn, List.foldl_cons, replaceAll, List.flatMap_assoc]
      exact ih _

theorem replaceInTurn_of_ne {replacements : List (Char × String)}
    (h : ∀ e ∈ replacements, e.1 ≠ c) : replaceInTurn replacements [c] = [c] := by
  induction replacements with
  | nil => rfl
  | cons e replacements ih =>
      rw [List.forall_mem_cons] at h
      have hkept : replaceAll e.1 e.2 [c] = [c] := by simp [replaceAll, h.1.symm]
      rw [replaceInTurn, List.foldl_cons, hkept]
      exact ih h.2

theorem replaceInTurn_singleton (c : Char) : replaceInTurn entities [c] = escapeChar c := by
  have hall : ∀ e ∈ entities, replaceInTurn entities [e.1] = e.2.toList := by decide
  rcases escapeChar_cases c with ⟨e, he, rfl, hescaped⟩ | ⟨hplain, hescaped⟩
  · rw [hescaped, hall e he]
  · rw [hescaped, replaceInTurn_of_ne hplain]

theorem escape_eq_replaceInTurn (s : String) :
    (escape s).toList = replaceInTurn entities s.toList := by
  have hturn := @replaceInTurn_flatMap s.toList entities ([·])
  rw [List.flatMap_singleton'] at hturn
  rw [hturn, toList_escape]
  exact congrArg (List.flatMap · s.toList) (funext fun c => (replaceInTurn_singleton c).symm)

/-- An escaped text holds no bracket and no quote, and an ampersand only where an entity begins. It gives
back the text, by replacing its entities once from the left. Parts of a text are escaped one by one, and
the five characters of a text may be replaced one after the other. -/
theorem escape_reversible (s t : String) :
    (∀ c ∈ (escape s).toList, c ≠ '<' ∧ c ≠ '>' ∧ c ≠ '"' ∧ c ≠ '\'') ∧
    (∀ before after, (escape s).toList = before ++ '&' :: after →
      ∃ e ∈ entities, e.2.toList <+: '&' :: after) ∧
    unescape (escape s).toList = s.toList ∧ (escape s = escape t → s = t) ∧
    escape (s ++ t) = escape s ++ escape t ∧
    (escape s).toList = replaceInTurn entities s.toList := by
  refine ⟨?_, ?_, unescape_escape s, fun h => escape_injective h, ?_, escape_eq_replaceInTurn s⟩
  · intro c hc
    have hgone {e : Char × String} (he : e ∈ entities) := ne_of_mem_escape hc he
    exact ⟨@hgone ('<', "&lt;") (by simp [entities]) (by decide),
      @hgone ('>', "&gt;") (by simp [entities]) (by decide),
      @hgone ('"', "&quot;") (by simp [entities]) (by decide),
      @hgone ('\'', "&#39;") (by simp [entities]) (by decide)⟩
  · intro before after h
    exact entity_at_ampersand (toList_escape s ▸ h)
  · rw [← String.toList_inj, String.toList_append]
    simp only [toList_escape, String.toList_append, List.flatMap_append]

end PageAudit.Report.Html
