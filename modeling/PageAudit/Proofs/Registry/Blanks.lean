import Mathlib.Data.List.Forall2
import PageAudit.Proofs.Check.Matches
import PageAudit.Proofs.Registry.Expectations
import PageAudit.Proofs.Text.Casing

/-!
# Blank entries

A blank text asks for nothing. Among the words of a broken page and of success it is passed over, and
among the expected texts it counts as found, as every text does that has no words. So blank entries change
nothing about a page, except where one found text is enough: there the blank one is.
-/

namespace PageAudit

/-! ## Texts without words -/

theorem Text.words_of_blank {cs : List Char} (h : ∀ c ∈ cs, isBlank c = true) : words cs = [] := by
  rw [List.eq_nil_iff_forall_not_mem]
  intro word hword
  obtain ⟨c, hc⟩ := List.exists_mem_of_ne_nil word (mem_words_iff.mp hword).2
  have hblank := h c ((infix_of_mem_words hword).subset hc)
  rw [not_isBlank_of_mem_words hword c hc] at hblank
  cases hblank

/-- All words of a blank text are found, for it has none. -/
theorem Matching.isMatch_blank {sought : String} {tolerance : Double}
    (hblank : Text.isBlankText sought = true) (htolerance : tolerance ≠ .nan) (text : String) :
    isMatch text sought .partially tolerance = true := by
  have hwords : Text.words (Text.lower sought).toList = [] := by
    rw [Text.words_lower, Text.words_of_blank (List.all_eq_true.mp hblank), List.map_nil]
  have hratio : ratio text sought = .one := by
    rw [ratio, hwords]
    rfl
  rw [isMatch, Bool.or_eq_true, hratio]
  exact Or.inr (Double.clamp_spec htolerance).2

namespace Check

open Recognition (Result)

variable {r : Result} {enough : Prop} {c d : Spec} {xs ys : List String} {tolerance : Double}

/-! ## Lists with blank entries -/

/-- The second list is the first one with blank texts put in. -/
inductive WithBlanks : List String → List String → Prop
  | nil : WithBlanks [] []
  | keep (text : String) {xs ys : List String} : WithBlanks xs ys →
      WithBlanks (text :: xs) (text :: ys)
  | blank {text : String} {xs ys : List String} : Text.isBlankText text = true → WithBlanks xs ys →
      WithBlanks xs (text :: ys)

namespace WithBlanks

theorem sublist (h : WithBlanks xs ys) : xs.Sublist ys := by
  induction h with
  | nil => exact .slnil
  | keep _ _ ih => exact .cons_cons _ ih
  | blank _ _ ih => exact .cons _ ih

/-- What is not in the first list is blank. -/
theorem mem_or_blank (h : WithBlanks xs ys) {text : String} (htext : text ∈ ys) :
    text ∈ xs ∨ Text.isBlankText text = true := by
  induction h with
  | nil => cases htext
  | keep _ _ ih =>
      rcases List.mem_cons.mp htext with rfl | htext
      · exact Or.inl List.mem_cons_self
      · exact (ih htext).imp_left (List.mem_cons_of_mem _)
  | blank hblank _ ih =>
      rcases List.mem_cons.mp htext with rfl | htext
      · exact Or.inr hblank
      · exact ih htext

theorem mem_iff (h : WithBlanks xs ys) {text : String} (htext : Text.isBlankText text = false) :
    text ∈ ys ↔ text ∈ xs := by
  constructor
  · intro hys
    exact (h.mem_or_blank hys).resolve_right (by simp [htext])
  · exact fun hxs => h.sublist.subset hxs

theorem exists_blank (h : WithBlanks xs ys) (hne : ys ≠ xs) :
    ∃ text ∈ ys, Text.isBlankText text = true := by
  induction h with
  | nil => exact absurd rfl hne
  | keep text _ ih =>
      obtain ⟨found, hfound, hblank⟩ := ih fun heq => hne (heq ▸ rfl)
      exact ⟨found, List.mem_cons_of_mem _ hfound, hblank⟩
  | blank hblank _ _ => exact ⟨_, List.mem_cons_self, hblank⟩

/-! ## What the checks demand -/

theorem forbiddenTexts_holds_iff (h : WithBlanks xs ys) :
    (Spec.forbiddenTexts ys).Holds r ↔ (Spec.forbiddenTexts xs).Holds r := by
  refine and_congr_right fun _ => forall_congr' fun word => ?_
  constructor
  · intro hys hmem hblank
    exact hys ((h.mem_iff hblank).mpr hmem) hblank
  · intro hxs hmem hblank
    exact hxs ((h.mem_iff hblank).mp hmem) hblank

theorem successMessage_holds_iff (h : WithBlanks xs ys) :
    (Spec.successMessage ys).Holds r ↔ (Spec.successMessage xs).Holds r := by
  have hgiven : (∃ word ∈ ys, Text.isBlankText word = false ∧ Occurs r (normalize word)) ↔
      ∃ word ∈ xs, Text.isBlankText word = false ∧ Occurs r (normalize word) := by
    refine exists_congr fun word => and_congr_left fun hword => h.mem_iff hword.1
  have hnone : (∀ word ∈ ys, Text.isBlankText word = true) ↔
      ∀ word ∈ xs, Text.isBlankText word = true := by
    constructor
    · exact fun hys word hword => hys word (h.sublist.subset hword)
    · exact fun hxs word hword => (h.mem_or_blank hword).elim (hxs word) id
  rw [Spec.Holds, Spec.Holds, hgiven, hnone]

theorem allRequired_holds_iff (h : WithBlanks xs ys) (htolerance : tolerance = .nan → ys = xs) :
    (Spec.requiredTexts ys .all tolerance).Holds r ↔ (Spec.requiredTexts xs .all tolerance).Holds r := by
  constructor
  · exact fun hys text htext => hys text (h.sublist.subset htext)
  · intro hxs text htext
    rcases h.mem_or_blank htext with hmem | hblank
    · exact hxs text hmem
    · by_cases hnan : tolerance = .nan
      · exact hxs text (htolerance hnan ▸ htext)
      · exact Matching.isMatch_blank hblank hnan r.rawText

/-- Where one found text is enough, a blank one is. -/
theorem anyRequired_holds_iff (h : WithBlanks xs ys) (htolerance : tolerance = .nan → ys = xs) :
    (Spec.requiredTexts ys .any tolerance).Holds r ↔
      (Spec.requiredTexts xs .any tolerance).Holds r ∨ ys ≠ xs := by
  by_cases heq : ys = xs
  · simp [heq]
  · obtain ⟨text, htext, hblank⟩ := h.exists_blank heq
    have hfound := Matching.isMatch_blank hblank (mt htolerance heq) r.rawText
    exact ⟨fun _ => Or.inr heq, fun _ => Or.inr ⟨text, htext, hfound⟩⟩

end WithBlanks

/-! ## How two checks pass -/

/-- The second check is of the kind of the first one and passes where that passes. Besides, it passes if it
is one of required texts and something is enough for it. -/
structure PassesLike (r : Result) (enough : Prop) (c d : Spec) : Prop where
  kind : d.kind = c.kind
  passed : (evaluateOne r d).passed = true ↔
    (evaluateOne r c).passed = true ∨ c.kind = .requiredTexts ∧ enough

theorem passesLike_of_holds (hkind : d.kind = c.kind)
    (h : d.Holds r ↔ c.Holds r ∨ c.kind = .requiredTexts ∧ enough) : PassesLike r enough c d where
  kind := hkind
  passed := by
    cases hfailed : r.isFailed with
    | false => rw [passed_iff_holds hfailed, passed_iff_holds hfailed, h]
    | true =>
        rw [passed_of_failed hfailed, passed_of_failed hfailed, hkind]
        refine (or_iff_left_of_imp ?_).symm
        rintro ⟨hrequired, -⟩
        simp [hrequired]

theorem passesLike_of_kind (hkind : d.kind = c.kind) (hother : c.kind ≠ .requiredTexts)
    (h : d.Holds r ↔ c.Holds r) : PassesLike r enough c d := by
  refine passesLike_of_holds hkind (h.trans (or_iff_left_of_imp ?_).symm)
  exact fun hrequired => absurd hrequired.1 hother

theorem requiredTexts_passesLike (requirement : Requirement) (h : WithBlanks xs ys)
    (htolerance : tolerance = .nan → ys = xs) :
    PassesLike r (requirement ≠ .all ∧ ys ≠ xs) (.requiredTexts xs requirement tolerance)
      (.requiredTexts ys requirement tolerance) := by
  refine passesLike_of_holds rfl ?_
  cases requirement with
  | all => simp [h.allRequired_holds_iff htolerance]
  | any => simp [h.anyRequired_holds_iff htolerance, Spec.kind]

end Check

namespace Page

open Check (Spec Requirement WithBlanks PassesLike evaluate evaluateOne)
open Recognition (Result)

variable {p : Page} {r : Result} {tolerance : Double} {enough : Prop}
  {texts forbidden success : Option (List String)}

/-! ## The checks of a page -/

/-- The page with other lists of texts. -/
def withEntries (p : Page) (texts forbidden success : Option (List String)) : Page :=
  { p with expectedTexts := texts, forbiddenTexts := forbidden, successTexts := success }

/-- Checks other than those of required texts pass like themselves. -/
theorem forall₂_passesLike_self {checks : List Spec} (h : ∀ c ∈ checks, c.kind ≠ .requiredTexts) :
    List.Forall₂ (PassesLike r enough) checks checks :=
  List.forall₂_same.mpr fun c hc => Check.passesLike_of_kind rfl (h c hc) Iff.rfl

theorem textsCheck_passesLike (h : Option.Rel WithBlanks p.expectedTexts texts)
    (hsome : p.expectedTexts ≠ some []) (htolerance : tolerance = .nan → texts = p.expectedTexts) :
    List.Forall₂ (PassesLike r (p.textRequirement ≠ some .all ∧ texts ≠ p.expectedTexts))
      (p.textsCheck tolerance) ((p.withEntries texts forbidden success).textsCheck tolerance) := by
  unfold textsCheck withEntries
  dsimp only
  generalize p.expectedTexts = expected at h hsome htolerance ⊢
  cases h with
  | none => exact .nil
  | @some xs ys h =>
      have hrequirement : p.textRequirement.getD .default ≠ .all ↔ p.textRequirement ≠ some .all := by
        cases p.textRequirement <;> simp [Requirement.default]
      have hlike := Check.requiredTexts_passesLike (r := r) (p.textRequirement.getD .default) h
        fun hnan => Option.some.inj (htolerance hnan)
      rw [hrequirement, ← (Option.some_injective _).ne_iff (x := ys)] at hlike
      cases xs with
      | nil => exact absurd rfl hsome
      | cons x xs =>
          cases ys with
          | nil => cases h.sublist
          | cons y ys => exact .cons hlike .nil

theorem forbiddenCheck_passesLike (h : Option.Rel WithBlanks p.forbiddenTexts forbidden) :
    List.Forall₂ (PassesLike r enough) p.forbiddenCheck
      (p.withEntries texts forbidden success).forbiddenCheck := by
  unfold forbiddenCheck withEntries
  dsimp only
  generalize p.forbiddenTexts = expected at h ⊢
  cases h with
  | none => exact .nil
  | some h => exact .cons (Check.passesLike_of_kind rfl nofun h.forbiddenTexts_holds_iff) .nil

theorem successCheck_passesLike (h : Option.Rel WithBlanks p.successTexts success) :
    List.Forall₂ (PassesLike r enough) p.successCheck
      (p.withEntries texts forbidden success).successCheck := by
  unfold successCheck withEntries
  dsimp only
  generalize p.successTexts = expected at h ⊢
  cases h with
  | none => exact .nil
  | some h => exact .cons (Check.passesLike_of_kind rfl nofun h.successMessage_holds_iff) .nil

theorem checks_passLike (htexts : Option.Rel WithBlanks p.expectedTexts texts)
    (hforbidden : Option.Rel WithBlanks p.forbiddenTexts forbidden)
    (hsuccess : Option.Rel WithBlanks p.successTexts success) (hsome : p.expectedTexts ≠ some [])
    (htolerance : tolerance = .nan → texts = p.expectedTexts) :
    List.Forall₂ (PassesLike r (p.textRequirement ≠ some .all ∧ texts ≠ p.expectedTexts))
      (p.checks tolerance) ((p.withEntries texts forbidden success).checks tolerance) := by
  have htitle : ∀ c ∈ p.titleCheck tolerance, c.kind ≠ .requiredTexts := by
    intro c hc
    simp [kind_of_mem_titleCheck hc]
  have htable : ∀ c ∈ p.tableCheck, c.kind ≠ .requiredTexts := by
    intro c hc
    simp [kind_of_mem_tableCheck hc]
  exact List.rel_append (List.rel_append (List.rel_append (List.rel_append
    (forall₂_passesLike_self htitle) (textsCheck_passesLike htexts hsome htolerance))
    (forbiddenCheck_passesLike hforbidden)) (successCheck_passesLike hsuccess))
    (forall₂_passesLike_self htable)

/-! ## Verdicts -/

/-- Blank entries in its lists change neither which checks a page has nor which of them pass, whatever
was recognized; but where one of the expected texts is enough, a blank one among them is. The expected
texts must not be an empty list before, and if they get a blank entry, the tolerance is a number. -/
theorem checks_pass_over_blanks (p : Page) {texts forbidden success : Option (List String)}
    (htexts : Option.Rel WithBlanks p.expectedTexts texts)
    (hforbidden : Option.Rel WithBlanks p.forbiddenTexts forbidden)
    (hsuccess : Option.Rel WithBlanks p.successTexts success) (hsome : p.expectedTexts ≠ some [])
    (r : Result) (tolerance : Double) (htolerance : tolerance = .nan → texts = p.expectedTexts) :
    ((p.withEntries texts forbidden success).checks tolerance).map Spec.kind =
      (p.checks tolerance).map Spec.kind ∧
    List.Forall₂ (fun c d => (evaluateOne r d).passed = true ↔ (evaluateOne r c).passed = true ∨
        c.kind = .requiredTexts ∧ p.textRequirement ≠ some .all ∧ texts ≠ p.expectedTexts)
      (p.checks tolerance) ((p.withEntries texts forbidden success).checks tolerance) := by
  have hlike : List.Forall₂ (PassesLike r _) _ _ :=
    checks_passLike htexts hforbidden hsuccess hsome htolerance
  refine ⟨?_, hlike.imp fun _ _ h => h.passed⟩
  rw [← List.forall₂_eq_eq_eq, List.forall₂_map_left_iff, List.forall₂_map_right_iff]
  exact (hlike.imp fun _ _ h => h.kind).flip

/-- Where all of the expected texts are asked for, blank ones pass with the others. -/
theorem rules_missing_among_blanks :
    let p := (((bare "Datasets" "/datasets").withTexts ["Datasets", "Rules"]).requiring .all).forbidding
      ["quota"]
    let q := p.withEntries (some ["", "Datasets", " ", "Rules"]) (some ["\t", "quota", ""]) none
    let r := Result.completed "Datasets: 3 open" .one []
    (Option.Rel WithBlanks p.expectedTexts q.expectedTexts ∧
      Option.Rel WithBlanks p.forbiddenTexts q.forbiddenTexts ∧
      Option.Rel WithBlanks p.successTexts q.successTexts ∧ p.expectedTexts ≠ some [] ∧
      Matching.defaultTolerance ≠ .nan) ∧
    (q.checks Matching.defaultTolerance).map Spec.kind = [.requiredTexts, .forbiddenTexts] ∧
    List.Forall₂ (fun c d => (evaluateOne r d).passed = true ↔ (evaluateOne r c).passed = true)
      (p.checks Matching.defaultTolerance) (q.checks Matching.defaultTolerance) := by
  intro p q r
  have htexts : WithBlanks ["Datasets", "Rules"] ["", "Datasets", " ", "Rules"] :=
    .blank (by decide) (.keep _ (.blank (by decide) (.keep _ .nil)))
  have hforbidden : WithBlanks ["quota"] ["\t", "quota", ""] :=
    .blank (by decide) (.keep _ (.blank (by decide) .nil))
  have hsome : p.expectedTexts ≠ some [] := by decide
  have htolerance : Matching.defaultTolerance ≠ .nan := by decide +kernel
  obtain ⟨hkinds, hpassed⟩ := checks_pass_over_blanks p (.some htexts) (.some hforbidden) .none hsome r
    Matching.defaultTolerance fun hnan => absurd hnan htolerance
  refine ⟨⟨.some htexts, .some hforbidden, .none, hsome, htolerance⟩, hkinds, ?_⟩
  exact hpassed.imp fun c d h => h.trans (or_iff_left fun hany => hany.2.1 rfl)

/-- A page on which nothing that is expected was found passes with a blank text more. -/
theorem blank_text_is_enough :
    let p := (bare "Datasets" "/datasets").withTexts ["Datasets"]
    let q := p.withEntries (some ["Datasets", " "]) none none
    let r := Result.completed "Blank page" .one []
    WithBlanks ["Datasets"] ["Datasets", " "] ∧ Text.isBlankText "Datasets" = false ∧
      (evaluate r (p.checks Matching.defaultTolerance)).map Check.Outcome.passed = [false] ∧
      (evaluate r (q.checks Matching.defaultTolerance)).map Check.Outcome.passed = [true] := by
  refine ⟨.keep _ (.blank (by decide) .nil), by decide, ?_, ?_⟩ <;> decide +kernel

end Page

end PageAudit
