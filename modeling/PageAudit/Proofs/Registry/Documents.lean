import PageAudit.Proofs.Json.Decoding
import PageAudit.Proofs.Json.Reading
import PageAudit.Proofs.Number.Printing
import PageAudit.Registry.Catalogue

/-!
# Registries and their documents

An expectation that is not stated is left out of a page's document, and one that is stated is written
even where it is an empty list. So a registry is parsed from its document, compact or laid out, with
the very expectations that it had, and asks for the same checks.
-/

namespace PageAudit

open Json

/-! ## Pages -/

/-- A number of rows has room in a document. -/
def Page.Storable (p : Page) : Prop := ∀ rows ∈ p.minTableRows, rows < 2 ^ 64

theorem Check.Requirement.ofJson_toJson (r : Check.Requirement) :
    Check.Requirement.ofJson r.toJson = .ok r := by
  refine toVariant_label ?_ fun b _ h => ?_
  · cases r <;> decide
  · revert h
    cases b <;> cases r <;> decide

namespace Page

theorem ofJson_toJson {p : Page} (h : p.Storable) : Page.ofJson p.toJson = .ok p := by
  refine Fields.decode_bind (p.name, p.route, p.expectedTitle, p.expectedTexts, p.forbiddenTexts,
    p.successTexts, p.expectTable, p.minTableRows, p.textRequirement, ()) rfl ?_ (by simp)
  rw [← List.append_nil (Json.optional "textRequirement" _)]
  simp only [List.append_assoc, List.cons_append, List.nil_append]
  refine .required rfl ?_
  refine .required rfl ?_
  refine .optional (fun _ => Json.noConfusion) (fun _ _ => rfl) ?_
  refine .optional (fun _ => Json.noConfusion) (fun texts _ => toList_ofStrings texts) ?_
  refine .optional (fun _ => Json.noConfusion) (fun words _ => toList_ofStrings words) ?_
  refine .optional (fun _ => Json.noConfusion) (fun words _ => toList_ofStrings words) ?_
  refine .optional (fun _ => Json.noConfusion) (fun _ _ => rfl) ?_
  refine .optional (fun _ => Json.noConfusion) (fun rows hrows => toWord_ofNat (h rows hrows) _) ?_
  exact .optional (fun _ => Json.noConfusion) (fun r _ => r.ofJson_toJson) .nil

theorem printable (p : Page) : p.toJson.Printable := by
  have hstrings (items : List String) : (ofStrings items).Printable :=
    printable_map fun _ _ => trivial
  rw [toJson, printable_object]
  simp only [List.forall_mem_append, List.forall_mem_cons]
  refine ⟨⟨⟨⟨⟨⟨⟨⟨trivial, trivial, List.forall_mem_nil _⟩, ?_⟩, ?_⟩, ?_⟩, ?_⟩, ?_⟩, ?_⟩, ?_⟩
  · exact printable_optional fun _ _ => trivial
  · exact printable_optional fun texts _ => hstrings texts
  · exact printable_optional fun words _ => hstrings words
  · exact printable_optional fun words _ => hstrings words
  · exact printable_optional fun _ _ => trivial
  · exact printable_optional fun rows _ => printable_ofNat rows
  · exact printable_optional fun _ _ => trivial

end Page

/-! ## Modules -/

def Module.Storable (m : Module) : Prop := ∀ p ∈ m.pages, p.Storable

namespace Module

theorem ofJson_toJson {m : Module} (h : m.Storable) : Module.ofJson m.toJson = .ok m := by
  have hpages : toList Page.ofJson (array (m.pages.map Page.toJson)) = .ok m.pages :=
    toList_map fun p hp => Page.ofJson_toJson (h p hp)
  refine Fields.decode_bind (m.name, m.pages, ()) rfl ?_ (by simp)
  exact .required rfl (.defaulting hpages .nil)

theorem printable (m : Module) : m.toJson.Printable :=
  ⟨trivial, printable_map fun p _ => p.printable, trivial⟩

end Module

/-! ## Registries -/

namespace Registry

def Storable (r : Registry) : Prop := ∀ m ∈ r.modules, m.Storable

theorem ofJson_toJson {r : Registry} (h : r.Storable) : Registry.ofJson r.toJson = .ok r := by
  have hmodules : toList Module.ofJson (array (r.modules.map Module.toJson)) = .ok r.modules :=
    toList_map fun m hm => Module.ofJson_toJson (h m hm)
  refine Fields.decode_bind (r.modules, ()) rfl ?_ (by simp)
  exact .defaulting hmodules .nil

theorem printable (r : Registry) : r.toJson.Printable :=
  ⟨printable_map fun m _ => m.printable, trivial⟩

/-- A registry is parsed from either of its documents as it was, so the same pages are visited and
the same checks are made of them. -/
theorem parse_printed {r : Registry} {text : String} (h : r.Storable)
    (htext : text ∈ [r.toJson.compact, r.toJson.pretty]) :
    ∃ loaded, parse text = .ok loaded ∧ loaded = r ∧ loaded.pages = r.pages ∧
      loaded.size = r.size ∧ ∀ tolerance, loaded.pages.map (fun e => e.2.checks tolerance) =
        r.pages.map fun e => e.2.checks tolerance := by
  have hread : ofString? text = some r.toJson := by
    rcases List.mem_pair.mp htext with rfl | rfl
    · exact ofString?_compact r.printable
    · exact ofString?_pretty r.printable
  exact ⟨r, (decodeString_ok_iff hread).mpr (ofJson_toJson h), rfl, rfl, rfl, fun _ => rfl⟩

/-- Expectations that are empty lists, absent, or as large as they can be. -/
def emptyHanded : Registry :=
  ⟨[⟨"", []⟩, ⟨"data \"sets\"", [
    ⟨"\x00", "/a\\b", some " ", some [], some [], none, some false, some 18446744073709551615,
      some .all⟩,
    ⟨"🦀", "", none, none, none, some [], none, some 0, some .any⟩,
    .bare "" ""]⟩]⟩

theorem storable_emptyHanded : emptyHanded.Storable := by
  simp [emptyHanded, Storable, Module.Storable, Page.Storable, Page.bare]

theorem emptyHanded_parsed : emptyHanded.Storable ∧
    emptyHanded.toJson.pretty ∈ [emptyHanded.toJson.compact, emptyHanded.toJson.pretty] ∧
    parse emptyHanded.toJson.pretty = .ok emptyHanded := by
  have htext : emptyHanded.toJson.pretty ∈
      [emptyHanded.toJson.compact, emptyHanded.toJson.pretty] := List.mem_pair.mpr (.inr rfl)
  obtain ⟨loaded, hparse, hloaded, -⟩ := parse_printed storable_emptyHanded htext
  exact ⟨storable_emptyHanded, htext, hparse.trans (congrArg _ hloaded)⟩

end Registry

end PageAudit
