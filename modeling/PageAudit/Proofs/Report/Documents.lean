import PageAudit.Proofs.Json.Decoding
import PageAudit.Proofs.Json.Reading
import PageAudit.Proofs.Number.Printing
import PageAudit.Proofs.Time.Rereading
import PageAudit.Report.Format

/-!
# Reports and their documents

A report is read back from its document, compact or laid out, as it was, but for the rate of passed
pages: that is what the reader makes of the digits that are printed for it.
-/

namespace PageAudit

open Json

/-! ## What can be stored -/

structure PageResult.Storable (r : PageResult) : Prop where
  duration : r.durationMs < 2 ^ 64
  timestamp : r.timestamp.InFourDigits

structure Report.ModuleTotals.Storable (t : ModuleTotals) : Prop where
  total : t.total < 2 ^ 64
  passed : t.passed < 2 ^ 64
  failed : t.failed < 2 ^ 64

/-- What a report is made of has room in a document: its counts are words, its moments lie in years
of four digits, and it lists every module once. -/
structure Report.Storable (r : Report) : Prop where
  startTime : r.startTime.InFourDigits
  endTime : r.endTime.InFourDigits
  duration : r.totalDurationMs < 2 ^ 64
  total : r.totals.total < 2 ^ 64
  passed : r.totals.passed < 2 ^ 64
  failed : r.totals.failed < 2 ^ 64
  distinct : (r.byModule.map Prod.fst).Nodup
  modules : ∀ entry ∈ r.byModule, entry.2.Storable
  results : ∀ result ∈ r.results, result.Storable

/-! ## Decoding -/

theorem toMoment_text {m : Moment} (h : m.InFourDigits) : toMoment (.string m.text) = .ok m := by
  rw [toMoment, Moment.ofText_text h]

theorem Check.Kind.ofJson_toJson (k : Check.Kind) : Check.Kind.ofJson k.toJson = .ok k := by
  refine toVariant_label ?_ fun b _ h => ?_
  · cases k <;> decide
  · revert h
    cases b <;> cases k <;> decide

theorem Check.Outcome.ofJson_toJson (o : Check.Outcome) :
    Check.Outcome.ofJson o.toJson = .ok o := by
  refine Fields.decode_bind (o.kind, o.passed, o.message, o.snapshot, ()) rfl ?_ (by simp)
  rw [← List.append_nil (Json.optional _ _)]
  simp only [List.cons_append, List.nil_append]
  refine .required o.kind.ofJson_toJson ?_
  refine .required rfl ?_
  refine .required rfl ?_
  exact .optional (fun _ => Json.noConfusion) (fun _ _ => rfl) .nil

theorem PageResult.ofJson_toJson {r : PageResult} (h : r.Storable) :
    PageResult.ofJson r.toJson = .ok r := by
  have hchecks : toList Check.Outcome.ofJson (array (r.checks.map Check.Outcome.toJson)) =
      .ok r.checks := toList_map fun o _ => o.ofJson_toJson
  refine Fields.decode_bind (r.pageName, r.route, r.passed, r.checks, r.screenshot, r.error,
    r.durationMs, r.timestamp, ()) rfl ?_ (by simp)
  simp only [List.append_assoc, List.cons_append, List.nil_append]
  refine .required rfl ?_
  refine .required rfl ?_
  refine .required rfl ?_
  refine .required hchecks ?_
  refine .optional (fun _ => Json.noConfusion) (fun _ _ => rfl) ?_
  refine .optional (fun _ => Json.noConfusion) (fun _ _ => rfl) ?_
  refine .required (toWord_ofNat h.duration _) ?_
  exact .required (toMoment_text h.timestamp) .nil

namespace Report

theorem ModuleTotals.ofJson_toJson {t : ModuleTotals} (h : t.Storable) :
    ModuleTotals.ofJson t.toJson = .ok t := by
  refine Fields.decode_bind (t.total, t.passed, t.failed, ()) rfl ?_ (by simp)
  exact .required (toWord_ofNat h.total _) (.required (toWord_ofNat h.passed _)
    (.required (toWord_ofNat h.failed _) .nil))

theorem Environment.ofJson_toJson (e : Environment) : Environment.ofJson e.toJson = .ok e := by
  refine Fields.decode_bind (e.host, e.version, e.target, e.headless, e.skipServiceCheck,
    e.continueOnFailure, ()) rfl ?_ (by simp)
  exact .required rfl (.required rfl (.required rfl (.required rfl (.required rfl
    (.required rfl .nil)))))

theorem toDouble_ofDouble {x y : Double} (h : x.reread = some y) :
    toDouble (ofDouble x) = .ok y := by
  obtain ⟨n, hn, hread⟩ := Option.bind_eq_some_iff.mp h
  simp only [ofDouble, hn, toDouble, hread]

/-- A double that has no numeral, or one that is too large to be read, is refused. -/
theorem toDouble_refused {x : Double} (h : x.reread = none) :
    ∃ e, toDouble (ofDouble x) = .error e := by
  rw [Double.reread] at h
  cases hn : x.numeral? with
  | none => exact ⟨.wrongShape .null .real, by simp only [ofDouble, hn, toDouble]⟩
  | some n =>
      have hread : n.read = none := by simpa [hn] using h
      exact ⟨.wrongShape (number n) .real, by simp only [ofDouble, hn, toDouble, hread]⟩

/-- The totals with another rate. -/
def Totals.withRate (t : Totals) (rate : Double) : Totals := { t with passRate := rate }

theorem Totals.ofJson_toJson {t : Totals} {rate : Double} (htotal : t.total < 2 ^ 64)
    (hpassed : t.passed < 2 ^ 64) (hfailed : t.failed < 2 ^ 64)
    (hrate : t.passRate.reread = some rate) : Totals.ofJson t.toJson = .ok (t.withRate rate) := by
  refine Fields.decode_bind (t.total, t.passed, t.failed, rate, ()) rfl ?_ (by simp)
  exact .required (toWord_ofNat htotal _) (.required (toWord_ofNat hpassed _)
    (.required (toWord_ofNat hfailed _) (.required (toDouble_ofDouble hrate) .nil)))

theorem Totals.ofJson_refused {t : Totals} (htotal : t.total < 2 ^ 64) (hpassed : t.passed < 2 ^ 64)
    (hfailed : t.failed < 2 ^ 64) (hrate : t.passRate.reread = none) :
    ∃ e, Totals.ofJson t.toJson = .error e := by
  obtain ⟨e, hdecode⟩ := toDouble_refused hrate
  refine @Fields.Refused.decode_bind [Nat, Nat, Nat, Double] _ _ _ ?_ _ _
  refine .afterRequired (toWord_ofNat htotal _) (by simp) ?_
  refine .afterRequired (toWord_ofNat hpassed _) (by simp) ?_
  refine .afterRequired (toWord_ofNat hfailed _) (by simp) ?_
  exact .required hdecode

/-- The report with another rate of passed pages. -/
def withRate (r : Report) (rate : Double) : Report := { r with totals := r.totals.withRate rate }

theorem ofJson_toJson {r : Report} {rate : Double} (h : r.Storable)
    (hrate : r.totals.passRate.reread = some rate) :
    Report.ofJson r.toJson = .ok (r.withRate rate) := by
  have hmodules : toTable ModuleTotals.ofJson
      (object (r.byModule.map fun entry => (entry.1, entry.2.toJson))) = .ok r.byModule :=
    toTable_map h.distinct fun entry hentry => ModuleTotals.ofJson_toJson (h.modules entry hentry)
  have hresults : toList PageResult.ofJson (array (r.results.map PageResult.toJson)) =
      .ok r.results := toList_map fun result hmem => PageResult.ofJson_toJson (h.results result hmem)
  refine Fields.decode_bind (r.startTime, r.endTime, r.totalDurationMs, r.totals.withRate rate,
    r.byModule, r.results, r.environment, ()) rfl ?_ (by simp)
  refine .required (toMoment_text h.startTime) ?_
  refine .required (toMoment_text h.endTime) ?_
  refine .required (toWord_ofNat h.duration _) ?_
  refine .required (Totals.ofJson_toJson h.total h.passed h.failed hrate) ?_
  refine .required hmodules ?_
  refine .required hresults ?_
  exact .required r.environment.ofJson_toJson .nil

theorem ofJson_refused {r : Report} (h : r.Storable) (hrate : r.totals.passRate.reread = none) :
    ∃ e, Report.ofJson r.toJson = .error e := by
  obtain ⟨e, hdecode⟩ := Totals.ofJson_refused h.total h.passed h.failed hrate
  refine @Fields.Refused.decode_bind [Moment, Moment, Nat, Totals, List (String × ModuleTotals),
    List PageResult, Environment] _ _ _ ?_ _ _
  refine .afterRequired (toMoment_text h.startTime) (by simp) ?_
  refine .afterRequired (toMoment_text h.endTime) (by simp) ?_
  refine .afterRequired (toWord_ofNat h.duration _) (by simp) ?_
  exact .required hdecode

theorem ofJson_toJson_iff {r loaded : Report} (h : r.Storable) :
    Report.ofJson r.toJson = .ok loaded ↔
      ∃ rate, r.totals.passRate.reread = some rate ∧ loaded = r.withRate rate := by
  cases hrate : r.totals.passRate.reread with
  | none =>
      obtain ⟨e, hrefused⟩ := ofJson_refused h hrate
      simp [hrefused]
  | some rate => simp [ofJson_toJson h hrate, eq_comm]

end Report

/-! ## Printing -/

theorem Check.Outcome.printable (o : Check.Outcome) : o.toJson.Printable := by
  rw [toJson, printable_object, List.forall_mem_append]
  simp only [List.forall_mem_cons]
  exact ⟨⟨trivial, trivial, trivial, List.forall_mem_nil _⟩, printable_optional fun _ _ => trivial⟩

theorem PageResult.printable (r : PageResult) : r.toJson.Printable := by
  rw [toJson, printable_object]
  simp only [List.forall_mem_append, List.forall_mem_cons]
  refine ⟨⟨⟨?_, printable_optional fun _ _ => trivial⟩, printable_optional fun _ _ => trivial⟩, ?_⟩
  · exact ⟨trivial, trivial, trivial, printable_map fun o _ => o.printable, List.forall_mem_nil _⟩
  · exact ⟨printable_ofNat _, trivial, List.forall_mem_nil _⟩

namespace Report

theorem ModuleTotals.printable (t : ModuleTotals) : t.toJson.Printable :=
  ⟨printable_ofNat _, printable_ofNat _, printable_ofNat _, trivial⟩

theorem Totals.printable (t : Totals) : t.toJson.Printable :=
  ⟨printable_ofNat _, printable_ofNat _, printable_ofNat _, printable_ofDouble _, trivial⟩

theorem Environment.printable (e : Environment) : e.toJson.Printable :=
  ⟨trivial, trivial, trivial, trivial, trivial, trivial, trivial⟩

theorem printable (r : Report) : r.toJson.Printable := by
  have hmodules : (object (r.byModule.map fun entry => (entry.1, entry.2.toJson))).Printable :=
    printable_object.mpr (List.forall_mem_map.mpr fun entry _ => entry.2.printable)
  have hresults : (array (r.results.map PageResult.toJson)).Printable :=
    printable_map fun result _ => result.printable
  exact ⟨trivial, trivial, printable_ofNat _, r.totals.printable, hmodules, hresults,
    r.environment.printable, trivial⟩

/-! ## Parsing what was rendered -/

/-- A report is parsed from its document, compact or laid out, with the rate that the reader makes of
the printed one. -/
theorem parse_render {r : Report} {rate : Double} (h : r.Storable)
    (hrate : r.totals.passRate.reread = some rate) :
    parse (r.render .json) = .ok (r.withRate rate) ∧
      parse (r.render .jsonPretty) = .ok (r.withRate rate) :=
  ⟨(decodeString_ok_iff (ofString?_compact r.printable)).mpr (ofJson_toJson h hrate),
    (decodeString_ok_iff (ofString?_pretty r.printable)).mpr (ofJson_toJson h hrate)⟩

theorem ofString?_render {r : Report} {format : Format} (h : format ∈ [.json, .jsonPretty]) :
    ofString? (r.render format) = some r.toJson := by
  rcases List.mem_pair.mp h with rfl | rfl
  · exact ofString?_compact r.printable
  · exact ofString?_pretty r.printable

/-- Documents lose nothing: from either of its documents a report is parsed with everything as it was
but the rate of passed pages, and it is parsed exactly when the reader accepts the digits of that. -/
theorem parse_document_iff {r loaded : Report} {format : Format} (h : r.Storable)
    (hformat : format ∈ [.json, .jsonPretty]) :
    parse (r.render format) = .ok loaded ↔
      ∃ rate, r.totals.passRate.reread = some rate ∧ loaded = r.withRate rate := by
  rw [parse, decodeString_ok_iff (ofString?_render hformat)]
  exact ofJson_toJson_iff h

/-- A report that nobody built: its totals contradict each other and its modules, its moments are a
leap second and the epoch, and its texts are full of what has to be escaped. -/
def contradictory : Report where
  startTime :=
    ⟨(Date.of? 2016 12 31).get (by decide), 86399, 1123456789, by decide, by decide, by decide⟩
  endTime := .epoch
  totalDurationMs := 18446744073709551615
  totals := ⟨7, 20, 0, .percent 2 13⟩
  byModule := [("z\"\\", ⟨1, 2, 3⟩), ("", ⟨0, 0, 18446744073709551615⟩), ("a\n", ⟨0, 1, 0⟩)]
  results :=
    [⟨"\x00\x1f", "/é🦀", true, [⟨.title, false, "\t'<&>'", none⟩], none, some "", 0, .epoch⟩,
      ⟨"", "", false, [⟨.tableMinRows, true, "", some "\x7f"⟩], some "\\x", none, 1, .epoch⟩]
  environment := ⟨"", "\r\n", "null", true, false, true⟩

theorem storable_contradictory : contradictory.Storable where
  startTime := by constructor <;> decide
  endTime := by constructor <;> decide
  duration := by decide
  total := by decide
  passed := by decide
  failed := by decide
  distinct := by decide
  modules := by
    simp only [contradictory, List.forall_mem_cons]
    refine ⟨?_, ?_, ?_, List.forall_mem_nil _⟩ <;> constructor <;> decide
  results := by
    simp only [contradictory, List.forall_mem_cons]
    refine ⟨?_, ?_, List.forall_mem_nil _⟩
    all_goals exact ⟨by decide, by constructor <;> decide⟩

theorem contradictory_parsed : contradictory.Storable ∧
    contradictory.totals.passRate.reread = some (.num false (.ofPlace 4624850386568932430)) ∧
    ∀ format ∈ [Format.json, .jsonPretty], parse (contradictory.render format) =
      .ok (contradictory.withRate (.num false (.ofPlace 4624850386568932430))) := by
  have hrate : contradictory.totals.passRate.reread =
      some (.num false (.ofPlace 4624850386568932430)) := by decide +kernel
  refine ⟨storable_contradictory, hrate, fun format hformat => ?_⟩
  exact (parse_document_iff storable_contradictory hformat).mpr ⟨_, hrate, rfl⟩

end Report

end PageAudit
