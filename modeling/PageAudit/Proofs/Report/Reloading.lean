import PageAudit.Proofs.Report.Aggregation
import PageAudit.Proofs.Report.Documents
import PageAudit.Proofs.Report.Saving

/-!
# What a saved report reloads as

Every format of a report is found in its own file, so a saved report is loaded from the document that
was printed for it. It comes back with everything but, sometimes, the last digit of the rate of passed
pages: the reader rounds twice, first the digits and then their quotient by a power of ten. The rates
of up to twelve pages survive that; of thirteen pages with two that passed the rate does not.
-/

namespace PageAudit

namespace Report

/-! ## Built reports -/

/-- The report of storable results can be stored. -/
theorem storable_build {results : List PageResult} {start stop : Moment}
    (hresults : ∀ result ∈ results, result.Storable) (hcount : results.length < 2 ^ 64)
    (hstart : start.InFourDigits) (hstop : stop.InFourDigits) (environment : Environment) :
    (build results start stop environment).Storable where
  startTime := hstart
  endTime := hstop
  duration := Moment.millisBetween_lt hstart hstop
  total := hcount
  passed := List.countP_le_length.trans_lt hcount
  failed := (Nat.sub_le _ _).trans_lt hcount
  distinct := (aggregates_build results start stop environment).distinct
  modules entry hentry := by
    change entry ∈ tally results at hentry
    rw [tally_eq] at hentry
    obtain ⟨m, -, rfl⟩ := List.mem_map.mp hentry
    exact ⟨List.countP_le_length.trans_lt hcount, List.countP_le_length.trans_lt hcount,
      List.countP_le_length.trans_lt hcount⟩
  results := hresults

/-- The rate of passed pages is always read back, though not always as itself. -/
theorem exists_reread_passRate {results : List PageResult} (hcount : results.length < 2 ^ 64) :
    ∃ rate, (totalsOf results).passRate.reread = some rate := by
  unfold totalsOf
  dsimp only
  split
  · exact ⟨.zero, by decide +kernel⟩
  · next hempty =>
      have hpos : 0 < results.length := List.length_pos_iff.mpr (by simpa using hempty)
      exact Double.exists_reread_percent List.countP_le_length hpos hcount

/-! ## Reloading -/

/-- What a report is read back as: from its document, compact or laid out, and from its file. -/
structure ReloadsAs (r loaded : Report) : Prop where
  compact : parse (r.render .json) = .ok loaded
  pretty : parse (r.render .jsonPretty) = .ok loaded
  saved {directory : String} {h h' : Host} {paths : List String} :
    r.save directory h = (.ok paths, h') →
    load (Files.Path.join directory Format.jsonPretty.fileName) h' = .ok loaded

theorem reloadsAs_withRate {r : Report} {rate : Double} (h : r.Storable)
    (hrate : r.totals.passRate.reread = some rate) : ReloadsAs r (r.withRate rate) where
  compact := (parse_render h hrate).1
  pretty := (parse_render h hrate).2
  saved hsave := load_save hsave (parse_render h hrate).2

theorem withRate_eq_iff {r : Report} {rate : Double} :
    r.withRate rate = r ↔ rate = r.totals.passRate := by
  constructor
  · intro h
    exact congrArg (fun r => r.totals.passRate) h
  · rintro rfl
    rfl

theorem ReloadsAs.unique {r loaded loaded' : Report} (h : ReloadsAs r loaded)
    (h' : ReloadsAs r loaded') : loaded = loaded' :=
  Except.ok.inj (h.compact.symm.trans h'.compact)

/-- The rates of up to twelve pages are read back as themselves. -/
theorem reread_percent : ∀ whole < 13, ∀ part ≤ whole, 0 < whole →
    (Double.percent part whole).reread = some (Double.percent part whole) := by
  decide +kernel

theorem reread_passRate {results : List PageResult} (hcount : results.length < 13) :
    (totalsOf results).passRate.reread = some (totalsOf results).passRate := by
  unfold totalsOf
  dsimp only
  split
  · decide +kernel
  · next hempty =>
      exact reread_percent _ hcount _ List.countP_le_length
        (List.length_pos_iff.mpr (by simpa using hempty))

/-- A built report reloads as itself, but for the rate of passed pages, which becomes what the reader
makes of its digits. It is kept in every report of up to twelve pages. -/
theorem build_reloads {results : List PageResult} {start stop : Moment}
    (hresults : ∀ result ∈ results, result.Storable) (hcount : results.length < 2 ^ 64)
    (hstart : start.InFourDigits) (hstop : stop.InFourDigits) (environment : Environment) :
    let r := build results start stop environment
    (∃ rate, r.totals.passRate.reread = some rate ∧ ReloadsAs r (r.withRate rate) ∧
      (ReloadsAs r r ↔ rate = r.totals.passRate)) ∧
    (results.length < 13 → ReloadsAs r r) := by
  intro r
  have hstorable : r.Storable := storable_build hresults hcount hstart hstop environment
  constructor
  · obtain ⟨rate, hrate⟩ := exists_reread_passRate hcount
    have hreloads : ReloadsAs r (r.withRate rate) := reloadsAs_withRate hstorable hrate
    refine ⟨rate, hrate, hreloads, fun hself => ?_, fun heq => ?_⟩
    · exact withRate_eq_iff.mp (hreloads.unique hself)
    · rwa [withRate_eq_iff.mpr heq] at hreloads
  · intro hsmall
    have hreloads : ReloadsAs r (r.withRate r.totals.passRate) :=
      reloadsAs_withRate hstorable (reread_passRate hsmall)
    rwa [withRate_eq_iff.mpr rfl] at hreloads

/-! ## Thirteen pages -/

def samplePage (passed : Bool) : PageResult := ⟨"Home", "/home", passed, [], none, none, 5, .epoch⟩

/-- A report of pages of which the given numbers passed and failed. -/
def sample (passed failed : Nat) : Report :=
  build (List.replicate passed (samplePage true) ++ List.replicate failed (samplePage false)) .epoch
    .epoch ⟨"ci", "0.1.0", "mock", true, true, true⟩

def emptyHost : Host where
  name := "ci"
  process := 1
  environment := []
  current := []
  files := .empty
  clock := id
  steps := 0
  calls := []
  programs := fun _ _ => .missing .notFound

theorem inFourDigits_epoch : Moment.epoch.InFourDigits := by
  constructor <;> decide

theorem storable_samplePage (passed : Bool) : (samplePage passed).Storable :=
  ⟨show 5 < 2 ^ 64 by decide, inFourDigits_epoch⟩

theorem storable_samplePages (passed failed : Nat) : ∀ result ∈
    List.replicate passed (samplePage true) ++ List.replicate failed (samplePage false),
    result.Storable := by
  intro result hresult
  rcases List.mem_append.mp hresult with hmem | hmem
  · exact (List.mem_replicate.mp hmem).2 ▸ storable_samplePage true
  · exact (List.mem_replicate.mp hmem).2 ▸ storable_samplePage false

/-- Two of three pages: the report can be saved, and is loaded as it was. -/
theorem two_of_three_reload : ReloadsAs (sample 2 1) (sample 2 1) ∧
    ∃ paths h, (sample 2 1).save "out" emptyHost = (.ok paths, h) ∧
      load (Files.Path.join "out" Format.jsonPretty.fileName) h = .ok (sample 2 1) := by
  have hreloads := (build_reloads (storable_samplePages 2 1) (by decide) inFourDigits_epoch
    inFourDigits_epoch ⟨"ci", "0.1.0", "mock", true, true, true⟩).2 (by decide)
  refine ⟨hreloads, ?_⟩
  have hsaved : ((sample 2 1).save "out" emptyHost).1.isOk = true := by decide +kernel
  rcases hsave : (sample 2 1).save "out" emptyHost with ⟨e | paths, h⟩
  · rw [hsave] at hsaved
    cases hsaved
  · exact ⟨paths, h, rfl, hreloads.saved hsave⟩

/-- Two of thirteen pages: 15.384615384615385 percent are read back as 15.384615384615383. -/
theorem two_of_thirteen_reload_less :
    ¬ReloadsAs (sample 2 11) (sample 2 11) ∧
      (Json.ofDouble (sample 2 11).totals.passRate).compact = "15.384615384615385" ∧
      ∃ rate, ReloadsAs (sample 2 11) ((sample 2 11).withRate rate) ∧
        (Json.ofDouble rate).compact = "15.384615384615383" := by
  have hstorable : (sample 2 11).Storable := storable_build (storable_samplePages 2 11) (by decide)
    inFourDigits_epoch inFourDigits_epoch _
  have hrate : (sample 2 11).totals.passRate.reread =
      some (.num false (.ofPlace 4624850386568932430)) := by decide +kernel
  have hreloads := reloadsAs_withRate hstorable hrate
  refine ⟨fun hself => ?_, by decide +kernel, _, hreloads, by decide +kernel⟩
  have hsame := withRate_eq_iff.mp (hreloads.unique hself)
  revert hsame
  decide +kernel

end Report

end PageAudit
