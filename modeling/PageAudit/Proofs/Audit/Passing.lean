import PageAudit.Proofs.Audit.Crashes

/-!
# Pages that pass

If the recognition of a page completes, the page passes exactly when its expectations are met. The only
other thing that can come of it is a crash, over tables that state more rows than can be counted.
-/

namespace PageAudit.Audit

open Recognition (Result)

variable {W : Type} {eq : Equipment W} {o : Options} {page : Page} {s : State W}

/-- Once a page is open and captured and its recognition has completed, the program can only crash over
the rows of the tables. -/
theorem crash_iff_of_completes {w w₁ w₂ : W} {artifact : String} {x : Result}
    (hnav : eq.target.navigate page.route w = (.ok (), w₁))
    (hcap : eq.target.capture o.extent w₁ = (.ok artifact, w₂))
    (hskip : o.skipServiceCheck = false)
    (hrec : Completes o.limits.timeout (eq.recognizer.recognize artifact w₂).1 x) :
    Crash eq o page w ↔ page.wantsTable = true ∧ 2 ^ 64 ≤ x.totalRows := by
  refine ⟨fun h => ?_, fun ⟨hwants, hrows⟩ => .counting hnav hcap hskip hrec hwants hrows⟩
  cases h with
  | opening hnav' => cases hnav.symm.trans hnav'
  | capturing hnav' hcap' =>
      cases hnav.symm.trans hnav'
      cases hcap.symm.trans hcap'
  | counting hnav' hcap' _ hrec' hwants hrows =>
      cases hnav.symm.trans hnav'
      cases hcap.symm.trans hcap'
      cases hrec.outcome.symm.trans hrec'.outcome
      exact ⟨hwants, hrows⟩

/-- On a completed recognition the program crashes exactly if the page expects tables and those that
were recognized state too many rows for 64 bits. Otherwise the page passes exactly when its expectations
are met. -/
theorem validate_passed_iff_met (eq : Equipment W) (o : Options) (page : Page) (s : State W)
    {w₁ w₂ : W} {artifact : String} {x : Result}
    (hnav : eq.target.navigate page.route s.world = (.ok (), w₁))
    (hcap : eq.target.capture o.extent w₁ = (.ok artifact, w₂))
    (hskip : o.skipServiceCheck = false)
    (hrec : Completes o.limits.timeout (eq.recognizer.recognize artifact w₂).1 x) :
    ((validate? eq o page s).1 = none ↔ page.wantsTable = true ∧ 2 ^ 64 ≤ x.totalRows) ∧
    ∀ outcome, (validate? eq o page s).1 = some outcome →
      ∃ result, outcome = .ok result ∧ (result.passed = true ↔ page.Met o.tolerance x) := by
  refine ⟨validate?_eq_none_iff.trans (crash_iff_of_completes hnav hcap hskip hrec),
    fun outcome houtcome => ?_⟩
  obtain ⟨result, hok, hchecks, hpassed⟩ :=
    validate_of_captured hnav hcap hskip hrec.returned
  refine ⟨result, (validate?_eq_some houtcome).trans hok, ?_⟩
  have hfailed : x.isFailed = false := (completes_iff_returned.mp hrec).2
  rw [hpassed, hchecks, Page.allPassed_checks_iff hfailed]

theorem orders_passed :
    let page : Page := ⟨"Orders", "/orders", some "Order list", some ["Status", "Owner"],
      some [" "], some [], none, some 1, some .all⟩
    let found : Result := .completed "Order list: owner, status. Completed" .one
      [.ofCells ["Owner"] [["etl"]]]
    let eq := Equipment.constant "/shots/1.png" ⟨.ok found, .ofMillis 20⟩
    let o : Options := ⟨.viewport, false, Matching.defaultTolerance, ⟨.ofSeconds 30, false⟩⟩
    (eq.target.navigate page.route () = (.ok (), ()) ∧
      eq.target.capture o.extent () = (.ok "/shots/1.png", ()) ∧ o.skipServiceCheck = false ∧
      Completes o.limits.timeout (eq.recognizer.recognize "/shots/1.png" ()).1 found) ∧
      ∃ result, (validate? eq o page (.start ())).1 = some (.ok result) ∧ result.passed = true := by
  intro page found eq o
  have hrec : Completes o.limits.timeout (eq.recognizer.recognize "/shots/1.png" ()).1 found :=
    ⟨by unfold InTime; decide, rfl, rfl⟩
  have hwords : (∀ word ∈ Check.errorKeywords, ¬ Check.Occurs found word) ∧
      ∃ word ∈ Check.successKeywords, Check.Occurs found word := by
    simp only [Check.Occurs, ← Text.contains_iff]
    decide +kernel
  have hmet : page.Met o.tolerance found := by
    refine ⟨?_, ?_, ?_, ?_, Or.inr (Or.inr (by decide +kernel))⟩
    · rintro _ ⟨⟩
      exact Or.inr (by decide +kernel)
    · rintro _ ⟨⟩
      exact Or.inr (by decide +kernel)
    · rintro _ ⟨⟩
      refine ⟨hwords.1, fun word hw hb => ?_⟩
      rw [List.mem_singleton.mp hw] at hb
      exact absurd hb (by decide)
    · rintro _ ⟨⟩
      exact Or.inr ⟨by decide, hwords.2⟩
  obtain ⟨hcrash, hends⟩ := validate_passed_iff_met eq o page (.start ()) rfl rfl rfl hrec
  obtain ⟨outcome, houtcome⟩ : ∃ outcome, (validate? eq o page (.start ())).1 = some outcome :=
    Option.ne_none_iff_exists'.mp fun hnone => absurd (hcrash.mp hnone).2 (by decide)
  obtain ⟨result, rfl, hpassed⟩ := hends outcome houtcome
  exact ⟨⟨rfl, rfl, rfl, hrec⟩, result, houtcome, hpassed.mpr hmet⟩

/-- The program crashes where one row would be enough, as two tables state more rows together than can be
counted. -/
theorem met_page_crashes :
    let page := { Page.bare "Orders" "/orders" with minTableRows := some 1 }
    let table : Table := ⟨[], [], 2 ^ 63, 0⟩
    let found : Result := .completed "Orders" .one [table, table]
    let eq := Equipment.constant "/shots/1.png" ⟨.ok found, .zero⟩
    let o : Options := ⟨.full, false, Matching.defaultTolerance, ⟨.ofSeconds 30, false⟩⟩
    found.status = .completed ∧ page.Met o.tolerance found ∧
      (validate? eq o page (.start ())).1 = none := by
  intro page table found eq o
  refine ⟨rfl, ⟨?_, ?_, ?_, ?_, Or.inr (Or.inr ⟨?_, ?_⟩)⟩, ?_⟩
  · rintro _ ⟨⟩
  · rintro _ ⟨⟩
  · rintro _ ⟨⟩
  · rintro _ ⟨⟩
  · exact List.cons_ne_nil _ _
  · decide
  · have hrec : Completes o.limits.timeout (eq.recognizer.recognize "/shots/1.png" ()).1 found :=
      ⟨by unfold InTime; decide, rfl, rfl⟩
    have hcrash : Crash eq o page (State.start ()).world :=
      (crash_iff_of_completes rfl rfl rfl hrec).mpr ⟨rfl, by decide⟩
    exact validate?_eq_none_iff.mpr hcrash

end PageAudit.Audit
