import PageAudit.Files.Name
import PageAudit.Proofs.Files.Joining
import PageAudit.Proofs.Time.Stamps

/-!
# Names of screenshots

The name of a screenshot can be that of a file in a directory. It gives back the slug of the route
and the stamp, but of the route nothing more than the slug.
-/

namespace PageAudit.Files

open Text (Foreign)

/-! ## Stamps in names -/

/-- A stamp has three pieces, which are free of what no number and no time has. -/
theorem exists_pieces (m : Moment) :
    ∃ day clock milli : String, m.stamp = day ++ "_" ++ clock ++ "_" ++ milli ∧
      ∀ c, Foreign c → c ∉ day.toList ∧ c ∉ clock.toList ∧ c ∉ milli.toList := by
  refine ⟨Moment.yearText m.date.year ++ Moment.padded 2 m.date.month ++
      Moment.padded 2 m.date.day, Moment.padded 2 m.hour ++ Moment.padded 2 m.minute ++
      Moment.padded 2 m.secondOfMinute, Moment.padded 3 (m.nanoOfSecond / 1000000), ?_, ?_⟩
  · simp only [Moment.stamp, String.append_assoc]
  · intro c hc
    simp only [String.toList_append, List.mem_append, not_or]
    exact ⟨⟨⟨hc.notMem_yearText _, hc.notMem_padded _ _⟩, hc.notMem_padded _ _⟩,
      ⟨⟨hc.notMem_padded _ _, hc.notMem_padded _ _⟩, hc.notMem_padded _ _⟩, hc.notMem_padded _ _⟩

/-- A name with a stamp at its end gives back the stamp and what is before it. -/
theorem append_stamp_inj {s s' : String} {m m' : Moment}
    (h : s ++ "_" ++ m.stamp = s' ++ "_" ++ m'.stamp) : s = s' ∧ m.stamp = m'.stamp := by
  obtain ⟨day, clock, milli, hstamp, hfree⟩ := exists_pieces m
  obtain ⟨day', clock', milli', hstamp', hfree'⟩ := exists_pieces m'
  have hforeign : Foreign '_' := by decide
  obtain ⟨hday, hclock, hmilli⟩ := hfree '_' hforeign
  obtain ⟨hday', hclock', hmilli'⟩ := hfree' '_' hforeign
  have hcut {x x' y y' : String} (hy : '_' ∉ y.toList) (hy' : '_' ∉ y'.toList)
      (heq : x ++ "_" ++ y = x' ++ "_" ++ y') : x = x' ∧ y = y' := by
    have hchars := congrArg String.toList heq
    simp only [String.toList_append, List.append_assoc] at hchars
    obtain ⟨hx, hy⟩ := Text.append_cons_inj hy hy' hchars
    exact ⟨String.toList_inj.mp hx, String.toList_inj.mp hy⟩
  rw [hstamp, hstamp'] at h ⊢
  simp only [← String.append_assoc] at h ⊢
  obtain ⟨h, hmillis⟩ := hcut hmilli hmilli' h
  obtain ⟨h, hclocks⟩ := hcut hclock hclock' h
  obtain ⟨hs, hdays⟩ := hcut hday hday' h
  exact ⟨hs, by rw [hdays, hclocks, hmillis]⟩

/-! ## Screenshots -/

theorem isSafe_of_mem_sanitize {c : Char} {name : String} (h : c ∈ (sanitize name).toList) :
    isSafe c = true := by
  rw [sanitize, String.toList_ofList] at h
  obtain ⟨d, -, hd⟩ := List.mem_map.mp h
  split at hd
  · next hsafe => exact hd ▸ hsafe
  · rw [← hd]
    decide

theorem isSafe_of_mem_slug {c : Char} {route : String} (h : c ∈ (slug route).toList) :
    isSafe c = true := by
  have hroot : rootSlug.toList.all isSafe = true := by decide +kernel
  unfold slug at h
  dsimp only at h
  split at h
  · exact List.all_eq_true.mp hroot c h
  · exact isSafe_of_mem_sanitize h

theorem notMem_slug {c : Char} (hsafe : isSafe c = false) (route : String) :
    c ∉ (slug route).toList :=
  fun h => Bool.false_ne_true (hsafe.symm.trans (isSafe_of_mem_slug h))

/-- The name of a screenshot gives back the slug of its route and its stamp. -/
theorem screenshotName_inj {source route route' : String} {m m' : Moment}
    (h : screenshotName source route m.stamp = screenshotName source route' m'.stamp) :
    slug route = slug route' ∧ m.stamp = m'.stamp := by
  unfold screenshotName at h
  obtain ⟨hslug, hstamp⟩ := append_stamp_inj ((String.append_left_inj _).mp h)
  exact ⟨(String.append_right_inj _).mp hslug, hstamp⟩

theorem isName_screenshotName {source : String} (hsource : '/' ∉ source.toList) (route : String)
    (m : Moment) : IsName (screenshotName source route m.stamp) := by
  have hlong (s : String) (hs : s.length < 4) : screenshotName source route m.stamp ≠ s := by
    rintro rfl
    rw [screenshotName, String.length_append] at hs
    exact absurd hs (Nat.not_lt.mpr (Nat.le_add_left 4 _))
  refine ⟨hlong "" (by decide), ?_, hlong Path.here (by decide), hlong Path.above (by decide)⟩
  obtain ⟨day, clock, milli, hstamp, hfree⟩ := exists_pieces m
  obtain ⟨hday, hclock, hmilli⟩ := hfree '/' (by decide)
  have hslug := notMem_slug (c := '/') (by decide) route
  have hunderscore : '/' ∉ "_".toList := by decide
  have hend : '/' ∉ ".png".toList := by decide
  simp only [screenshotName, hstamp, String.toList_append, List.mem_append, not_or]
  exact ⟨⟨⟨⟨⟨hsource, hunderscore⟩, hslug⟩, hunderscore⟩,
    ⟨⟨⟨hday, hunderscore⟩, hclock⟩, hunderscore⟩, hmilli⟩, hend⟩

end PageAudit.Files
