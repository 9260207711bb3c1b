import PageAudit.Proofs.Files.Growth
import PageAudit.Report.Files

/-!
# Saved reports are found in their files

Every format of a report has a file of its own, and writing one of them leaves the others as they are.
So a saved report is loaded from the document that was printed for it.
-/

namespace PageAudit.Report

theorem Format.isName_fileName (format : Format) : Files.IsName format.fileName := by
  cases format <;> exact ⟨by decide, by decide, by decide, by decide⟩

/-- Each of the formats that were written is found in its file, and files of other names in the
directory are as they were. -/
theorem writeFormats_ok {r : Report} {directory : String} {formats : List Format} {h h' : Host}
    {paths : List String} (hwrite : r.writeFormats directory formats h = (.ok paths, h'))
    (hnames : (formats.map Format.fileName).Nodup) :
    (∀ format ∈ formats, h'.read (Files.Path.join directory format.fileName) =
        .ok (.text (r.render format))) ∧
      ∀ name c, Files.IsName name → name ∉ formats.map Format.fileName →
        h.read (Files.Path.join directory name) = .ok c →
        h'.read (Files.Path.join directory name) = .ok c := by
  induction formats generalizing h paths with
  | nil =>
      cases hwrite
      exact ⟨fun _ hmem => absurd hmem List.not_mem_nil, fun _ _ _ _ hread => hread⟩
  | cons format formats ih =>
      rw [List.map_cons, List.nodup_cons] at hnames
      unfold writeFormats at hwrite
      dsimp only at hwrite
      split at hwrite
      · cases hwrite
      next h₁ hfirst =>
        split at hwrite
        · cases hwrite
        next paths' h₂ hrest =>
          cases hwrite
          obtain ⟨hread, hkept⟩ := ih hrest hnames.2
          refine ⟨fun f hf => ?_, fun name c hname hnew hbefore => ?_⟩
          · rcases List.mem_cons.mp hf with rfl | hf
            · exact hkept _ _ f.isName_fileName hnames.1 (Host.write_read hfirst)
            · exact hread f hf
          · rw [List.map_cons, List.mem_cons, not_or] at hnew
            exact hkept name c hname hnew.2
              (Host.read_join hfirst format.isName_fileName hname hnew.1 hbefore)

/-- A saved report is found in each of its formats. -/
theorem read_save {r : Report} {directory : String} {h h' : Host} {paths : List String}
    (hsave : r.save directory h = (.ok paths, h')) (format : Format) (hformat : format ∈ Format.saved) :
    h'.read (Files.Path.join directory format.fileName) = .ok (.text (r.render format)) := by
  unfold save at hsave
  split at hsave
  · cases hsave
  · exact (writeFormats_ok hsave (by decide)).1 format hformat

/-- A saved report is loaded from its document. -/
theorem load_save {r : Report} {directory : String} {h h' : Host} {paths : List String}
    (hsave : r.save directory h = (.ok paths, h')) {loaded : Report}
    (hparse : parse (r.render .jsonPretty) = .ok loaded) :
    load (Files.Path.join directory Format.jsonPretty.fileName) h' = .ok loaded := by
  rw [load, Host.readText, read_save hsave .jsonPretty List.mem_cons_self]
  dsimp only [Files.Content.toText]
  rw [hparse]

end PageAudit.Report
