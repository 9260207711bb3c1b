import PageAudit.CommandLine.Run
import PageAudit.Proofs.Audit.Crashes
import PageAudit.Proofs.Capture.Pictures

/-!
# The directories of a session stay

From the beginning of a session to its end nothing takes a directory away: neither what is written
and captured nor what programs do meanwhile. So the pictures of a session can be counted in the end.
-/

namespace PageAudit

open Host (Grew)

/-! ## Asking programs -/

namespace Recognition.Service

theorem recognize_grew (s : Service) (artifact : String) (h : Host) :
    Grew h (s.recognize artifact h).2 := by
  unfold recognize
  split
  · exact .refl h
  · exact Host.call_grew rfl

theorem isReachable_grew (endpoint : String) (seconds : Nat) (h : Host) :
    Grew h (isReachable endpoint seconds h).2 := by
  unfold isReachable
  split
  · next hcall => exact Host.call_grew hcall
  · next hcall => exact Host.call_grew hcall

end Recognition.Service

/-! ## Reports -/

namespace Report

theorem writeFormats_grew (r : Report) (directory : String) (formats : List Format) (h : Host) :
    Grew h (r.writeFormats directory formats h).2 := by
  induction formats generalizing h with
  | nil => exact .refl h
  | cons format formats ih =>
      unfold writeFormats
      dsimp only
      split
      · next hwrite => exact Host.write_grew hwrite
      next written hwrite =>
        have hrest := ih written
        split
        · next hformats =>
            rw [hformats] at hrest
            exact (Host.write_grew hwrite).trans hrest
        · next hformats =>
            rw [hformats] at hrest
            exact (Host.write_grew hwrite).trans hrest

theorem save_grew (r : Report) (directory : String) (h : Host) :
    Grew h (r.save directory h).2 := by
  unfold save
  split
  · next hmade => exact Host.createDirectories_grew hmade
  · next hmade => exact (Host.createDirectories_grew hmade).trans (writeFormats_grew ..)

end Report

/-! ## Audits -/

namespace CommandLine

open Audit (State)
open Capture (Browser Drawn Scene Target)
open Recognition (Service)

theorem probeService_grew (a : RunArguments) (h : Host) : Grew h (probeService a h) := by
  unfold probeService
  split
  · exact .refl h
  · exact Service.isReachable_grew ..

variable {S : Type} {target : Target (Scene S)}

/-- If no capture takes a directory away, and navigation has nothing to do with the machine, nothing
that an audit does takes one away. -/
theorem equipmentOn_keeps (service : Service) (h : Host)
    (hnavigate : ∀ route w, (target.navigate route w).2.host = w.host)
    (hcapture : ∀ extent w, Grew w.host (target.capture extent w).2.host) :
    (equipmentOn target service).Keeps fun w => Grew h w.host := by
  refine ⟨fun route w hw => ?_, fun extent w hw => ?_, fun artifact w hw => ?_⟩
  · exact (hnavigate route w).symm ▸ hw
  · exact hw.trans (hcapture extent w)
  · exact hw.trans (Service.recognize_grew ..)

theorem auditPages_grew (surface : S) (a : RunArguments) (pages : List Page) (h : Host)
    (hkeeps : (equipmentOn target (serviceOf a h)).Keeps fun w => Grew h w.host) :
    Grew h (auditPages target surface a pages h).2 := by
  have hstart : Grew h (State.start (⟨surface, h⟩ : Scene S)).world.host := .refl h
  exact hkeeps.runPages? a.policy (optionsOf a) pages hstart

theorem browser_keeps (b : Browser) (service : Service) (h : Host) :
    (equipmentOn b.target service).Keeps fun w => Grew h w.host :=
  equipmentOn_keeps service h b.navigate_host fun extent w => (b.capture_ends extent w).grew

theorem drawn_keeps (d : Drawn) (service : Service) (h : Host) :
    (equipmentOn d.target service).Keeps fun w => Grew h w.host :=
  equipmentOn_keeps service h d.navigate_host fun extent w => (d.capture_ends extent w).grew

theorem audit_grew (a : RunArguments) (registry : Registry) (session : Session) (v : Viewport)
    (h : Host) : Grew h (audit a registry session v h).2 := by
  unfold audit
  dsimp only
  split
  · exact auditPages_grew none a _ h (browser_keeps ..)
  · exact auditPages_grew none a _ h (drawn_keeps ..)

end CommandLine

/-! ## The pictures of a session -/

namespace Session

theorem isName_screenshots : Files.IsName "screenshots" :=
  ⟨by decide, by decide, by decide, by decide⟩

theorem init_grew {s : Session} {registry : Option String} {baseUrl : String} {h started : Host}
    {answer : Except Files.Fault Unit} (hinit : s.init registry baseUrl h = (answer, started)) :
    Grew h started := by
  unfold init at hinit
  split at hinit
  · next hmade =>
      cases hinit
      exact Host.createDirectories_grew hmade
  · next hmade => exact (Host.createDirectories_grew hmade).trans (Host.write_grew hinit)

/-- The pictures of a session that has begun can be counted at any later time. -/
theorem exists_captures {s : Session} {registry : Option String} {baseUrl : String}
    {h started h' : Host} (hinit : s.init registry baseUrl h = (.ok (), started))
    (g : Grew started h') : ∃ names, s.captures h' = .ok names := by
  unfold init at hinit
  split at hinit
  · cases hinit
  next made hmade =>
    have hparts : (Files.Path.ofText s.screenshots).parts ≠ [] := by
      rw [screenshots, Files.Path.parts_join isName_screenshots]
      exact List.append_ne_nil_of_right_ne_nil _ (List.cons_ne_nil _ _)
    obtain ⟨entries, hlist⟩ := Host.exists_list hmade hparts ((Host.write_grew hinit).trans g)
    unfold captures
    split
    · rw [hlist]
      exact ⟨_, rfl⟩
    · exact ⟨_, rfl⟩

end Session

end PageAudit
