import PageAudit.Capture.Browser
import PageAudit.Capture.Drawn
import PageAudit.Proofs.Files.Growth

/-!
# How captures end

A capture ends in one of a few ways. Whichever it is, the surface shows afterwards what it showed
before, and no directory of the machine is lost. A picture that comes of it lies at a path that is
named for the route and the moment.
-/

namespace PageAudit.Capture

open Files (Fault)
open Host (Grew)

variable {extent : Extent} {outcome : Except Error String}

/-! ## Drawn pages -/

namespace Drawn

variable {d : Drawn} {w w' : Scene Surface}

/-- The path of the picture of a route that is captured at a moment. -/
def pathAt (d : Drawn) (route : String) (moment : Moment) : String :=
  Files.Path.join d.directory (Files.screenshotName source route moment.stamp)

/-- How the capture of a drawn page can end. -/
inductive Ends (d : Drawn) (extent : Extent) (w : Scene Surface) :
    Except Error String → Scene Surface → Prop where
  | notOpened : w.surface = none → Ends d extent w (.error notOpened) w
  | notDrawn {route : String} {e : Error} : w.surface = some route →
      d.file extent route = .error e → Ends d extent w (.error e) w
  | noDirectory {route : String} {bytes : ByteArray} {fault : Fault} {host : Host} :
      w.surface = some route → d.file extent route = .ok bytes →
      w.host.createDirectories d.directory = (.error fault, host) →
      Ends d extent w (.error (.io fault)) ⟨w.surface, host⟩
  | notWritten {route : String} {bytes : ByteArray} {fault : Fault} {made host : Host} :
      w.surface = some route → d.file extent route = .ok bytes →
      w.host.createDirectories d.directory = (.ok (), made) →
      made.write (d.pathAt route w.host.now) (.bytes bytes) = (.error fault, host) →
      Ends d extent w (.error (.io fault)) ⟨w.surface, host⟩
  | written {route path : String} {bytes : ByteArray} {made host : Host} :
      w.surface = some route → d.file extent route = .ok bytes → path = d.pathAt route w.host.now →
      w.host.createDirectories d.directory = (.ok (), made) →
      made.write path (.bytes bytes) = (.ok (), host) → Ends d extent w (.ok path) ⟨w.surface, host⟩

theorem capture_ends (d : Drawn) (extent : Extent) (w : Scene Surface) :
    d.Ends extent w (d.capture extent w).1 (d.capture extent w).2 := by
  unfold capture Scene.withDirectory
  split
  · next hsurface => exact .notOpened hsurface
  next route hsurface =>
    split
    · next e hfile => exact .notDrawn hsurface hfile
    next bytes hfile =>
      dsimp only
      split
      · next fault host hmade => exact .noDirectory hsurface hfile hmade
      next made hmade =>
        split
        · next fault host hwrite => exact .notWritten hsurface hfile hmade hwrite
        · next host hwrite => exact .written hsurface hfile rfl hmade hwrite

theorem Ends.surface (h : d.Ends extent w outcome w') : w'.surface = w.surface := by
  cases h <;> rfl

theorem Ends.grew (h : d.Ends extent w outcome w') : Grew w.host w'.host := by
  cases h with
  | notOpened | notDrawn => exact .refl _
  | noDirectory _ _ hmade => exact Host.createDirectories_grew hmade
  | notWritten _ _ hmade hwrite =>
      exact (Host.createDirectories_grew hmade).trans (Host.write_grew hwrite)
  | written _ _ _ hmade hwrite =>
      exact (Host.createDirectories_grew hmade).trans (Host.write_grew hwrite)

/-- A capture that succeeds has written the drawing of the route that is shown. -/
theorem capture_ok {path : String} (h : d.capture extent w = (.ok path, w')) :
    ∃ route bytes made, w.surface = some route ∧ d.file extent route = .ok bytes ∧
      path = d.pathAt route w.host.now ∧ w.host.createDirectories d.directory = (.ok (), made) ∧
      made.write path (.bytes bytes) = (.ok (), w'.host) := by
  have hends := d.capture_ends extent w
  rw [h] at hends
  cases hends with
  | written hsurface hfile hpath hmade hwrite =>
      exact ⟨_, _, _, hsurface, hfile, hpath, hmade, hwrite⟩

theorem navigate_host (d : Drawn) (route : String) (w : Scene Surface) :
    (d.navigate route w).2.host = w.host := by
  unfold navigate
  split <;> rfl

theorem navigate_ne_outOfRange (d : Drawn) (route : String) (w w' : Scene Surface) :
    d.navigate route w ≠ (.error .outOfRange, w') := by
  unfold navigate
  split <;> exact fun h => by cases h

/-- After a navigation that succeeded the page is shown to which it led. -/
theorem surface_of_navigate {route : String} (h : d.navigate route w = (.ok (), w')) :
    w'.surface = some route := by
  unfold navigate at h
  split at h <;> cases h
  rfl

/-- A number leaves its range in a capture only if it does so in the drawing of the page that is shown. -/
theorem file_of_capture_outOfRange (h : d.capture extent w = (.error .outOfRange, w')) :
    ∃ route, w.surface = some route ∧ d.file extent route = .error .outOfRange := by
  have hends := d.capture_ends extent w
  rw [h] at hends
  cases hends with
  | notDrawn hsurface hfile => exact ⟨_, hsurface, hfile⟩

end Drawn

/-! ## Pages in a browser -/

namespace Browser

variable {b : Browser} {w w' : Scene Surface}

/-- The path of the picture of a route that is captured at a moment. -/
def pathAt (b : Browser) (route : String) (moment : Moment) : String :=
  Files.Path.join b.directory (Files.screenshotName source route moment.stamp)

/-- How a capture by a browser can end. Once the browser has been called, its completion decides. -/
inductive Ends (b : Browser) (extent : Extent) (w : Scene Surface) :
    Except Error String → Scene Surface → Prop where
  | notOpened : w.surface = none → Ends b extent w (.error notOpened) w
  | headed {route url reason : String} : w.surface = some (route, url) → b.headless = false →
      Ends b extent w (.error (.capture reason)) w
  | noDirectory {route url : String} {fault : Fault} {host : Host} :
      w.surface = some (route, url) → b.headless = true →
      w.host.createDirectories b.directory = (.error fault, host) →
      Ends b extent w (.error (.io fault)) ⟨w.surface, host⟩
  | called {route url : String} {made host : Host} {completion : Completion}
      {outcome : Except Error String} : w.surface = some (route, url) → b.headless = true →
      w.host.createDirectories b.directory = (.ok (), made) →
      made.call (b.shoot url (b.pathAt route made.now) extent) = (completion, host) →
      b.conclude url (b.pathAt route made.now) completion host = outcome →
      Ends b extent w outcome ⟨w.surface, host⟩

theorem capture_ends (b : Browser) (extent : Extent) (w : Scene Surface) :
    b.Ends extent w (b.capture extent w).1 (b.capture extent w).2 := by
  unfold capture captureOpen Scene.withDirectory
  split
  · next hsurface => exact .notOpened hsurface
  next route url hsurface =>
    split
    · next hheadless =>
        split
        · next fault host hmade => exact .noDirectory hsurface hheadless hmade
        · next made hmade =>
            rcases hcall : made.call (b.shoot url (b.pathAt route made.now) extent) with
              ⟨completion, host⟩
            have hends := Ends.called hsurface hheadless hmade hcall rfl
            unfold pathAt at hcall hends
            simp only [hcall]
            exact hends
    · next hheadless => exact .headed hsurface (Bool.eq_false_iff.mpr hheadless)

theorem Ends.surface (h : b.Ends extent w outcome w') : w'.surface = w.surface := by
  cases h <;> rfl

theorem Ends.grew (h : b.Ends extent w outcome w') : Grew w.host w'.host := by
  cases h with
  | notOpened | headed => exact .refl _
  | noDirectory _ _ hmade => exact Host.createDirectories_grew hmade
  | called _ _ hmade hcall _ => exact (Host.createDirectories_grew hmade).trans (Host.call_grew hcall)

theorem navigate_host (b : Browser) (route : String) (w : Scene Surface) :
    (b.navigate route w).2.host = w.host := by
  unfold navigate
  split <;> rfl

/-- A capture by a browser gives the path at which the picture was asked for. -/
theorem conclude_ok {url path artifact : String} {completion : Completion} {host : Host}
    (h : b.conclude url path completion host = .ok artifact) :
    artifact = path ∧ ∃ output errors files, completion = .exited (.code 0) output errors files := by
  unfold conclude at h
  split at h
  · cases h
  next status output errors files =>
    split at h
    · cases h
    · next hstatus =>
        obtain rfl : status = .code 0 := Decidable.not_not.mp hstatus
        split at h
        · cases h
        · cases h
          exact ⟨rfl, _, _, _, rfl⟩
        · cases h

/-- A capture that succeeds has called the browser with the address of the page that is shown. -/
theorem capture_ok {path : String} (h : b.capture extent w = (.ok path, w')) :
    ∃ route url made output errors files, w.surface = some (route, url) ∧
      w.host.createDirectories b.directory = (.ok (), made) ∧ path = b.pathAt route made.now ∧
      made.call (b.shoot url path extent) =
        (.exited (.code 0) output errors files, w'.host) := by
  have hends := b.capture_ends extent w
  rw [h] at hends
  cases hends with
  | called hsurface hheadless hmade hcall hconclude =>
      obtain ⟨hpath, output, errors, files, hcompletion⟩ := conclude_ok hconclude
      rw [← hpath, hcompletion] at hcall
      exact ⟨_, _, _, output, errors, files, hsurface, hmade, hpath, hcall⟩

theorem navigate_ne_outOfRange (b : Browser) (route : String) (w w' : Scene Surface) :
    b.navigate route w ≠ (.error .outOfRange, w') := by
  unfold navigate
  split <;> exact fun h => by cases h

theorem capture_ne_outOfRange (b : Browser) (extent : Extent) (w w' : Scene Surface) :
    b.capture extent w ≠ (.error .outOfRange, w') := by
  intro h
  have hends := b.capture_ends extent w
  rw [h] at hends
  cases hends with
  | called _ _ _ _ hconclude =>
      unfold conclude at hconclude
      split at hconclude
      · cases hconclude
      · split at hconclude
        · cases hconclude
        · split at hconclude <;> cases hconclude

end Browser

end PageAudit.Capture
