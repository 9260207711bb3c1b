import Mathlib.Data.List.MinMax
import PageAudit.Proofs.Audit.Visits
import PageAudit.Proofs.Capture.Pictures
import PageAudit.Proofs.Files.Names
import PageAudit.Proofs.Picture.Sizes
import PageAudit.Recognition.Service

/-!
# Which pictures of a suite survive

The pictures of drawn pages are put into one directory under names that are made of the slug of the
route and of the millisecond. A picture is lost if a later one has the same name, and only then; and
then it is the later one that is found. So all pictures of a suite survive exactly if those that have
their slug and their millisecond in common are the same.
-/

namespace PageAudit.Capture

open Audit (Options Policy State)
open Files (Content)
open Host (Grew Retains)
open Recognition (Recognizer)

/-- A recognizer by which no file is lost on machines with certain programs. -/
def Onlooking {S : Type} (r : Recognizer (Scene S))
    (programs : List Call → Call → Completion) : Prop :=
  ∀ artifact w, w.host.programs = programs →
    Retains w.host (r.recognize artifact w).2.host

/-- Recognitions by a service lose no file if the programs that are called for them write none. -/
theorem service_onlooking {S : Type} (service : Recognition.Service)
    {programs : List Call → Call → Completion} (h : Host.WriteNothing programs) :
    Onlooking (S := S) (onHost service.recognizer) programs := by
  intro artifact w hprograms
  change Retains w.host (service.recognize artifact w.host).2
  unfold Recognition.Service.recognize
  split
  · exact .refl _
  · exact Host.call_retains (hprograms ▸ h) rfl

namespace Drawn

variable {d : Drawn} {extent : Extent} {clock : Nat → Nat}

/-! ## Shots -/

/-- A picture that was taken of a route, and the step of the clock at which it was taken. -/
structure Shot where
  route : String
  step : Nat
  picture : ByteArray

/-- Where a picture was put. -/
def Shot.path (s : Shot) (d : Drawn) (clock : Nat → Nat) : String :=
  d.pathAt s.route (.ofNanos (clock s.step))

def Shot.name (s : Shot) (clock : Nat → Nat) : String :=
  Files.screenshotName source s.route (Moment.ofNanos (clock s.step)).stamp

def Shot.millisecond (s : Shot) (clock : Nat → Nat) : Nat := clock s.step / 1000000

def Shot.entry (s : Shot) (d : Drawn) (clock : Nat → Nat) : String × String :=
  (s.route, s.path d clock)

variable {s t : Shot} {shots : List Shot}

theorem path_eq (s : Shot) : s.path d clock = Files.Path.join d.directory (s.name clock) := rfl

-- from here on paths are taken as they are: the unifier must not work out the date in them
attribute [irreducible] Shot.path

theorem isName_name (s : Shot) (clock : Nat → Nat) : Files.IsName (s.name clock) :=
  Files.isName_screenshotName (by decide) _ _

/-- Two pictures are put to one place exactly if their slug and their millisecond are the same. -/
theorem path_eq_iff : s.path d clock = t.path d clock ↔
    Files.slug s.route = Files.slug t.route ∧ s.millisecond clock = t.millisecond clock := by
  constructor
  · intro h
    have hparts := congrArg (fun p => (Files.Path.ofText p).parts) h
    simp only [path_eq, Files.Path.parts_join (isName_name _ _)] at hparts
    obtain ⟨hslug, hstamp⟩ :=
      Files.screenshotName_inj (List.singleton_inj.mp (List.append_cancel_left hparts))
    exact ⟨hslug, Moment.stamp_ofNanos_eq_iff.mp hstamp⟩
  · rintro ⟨hslug, hmillisecond⟩
    simp only [Shot.path, pathAt, Files.screenshotName, hslug,
      Moment.stamp_ofNanos_eq_iff.mpr hmillisecond]

/-! ## Pictures that are found -/

variable {start : Host}

/-- The pictures that were taken since the start, in order: each is the drawing of its route, and it
is found at its path unless a later one has been put there. -/
structure Held (d : Drawn) (extent : Extent) (start : Host) (shots : List Shot) (h : Host) :
    Prop where
  grew : Grew start h
  drawn : ∀ s ∈ shots, d.file extent s.route = .ok s.picture
  ordered : (shots.map Shot.step).Pairwise (· < ·)
  past : ∀ s ∈ shots, s.step < h.steps
  found : ∀ s ∈ shots,
    (∀ t ∈ shots, s.step < t.step → t.path d start.clock ≠ s.path d start.clock) →
    h.read (s.path d start.clock) = .ok (.bytes s.picture)

theorem held_nil (d : Drawn) (extent : Extent) (h : Host) : Held d extent h [] h where
  grew := .refl h
  drawn := List.forall_mem_nil _
  ordered := .nil
  past := List.forall_mem_nil _
  found := List.forall_mem_nil _

theorem Held.of_retains {h h' : Host} (held : Held d extent start shots h)
    (hretains : Retains h h') : Held d extent start shots h' where
  grew := held.grew.trans hretains.toGrew
  drawn := held.drawn
  ordered := held.ordered
  past s hs := Nat.lt_of_lt_of_le (held.past s hs) hretains.steps
  found s hs hlast := hretains.read (held.found s hs hlast)

/-- A picture that was written is found, and so are those that have another path. -/
theorem Held.written {h h' : Host} {s : Shot} (held : Held d extent start shots h)
    (hdrawn : d.file extent s.route = .ok s.picture) (hafter : ∀ t ∈ shots, t.step < s.step)
    (hstep : s.step < h.steps)
    (hwrite : h.write (s.path d start.clock) (.bytes s.picture) = (.ok (), h')) :
    Held d extent start (shots ++ [s]) h' := by
  have hgrew := Host.write_grew hwrite
  have hnew : s ∈ shots ++ [s] := List.mem_concat_self
  refine ⟨held.grew.trans hgrew, ?_, ?_, ?_, ?_⟩
  · exact List.forall_mem_append.mpr ⟨held.drawn, List.forall_mem_singleton.mpr hdrawn⟩
  · rw [List.map_append, List.pairwise_append]
    refine ⟨held.ordered, List.pairwise_singleton _ _, fun m hm n hn => ?_⟩
    obtain ⟨t, ht, rfl⟩ := List.mem_map.mp hm
    exact List.mem_singleton.mp hn ▸ hafter t ht
  · have hpast := List.forall_mem_append.mpr ⟨held.past, List.forall_mem_singleton.mpr hstep⟩
    exact fun t ht => Nat.lt_of_lt_of_le (hpast t ht) hgrew.steps
  · refine List.forall_mem_append.mpr ⟨fun t ht hlast => ?_, ?_⟩
    · have hne := hlast s hnew (hafter t ht)
      have hfound := held.found t ht fun u hu => hlast u (List.mem_append_left _ hu)
      rw [path_eq, path_eq] at hne
      rw [path_eq] at hwrite hfound ⊢
      refine Host.read_join hwrite (isName_name s _) (isName_name t _) ?_ hfound
      exact fun hname => hne (congrArg _ hname.symm)
    · exact List.forall_mem_singleton.mpr fun _ => Host.write_read hwrite

/-- All pictures are found exactly if those that have one path are the same. -/
theorem Held.found_iff {h : Host} (held : Held d extent start shots h) :
    (∀ s ∈ shots, h.read (s.path d start.clock) = .ok (.bytes s.picture)) ↔
      ∀ s ∈ shots, ∀ t ∈ shots, s.path d start.clock = t.path d start.clock → s.picture = t.picture := by
  constructor
  · intro hfound s hs t ht hpath
    have hread := hfound s hs
    rw [hpath, hfound t ht] at hread
    exact (Content.bytes.inj (Except.ok.inj hread)).symm
  · intro hsame s hs
    -- of the pictures that were put to the path of `s` the last is there
    let there := shots.filter (·.path d start.clock = s.path d start.clock)
    have hs' : s ∈ there := List.mem_filter.mpr ⟨hs, decide_eq_true rfl⟩
    obtain ⟨t, hlast⟩ := Option.ne_none_iff_exists'.mp fun hnone : there.argmax Shot.step = none =>
      List.ne_nil_of_mem hs' (List.argmax_eq_none.mp hnone)
    obtain ⟨ht, hpath⟩ := List.mem_filter.mp (List.argmax_mem hlast)
    have hpath := of_decide_eq_true hpath
    rw [← hpath, hsame s hs t ht hpath.symm]
    refine held.found t ht fun u hu hafter hpath' => ?_
    have hu' : u ∈ there := List.mem_filter.mpr ⟨hu, decide_eq_true (hpath'.trans hpath)⟩
    exact Nat.not_le_of_lt hafter (List.le_of_mem_argmax hu' hlast)

/-! ## The pictures of a suite -/

/-- A capture adds its picture, if it gives one. -/
theorem Ends.held {w w' : Scene Surface} {outcome : Except Error String}
    (hends : d.Ends extent w outcome w') (held : Held d extent start shots w.host) :
    ∃ new : Option Shot, Held d extent start (shots ++ new.toList) w'.host ∧
      outcome.toOption = new.map (·.path d start.clock) ∧ ∀ s ∈ new, w.surface = some s.route := by
  have hnone {error : Error} {w' : Scene Surface} (held : Held d extent start shots w'.host) :
      ∃ new : Option Shot, Held d extent start (shots ++ new.toList) w'.host ∧
        (Except.error error : Except Error String).toOption = new.map (·.path d start.clock) ∧
        ∀ s ∈ new, w.surface = some s.route :=
    ⟨none, by simpa using held, rfl, fun _ hmem => nomatch hmem⟩
  cases hends with
  | notOpened | notDrawn => exact hnone held
  | noDirectory _ _ hmade => exact hnone (held.of_retains (Host.createDirectories_retains hmade))
  | notWritten _ _ hmade hwrite =>
      have hmade' := held.of_retains (Host.createDirectories_retains hmade)
      exact hnone (hmade'.of_retains (Host.write_error_retains hwrite))
  | @written route path bytes made host hsurface hfile hpath hmade hwrite =>
      have hnow : path = Shot.path ⟨route, w.host.steps, bytes⟩ d start.clock := by
        rw [hpath, path_eq, ← held.grew.clock]
        rfl
      have hmade' := held.of_retains (Host.createDirectories_retains hmade)
      refine ⟨some ⟨route, w.host.steps, bytes⟩, ?_, ?_, ?_⟩
      · refine hmade'.written hfile held.past ?_ (hnow ▸ hwrite)
        rw [Host.steps_createDirectories hmade]
        exact Nat.lt_succ_self _
      · exact congrArg some hnow
      · rintro s ⟨⟩
        exact hsurface

section Suites

variable {r : Recognizer (Scene Surface)} {o : Options}

/-- After a page the new picture, if there is one, is that of its route. -/
structure Added (d : Drawn) (extent : Extent) (start : Host) (shots : List Shot)
    (route : String) (new : Option Shot) (s : State (Scene Surface)) : Prop where
  held : Held d extent start (shots ++ new.toList) s.world.host
  artifact : s.evidence.artifact = new.map (·.path d start.clock)
  route : ∀ shot ∈ new, shot.route = route

theorem added_capture {route : String} {s s' : State (Scene Surface)} {w : Scene Surface}
    {outcome : Except Error String} (held : Held d extent start shots s.world.host)
    (hs : s.evidence = .none) (hnav : d.navigate route s.world = (.ok (), w))
    (hcap : Audit.capture d.target extent { s with world := w } = (outcome, s')) :
    ∃ new, Added d extent start shots route new s' := by
  have hhost : w.host = s.world.host :=
    (congrArg (·.2.host) hnav).symm.trans (d.navigate_host route s.world)
  have hsurface : w.surface = some route := by
    unfold navigate at hnav
    split at hnav <;> cases hnav
    rfl
  rw [Audit.capture_eq] at hcap
  cases hcap
  obtain ⟨new, hheld, hpath, hroute⟩ := (d.capture_ends extent w).held (hhost ▸ held)
  refine ⟨new, hheld, ?_, fun shot hshot => ?_⟩
  · rw [← hpath]
    change (s.evidence.afterCapture (d.capture extent w).1).artifact = _
    rw [hs]
    cases (d.capture extent w).1 <;> rfl
  · exact Option.some.inj ((hroute shot hshot).symm.trans hsurface)

theorem Added.recognize (hr : Onlooking r start.programs) {limits : Audit.Limits} {route artifact : String}
    {new : Option Shot} {s s' : State (Scene Surface)}
    {outcome : Except Recognition.Error Recognition.Result}
    (h : Added d extent start shots route new s)
    (hrec : Audit.recognize r limits artifact s = (outcome, s')) :
    Added d extent start shots route new s' := by
  have hsame := Audit.artifact_recognize r limits artifact s
  rw [hrec] at hsame
  have hworld : s'.world = (r.recognize artifact s.world).2 := by
    rw [Audit.recognize_eq] at hrec
    exact (congrArg (fun answer => answer.2.world) hrec).symm
  refine ⟨?_, hsame.trans h.artifact, h.route⟩
  rw [hworld]
  exact h.held.of_retains (hr artifact s.world h.held.grew.programs)

theorem inspect_added (hr : Onlooking r start.programs) (time : Scene Surface → Span → Nat)
    (o : Options) (page : Page) {s : State (Scene Surface)}
    (held : Held d o.extent start shots s.world.host) (hs : s.evidence = .none) :
    ∃ new, Added d o.extent start shots page.route new
      (Audit.inspect ⟨d.target, r, time⟩ o page s).2 := by
  have hends := Audit.inspect_ends ⟨d.target, r, time⟩ o page s
  generalize Audit.inspect ⟨d.target, r, time⟩ o page s = ended at hends ⊢
  obtain ⟨outcome, s'⟩ := ended
  cases hends with
  | @notOpened e w hnav =>
      have hhost : w.host = s.world.host :=
        (congrArg (·.2.host) hnav).symm.trans (d.navigate_host page.route s.world)
      refine ⟨none, ?_, congrArg Audit.Evidence.artifact hs, fun _ hmem => nomatch hmem⟩
      simpa [hhost] using held
  | notCaptured hnav hcap => exact added_capture held hs hnav hcap
  | captured hnav hcap => exact added_capture held hs hnav hcap
  | notRecognized hnav hcap _ hrec =>
      obtain ⟨new, hadded⟩ := added_capture held hs hnav hcap
      exact ⟨new, hadded.recognize hr hrec⟩
  | checked hnav hcap _ hrec =>
      obtain ⟨new, hadded⟩ := added_capture held hs hnav hcap
      exact ⟨new, hadded.recognize hr hrec⟩

/-- The route of a result and the place of its picture, if there is one. -/
def pictured (x : PageResult) : Option (String × String) := x.screenshot.map (x.route, ·)

theorem validate_added (hr : Onlooking r start.programs) (time : Scene Surface → Span → Nat)
    (o : Options) (page : Page)
    {s : State (Scene Surface)} (held : Held d o.extent start shots s.world.host) :
    ∃ new : Option Shot,
      Held d o.extent start (shots ++ new.toList)
        (Audit.validate ⟨d.target, r, time⟩ o page s.forget).2.world.host ∧
      pictured (Audit.recorded ⟨d.target, r, time⟩ o page s.forget) =
        new.map (·.entry d start.clock) := by
  obtain ⟨new, hadded⟩ := inspect_added hr time o page (s := s.forget) held rfl
  obtain ⟨durationMs, timestamp, hv⟩ := Audit.validate_eq ⟨d.target, r, time⟩ o page s.forget
  refine ⟨new, ?_, ?_⟩
  · rw [hv]
    exact hadded.held
  · rw [pictured, Audit.route_recorded, Audit.screenshot_recorded, hv]
    refine (congrArg _ hadded.artifact).trans ?_
    cases new with
    | none => rfl
    | some shot => simp only [Option.map_some, Shot.entry, hadded.route shot rfl]

theorem visit_held (hr : Onlooking r start.programs) (time : Scene Surface → Span → Nat)
    (o : Options) (goOn : Bool) (pages : List Page)
    {s : State (Scene Surface)} (held : Held d o.extent start shots s.world.host) :
    let visited := Audit.visit ⟨d.target, r, time⟩ o goOn pages s
    ∃ more : List Shot, Held d o.extent start (shots ++ more) visited.2.2.world.host ∧
      visited.1.filterMap pictured = more.map (·.entry d start.clock) := by
  induction pages generalizing s shots with
  | nil => exact ⟨[], (List.append_nil shots).symm ▸ held, rfl⟩
  | cons page rest ih =>
      obtain ⟨new, hheld, hentry⟩ := validate_added hr time o page held
      -- what the page adds comes before what the others add
      have hfirst {x : PageResult} {results : List PageResult} {h : Host}
          (hx : pictured x = new.map (·.entry d start.clock))
          (hrest : ∃ more : List Shot,
            Held d o.extent start (shots ++ new.toList ++ more) h ∧
              results.filterMap pictured = more.map (·.entry d start.clock)) :
          ∃ more : List Shot, Held d o.extent start (shots ++ more) h ∧
            (x :: results).filterMap pictured = more.map (·.entry d start.clock) := by
        obtain ⟨more, hmore, hentries⟩ := hrest
        refine ⟨new.toList ++ more, List.append_assoc shots _ _ ▸ hmore, ?_⟩
        rw [List.filterMap_cons, hx, hentries, List.map_append]
        cases new <;> rfl
      rw [Audit.recorded] at hentry
      simp only [Audit.visit]
      generalize Audit.validate ⟨d.target, r, time⟩ o page s.forget = validated at hentry hheld ⊢
      obtain ⟨failure | x, s₁⟩ := validated
      · cases goOn with
        | true => exact hfirst hentry (ih hheld)
        | false =>
            refine hfirst hentry ⟨[], ?_, rfl⟩
            rw [List.append_nil]
            exact hheld
      · exact hfirst hentry (ih hheld)

theorem runSuite_held (d : Drawn) {r : Recognizer (Scene Surface)}
    (time : Scene Surface → Span → Nat)
    (policy : Policy) (o : Options) (registry : Registry) (s : State (Scene Surface))
    (hr : Onlooking r s.world.host.programs) :
    let run := Audit.runSuite ⟨d.target, r, time⟩ policy o registry s
    ∃ shots : List Shot,
      (Audit.resultsOf run.1).filterMap pictured = shots.map (·.entry d s.world.host.clock) ∧
        Held d o.extent s.world.host shots run.2.world.host := by
  intro run
  obtain ⟨hresults, -, hend⟩ := Audit.runSuite_eq_visit ⟨d.target, r, time⟩ policy o registry s
  obtain ⟨shots, hheld, hentries⟩ := visit_held hr time (policy.apply o) policy.continueOnFailure
    (registry.pages.map Prod.snd) (held_nil d o.extent s.world.host)
  refine ⟨shots, (congrArg (List.filterMap pictured) hresults).trans hentries, ?_⟩
  rw [List.nil_append, ← hend] at hheld
  exact hheld

/-- The results of a suite of drawn pages have the paths of the pictures that were taken in it. Each is
the drawing of the route of its result, and it is found at its path as long as no later one has been
put there. So all are found in the end exactly if those that were taken of routes with the same slug
within the same millisecond are the same. -/
theorem pictures_survive_iff (d : Drawn) {r : Recognizer (Scene Surface)}
    (time : Scene Surface → Span → Nat) (policy : Policy) (o : Options) (registry : Registry)
    (s : State (Scene Surface)) (hr : Onlooking r s.world.host.programs) :
    let run := Audit.runSuite ⟨d.target, r, time⟩ policy o registry s
    let clock := s.world.host.clock
    let host := run.2.world.host
    ∃ shots : List Shot,
      (Audit.resultsOf run.1).filterMap pictured = shots.map (·.entry d clock) ∧
      Held d o.extent s.world.host shots host ∧
      ((∀ shot ∈ shots, host.read (shot.path d clock) = .ok (.bytes shot.picture)) ↔
        ∀ shot ∈ shots, ∀ other ∈ shots, Files.slug shot.route = Files.slug other.route →
          shot.millisecond clock = other.millisecond clock → shot.picture = other.picture) := by
  intro run clock host
  obtain ⟨shots, hentries, hheld⟩ := runSuite_held d time policy o registry s hr
  refine ⟨shots, hentries, hheld, ?_⟩
  have hfound := hheld.found_iff
  simp only [path_eq_iff, and_imp] at hfound
  exact hfound

end Suites

/-! ## Pages with one slug -/

/-- A machine whose clock stands still, and on which programs answer and write no files. -/
def stillHost : Host where
  name := "ci"
  process := 1
  environment := []
  current := []
  files := .empty
  clock := fun _ => 0
  steps := 0
  calls := []
  programs := fun _ _ => .exited (.code 0) ⟨#[123, 125]⟩ .empty []

theorem stillHost_writeNothing : Host.WriteNothing stillHost.programs := by
  rintro _ _ _ _ _ _ ⟨⟩
  rfl

def stillService : Recognizer (Scene Surface) :=
  onHost (Recognition.Service.ofSettings .default).recognizer

theorem stillService_onlooking : Onlooking stillService stillHost.programs :=
  service_onlooking _ stillHost_writeNothing

def registryOf (routes : List String) : Registry :=
  ⟨[⟨"m", routes.map fun route => .bare route route⟩]⟩

/-- A suite of some routes on a machine whose clock stands still. -/
def runStill (d : Drawn) (routes : List String) :
    Except Audit.Aborted Audit.Run × State (Scene Surface) :=
  Audit.runSuite ⟨d.target, stillService, fun w _ => w.host.time⟩ ⟨true, false⟩
    (.ofSettings .default) (registryOf routes) (.start ⟨none, stillHost⟩)

/-- The size of a drawing of a few rows. -/
theorem file_size {route : String} {bytes : ByteArray} {width height : Nat}
    (h : d.file extent route = .ok bytes)
    (hcanvas : (d.render extent route).toOption.map (fun c => (c.width, c.height)) =
      some (width, height)) (hsize : height * (1 + width * 3) ≤ Png.blockLimit) :
    bytes.size = height * (1 + width * 3) + 68 := by
  unfold file at h
  split at h
  · cases h
  next canvas hrender =>
    rw [hrender] at hcanvas
    cases hcanvas
    split at h
    · cases h
    · next hencode =>
        cases h
        exact Png.size_encode hencode hsize

theorem shots_of_two {entries : List (String × String)} {clock : Nat → Nat}
    {route route' path path' : String} (hentries : entries = shots.map (·.entry d clock))
    (htwo : entries = [(route, path), (route', path')]) :
    ∃ s t : Shot, shots = [s, t] ∧ s.route = route ∧ t.route = route' ∧
      s.path d clock = path ∧ t.path d clock = path' := by
  rw [htwo] at hentries
  obtain ⟨s, rest, rfl, hs, hrest⟩ := List.map_eq_cons_iff.mp hentries.symm
  obtain ⟨t, last, rfl, ht, hlast⟩ := List.map_eq_cons_iff.mp hrest
  obtain rfl := List.map_eq_nil_iff.mp hlast
  exact ⟨s, t, rfl, congrArg Prod.fst hs, congrArg Prod.fst ht, congrArg Prod.snd hs,
    congrArg Prod.snd ht⟩

theorem both_pictures_survive :
    let d : Drawn := ⟨"shots", ⟨1, 1, by decide, by decide⟩, []⟩
    let run := runStill d ["/a", "/b"]
    let path := "shots/framebuffer_a_19700101_000000_000.png"
    let path' := "shots/framebuffer_b_19700101_000000_000.png"
    Onlooking stillService stillHost.programs ∧
      (Audit.resultsOf run.1).filterMap pictured = [("/a", path), ("/b", path')] ∧
      ∃ bytes bytes' : ByteArray, d.file .full "/a" = .ok bytes ∧ d.file .full "/b" = .ok bytes' ∧
        run.2.world.host.read path = .ok (.bytes bytes) ∧
        run.2.world.host.read path' = .ok (.bytes bytes') := by
  intro d run path path'
  have hsurvive := pictures_survive_iff d (fun w _ => w.host.time) ⟨true, false⟩
    (.ofSettings .default) (registryOf ["/a", "/b"]) (.start ⟨none, stillHost⟩) stillService_onlooking
  have htwo : (Audit.resultsOf run.1).filterMap pictured = [("/a", path), ("/b", path')] := by
    decide +kernel
  have hrun : runStill d ["/a", "/b"] = run := rfl
  rw [← runStill, hrun] at hsurvive
  clear_value run path path'
  obtain ⟨shots, hentries, hheld, hfound⟩ := hsurvive
  obtain ⟨s, t, hshots, hs, ht, hpath, hpath'⟩ := shots_of_two hentries htwo
  have hmem : s ∈ shots ∧ t ∈ shots := by simp [hshots]
  have hslugs : Files.slug "/a" ≠ Files.slug "/b" := by decide
  have hall := hfound.mpr fun x hx y hy hslug _ => by
    rw [hshots] at hx hy
    rcases List.mem_pair.mp hx with rfl | rfl <;> rcases List.mem_pair.mp hy with rfl | rfl
    · rfl
    · exact absurd hslug (hs ▸ ht ▸ hslugs)
    · exact absurd hslug (hs ▸ ht ▸ hslugs.symm)
    · rfl
  have hfirst := hall s hmem.1
  have hsecond := hall t hmem.2
  rw [hpath] at hfirst
  rw [hpath'] at hsecond
  exact ⟨stillService_onlooking, htwo, s.picture, t.picture, hs ▸ hheld.drawn s hmem.1,
    ht ▸ hheld.drawn t hmem.2, hfirst, hsecond⟩

/-- Within one millisecond, the picture of a route replaces that of another route whose slug is the
same. Both results have the path of the picture that is left. -/
theorem later_picture_replaces :
    let d : Drawn := ⟨"shots", ⟨1, 1, by decide, by decide⟩, [("/?", []), ("/!", ["open"])]⟩
    let run := runStill d ["/?", "/!"]
    let path := "shots/framebuffer___19700101_000000_000.png"
    (Audit.resultsOf run.1).filterMap pictured = [("/?", path), ("/!", path)] ∧
      ∃ own other : ByteArray, d.file .full "/?" = .ok own ∧ d.file .full "/!" = .ok other ∧
        own ≠ other ∧ run.2.world.host.read path = .ok (.bytes other) := by
  intro d run path
  have hkept := runSuite_held d (fun w _ => w.host.time) ⟨true, false⟩ (.ofSettings .default)
    (registryOf ["/?", "/!"]) (.start ⟨none, stillHost⟩) stillService_onlooking
  have htwo : (Audit.resultsOf run.1).filterMap pictured = [("/?", path), ("/!", path)] := by
    decide +kernel
  have hrun : runStill d ["/?", "/!"] = run := rfl
  rw [← runStill, hrun] at hkept
  clear_value run path
  obtain ⟨shots, hentries, hheld⟩ := hkept
  obtain ⟨s, t, hshots, hs, ht, -, hpath⟩ := shots_of_two hentries htwo
  have hmem : s ∈ shots ∧ t ∈ shots := by simp [hshots]
  have hown : d.file .full "/?" = .ok s.picture := hs ▸ hheld.drawn s hmem.1
  have hother : d.file .full "/!" = .ok t.picture := ht ▸ hheld.drawn t hmem.2
  -- no picture comes after that of the second route
  have hlast : ∀ u ∈ shots, t.step < u.step →
      u.path d stillHost.clock ≠ t.path d stillHost.clock := by
    intro u hu hlater
    have hordered := hheld.ordered
    rw [hshots] at hu hordered
    have hst : s.step < t.step := by simpa using hordered
    rcases List.mem_pair.mp hu with rfl | rfl
    · exact absurd hlater (Nat.lt_asymm hst)
    · exact absurd hlater (Nat.lt_irrefl _)
  have hfound := hheld.found t hmem.2 hlast
  rw [hpath] at hfound
  refine ⟨htwo, s.picture, t.picture, hown, hother, fun hsame => ?_, hfound⟩
  have hsize : s.picture.size = 48 * (1 + 1 * 3) + 68 :=
    file_size hown (by decide +kernel) (by decide)
  have hsize' : t.picture.size = 60 * (1 + 1 * 3) + 68 :=
    file_size hother (by decide +kernel) (by decide)
  rw [hsame, hsize'] at hsize
  cases hsize

end Drawn

end PageAudit.Capture
