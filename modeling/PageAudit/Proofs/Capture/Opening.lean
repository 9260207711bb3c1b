import Mathlib.Data.List.Induction
import PageAudit.Proofs.Audit.Logs
import PageAudit.Proofs.Capture.Pictures

/-!
# What captures show

A target is navigated and captured, in any order. A drawn page is shown as long as no later navigation
fails. A browser goes on showing the last page that it opened, even if a later route was refused.
-/

namespace PageAudit.Audit

/-! ## Navigations in a log -/

/-- Where a navigation led to; to nowhere, if it failed. -/
def Event.arrival : Event → Option (Option String)
  | navigate route (.ok _) => some (some route)
  | navigate _ (.error _) => some none
  | capture _ _ | recognize _ _ => none

/-- Where the last navigation led to. -/
def reached (events : List Event) : Option String := (events.reverse.findSome? Event.arrival).join

/-- Where the last navigation led to that succeeded. -/
def opened (events : List Event) : Option String :=
  events.reverse.findSome? fun e => e.arrival.join

theorem reached_concat (events : List Event) (e : Event) :
    reached (events ++ [e]) = e.arrival.getD (reached events) := by
  rw [reached, List.reverse_concat, List.findSome?_cons]
  cases e.arrival <;> rfl

theorem opened_concat (events : List Event) (e : Event) :
    opened (events ++ [e]) = e.arrival.join.or (opened events) := by
  rw [opened, List.reverse_concat, List.findSome?_cons]
  cases e.arrival.join <;> rfl

/-- If the last navigation succeeded, no other one did so later. -/
theorem opened_of_reached {events : List Event} {route : String}
    (h : reached events = some route) : opened events = some route := by
  induction events using List.reverseRecOn with
  | nil => cases h
  | append_singleton events e ih =>
      rw [reached_concat] at h
      rw [opened_concat]
      cases harrival : e.arrival with
      | none => exact ih (by rwa [harrival] at h)
      | some place =>
          rw [harrival] at h
          cases h
          rfl

end PageAudit.Audit

namespace PageAudit.Capture

open Audit (Event Logged logTarget opened opened_concat reached reached_concat)

variable {W : Type}

/-! ## Calls in turn -/

/-- The world after a call to a target. -/
def Target.serve (t : Target W) (w : W) : Audit.Call → W
  | .navigate route => (t.navigate route w).2
  | .capture extent => (t.capture extent w).2

/-- The world after calls to a target, with a log of them. -/
def Target.served (t : Target W) (calls : List Audit.Call) (w : W) : Logged W :=
  calls.foldl (logTarget t).serve ⟨w, []⟩

/-- What holds at first and is kept by every call holds after all calls. -/
theorem Target.served_induction {t : Target W} {P : Logged W → Prop} {w : W} (start : P ⟨w, []⟩)
    (navigate : ∀ route v, P v → P ((logTarget t).navigate route v).2)
    (capture : ∀ extent v, P v → P ((logTarget t).capture extent v).2) (calls : List Audit.Call) :
    P (t.served calls w) := by
  unfold served
  generalize (⟨w, []⟩ : Logged W) = v at start
  induction calls generalizing v with
  | nil => exact start
  | cons call calls ih =>
      refine ih _ ?_
      cases call with
      | navigate route => exact navigate route v start
      | capture extent => exact capture extent v start

/-! ## What the targets show -/

/-- A drawn target shows the page to which the last navigation led. -/
theorem Drawn.surface_served (d : Drawn) (calls : List Audit.Call) (host : Host) :
    (d.target.served calls ⟨none, host⟩).world.surface =
      reached (d.target.served calls ⟨none, host⟩).events := by
  refine Target.served_induction
    (P := fun v : Logged (Scene Surface) => v.world.surface = reached v.events) rfl
    (fun route v h => ?_) (fun extent v h => ?_) calls
  · simp only [logTarget, target, navigate, reached_concat]
    split <;> rfl
  · simp only [logTarget, reached_concat]
    exact (d.capture_ends extent v.world).surface.trans h

/-- A browser shows the page to which the last navigation led that succeeded. -/
theorem Browser.surface_served (b : Browser) (calls : List Audit.Call) (host : Host) :
    (b.target.served calls ⟨none, host⟩).world.surface =
      (opened (b.target.served calls ⟨none, host⟩).events).map fun route =>
        (route, b.urlFor route) := by
  refine Target.served_induction
    (P := fun v : Logged (Scene Surface) =>
      v.world.surface = (opened v.events).map fun route => (route, b.urlFor route)) rfl
    (fun route v h => ?_) (fun extent v h => ?_) calls
  · simp only [logTarget, target, navigate, opened_concat]
    split
    · rfl
    · exact h
  · simp only [logTarget, opened_concat]
    exact (b.capture_ends extent v.world).surface.trans h

/-! ## What captures come to -/

/-- If a page is shown, a picture can only be one of this page; if none is, there is an error. -/
def Target.Faithful (t : Target W) (Shows : String → W → String → W → Prop) (extent : Extent)
    (w : W) : Option String → Prop
  | some route => ∀ path w', t.capture extent w = (.ok path, w') → Shows route w path w'
  | none => ∃ reason, (t.capture extent w).1 = .error (.capture reason)

/-- The picture is named for the route, and it holds the drawing of this route. -/
structure Drawn.Shows (d : Drawn) (extent : Extent) (route : String) (w : Scene Surface)
    (path : String) (w' : Scene Surface) : Prop where
  named : path = d.pathAt route w.host.now
  drawn : ∃ bytes, d.file extent route = .ok bytes ∧ w'.host.read path = .ok (.bytes bytes)

/-- The picture is named for the route, and a browser was called for it with the route's address. -/
structure Browser.Shows (b : Browser) (extent : Extent) (route : String) (w : Scene Surface)
    (path : String) (w' : Scene Surface) : Prop where
  named : ∃ moment, path = b.pathAt route moment
  called : w'.host.calls = w.host.calls ++ [b.shoot (b.urlFor route) path extent]

theorem Drawn.faithful (d : Drawn) (extent : Extent) (w : Scene Surface) :
    d.target.Faithful (d.Shows extent) extent w w.surface := by
  cases hsurface : w.surface with
  | none =>
      have hcapture : d.capture extent w = (.error notOpened, w) := by rw [capture, hsurface]
      exact ⟨_, congrArg Prod.fst hcapture⟩
  | some route =>
      intro path w' hcapture
      obtain ⟨shown, bytes, made, hshown, hfile, hpath, -, hwrite⟩ := capture_ok hcapture
      cases hsurface.symm.trans hshown
      exact ⟨hpath, bytes, hfile, Host.write_read hwrite⟩

theorem Browser.faithful (b : Browser) (extent : Extent) {w : Scene Surface}
    {page : Option String}
    (hsurface : w.surface = page.map fun route => (route, b.urlFor route)) :
    b.target.Faithful (b.Shows extent) extent w page := by
  cases page with
  | none =>
      have hcapture : b.capture extent w = (.error notOpened, w) := by
        rw [capture, hsurface, Option.map_none]
      exact ⟨_, congrArg Prod.fst hcapture⟩
  | some route =>
      intro path w' hcapture
      obtain ⟨shown, url, made, output, errors, files, hshown, hmade, hpath, hcall⟩ :=
        capture_ok hcapture
      cases hsurface.symm.trans hshown
      refine ⟨⟨_, hpath⟩, ?_⟩
      rw [Host.calls_of_exited hcall, Host.calls_createDirectories hmade]

/-- Whatever the calls before, a capture of drawn pages is one of the page to which the last
navigation led, and it fails if that navigation failed or there was none. A capture by a browser,
whatever program this is, is one of the last page that was opened. So it does the same exactly if no
route was refused since, or if the capture fails for another reason. -/
theorem captures_follow_navigations (calls : List Audit.Call) (extent : Extent) (host : Host) :
    (∀ d : Drawn, let seen := d.target.served calls ⟨none, host⟩
      d.target.Faithful (d.Shows extent) extent seen.world (reached seen.events)) ∧
    ∀ b : Browser, let seen := b.target.served calls ⟨none, host⟩
      b.target.Faithful (b.Shows extent) extent seen.world (opened seen.events) ∧
      (b.target.Faithful (b.Shows extent) extent seen.world (reached seen.events) ↔
        opened seen.events = reached seen.events ∨
          ∃ reason, (b.target.capture extent seen.world).1 = .error (.capture reason)) := by
  refine ⟨fun d => ?_, fun b => ?_⟩
  · intro seen
    rw [← d.surface_served calls host]
    exact d.faithful extent seen.world
  · intro seen
    have hopened := b.faithful extent (b.surface_served calls host)
    refine ⟨hopened, ?_⟩
    cases hreached : reached seen.events with
    | some route =>
        have hsame : opened seen.events = some route := Audit.opened_of_reached hreached
        exact ⟨fun _ => .inl hsame, fun _ => hsame ▸ hopened⟩
    | none =>
        refine ⟨.inr, ?_⟩
        rintro (hnone | hfails)
        · exact hnone ▸ hopened
        · exact hfails

/-- A browser that has opened one route and refused another goes on to capture the first. -/
theorem refused_route_keeps_page :
    let b : Browser := { Browser.ofSettings .default with directory := "shots" }
    let picture := "shots/browser_a_19700101_000000_000.png"
    let host : Host := ⟨"ci", 1, [], [], .empty, fun _ => 0, 0, [],
      fun _ _ => .exited (.code 0) .empty .empty [(picture, .bytes .empty)]⟩
    let seen := b.target.served [.navigate "/a", .navigate "b"] ⟨none, host⟩
    let captured := b.target.capture .viewport seen.world
    reached seen.events = none ∧ captured.1.toOption = some picture ∧
      captured.2.host.calls.map Call.arguments =
        [(b.shoot (b.urlFor "/a") picture .viewport).arguments] := by
  decide +kernel

end PageAudit.Capture
