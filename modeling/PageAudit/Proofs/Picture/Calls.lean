import PageAudit.Proofs.Picture.Bytes

/-!
# Drawing on pages

Whatever is drawn on a page, nothing beyond its bytes is read or written, and their number stays the
same. What can go wrong is that a number does not fit in 32 bits. With which pages and calls this happens
is known beforehand: whether a call fits depends on the size of the surface only.
-/

namespace PageAudit

namespace Canvas

/-- All numbers that a call on a surface of this size needs have 32 bits. -/
def Call.Fits (width height : Nat) : Call → Prop
  | .fill _ => True
  | .rectangle x y w h _ => RectangleFits height x.toNat y.toNat w.toNat h.toNat
  | .text x _ letters _ _ => TextFits width x.toNat letters.length
  | .pixel _ _ => True

instance (width height : Nat) : DecidablePred (Call.Fits width height)
  | .fill _ => inferInstanceAs (Decidable True)
  | .rectangle x y w h _ =>
    inferInstanceAs (Decidable (RectangleFits height x.toNat y.toNat w.toNat h.toNat))
  | .text x _ letters _ _ => inferInstanceAs (Decidable (TextFits width x.toNat letters.length))
  | .pixel _ _ => inferInstanceAs (Decidable True)

/-! ## Calls on canvases -/

variable {c : Canvas} {call : Call} {calls : List Call} {after : Canvas × List Color}

theorem exists_map_iff {A B : Type} {r : Except OutOfRange A} {f : A → B} :
    (∃ b, r.map f = .ok b) ↔ ∃ a, r = .ok a := by
  cases r <;> simp [Except.map]

theorem exists_perform_iff : (∃ after, c.perform call = .ok after) ↔ call.Fits c.width c.height := by
  cases call with
  | fill color => exact ⟨fun _ => trivial, fun _ => ⟨_, rfl⟩⟩
  | rectangle x y width height color =>
      rw [Call.Fits, ← exists_drawRect_iff color, perform, exists_map_iff]
  | text x y letters ink paper =>
      rw [Call.Fits, ← exists_drawText_iff y.toNat ink paper, perform, exists_map_iff]
  | pixel x y => exact ⟨fun _ => trivial, fun _ => ⟨_, rfl⟩⟩

/-- Far to the right a rectangle cannot be drawn, even if nothing of it is on the surface. -/
example : ¬(Call.rectangle 1 0 4294967295 1 .black).Fits 1 1 := by decide

/-- No call changes the size. -/
theorem size_perform (h : c.perform call = .ok after) :
    after.1.width = c.width ∧ after.1.height = c.height := by
  cases call with
  | fill color =>
      cases h
      exact ⟨rfl, rfl⟩
  | rectangle x y width height color =>
      obtain ⟨drawn, hdrawn, rfl⟩ := map_eq_ok_iff.mp h
      exact ⟨(drawRect_paints hdrawn).width, (drawRect_paints hdrawn).height⟩
  | text x y letters ink paper =>
      obtain ⟨drawn, hdrawn, rfl⟩ := map_eq_ok_iff.mp h
      exact ⟨(drawText_paints hdrawn).width, (drawText_paints hdrawn).height⟩
  | pixel x y =>
      cases h
      exact ⟨rfl, rfl⟩

theorem performAll_cons : c.performAll (call :: calls) = .ok after ↔
    ∃ first, c.perform call = .ok first ∧ ∃ more, first.1.performAll calls = .ok more ∧
      (more.1, first.2 ++ more.2) = after := by
  simp only [performAll, bind_eq_ok_iff, Except.ok.injEq]

theorem size_performAll (h : c.performAll calls = .ok after) :
    after.1.width = c.width ∧ after.1.height = c.height := by
  induction calls generalizing c after with
  | nil =>
      cases h
      exact ⟨rfl, rfl⟩
  | cons call rest ih =>
      obtain ⟨first, hfirst, more, hmore, rfl⟩ := performAll_cons.mp h
      obtain ⟨hwidth, hheight⟩ := size_perform hfirst
      exact ⟨(ih hmore).1.trans hwidth, (ih hmore).2.trans hheight⟩

theorem exists_performAll_iff :
    (∃ after, c.performAll calls = .ok after) ↔ ∀ call ∈ calls, call.Fits c.width c.height := by
  induction calls generalizing c with
  | nil => exact ⟨fun _ => List.forall_mem_nil _, fun _ => ⟨_, rfl⟩⟩
  | cons call rest ih =>
      rw [List.forall_mem_cons, ← exists_perform_iff]
      simp only [performAll_cons]
      constructor
      · rintro ⟨_, first, hfirst, more, hmore, -⟩
        obtain ⟨hwidth, hheight⟩ := size_perform hfirst
        exact ⟨⟨first, hfirst⟩, hwidth ▸ hheight ▸ ih.mp ⟨more, hmore⟩⟩
      · rintro ⟨⟨first, hfirst⟩, hrest⟩
        obtain ⟨hwidth, hheight⟩ := size_perform hfirst
        rw [← hwidth, ← hheight] at hrest
        obtain ⟨more, hmore⟩ := ih.mpr hrest
        exact ⟨_, first, hfirst, more, hmore, rfl⟩

end Canvas

/-! ## Calls on bytes -/

namespace Buffer

def ofOutcome : Except OutOfRange (Canvas × List Color) → Except Trap (Buffer × List Color)
  | .ok after => .ok (ofCanvas after.1, after.2)
  | .error _ => .error .overflow

theorem map_ofDrawing (r : Except OutOfRange Canvas) :
    (ofDrawing r).map (·, []) = ofOutcome (r.map (·, [])) := by
  cases r <;> rfl

theorem perform_ofCanvas (c : Canvas) (call : Canvas.Call) :
    (ofCanvas c).perform call = ofOutcome (c.perform call) := by
  cases call with
  | fill color =>
      rw [perform, fill_ofCanvas]
      rfl
  | rectangle x y width height color =>
      rw [perform, drawRect_ofCanvas, map_ofDrawing]
      rfl
  | text x y letters ink paper =>
      rw [perform, drawText_ofCanvas c letters.toList x.toNat_lt y.toNat_lt]
      exact map_ofDrawing _
  | pixel x y =>
      rw [perform, pixel_ofCanvas]
      rfl

theorem performAll_ofCanvas (c : Canvas) (calls : List Canvas.Call) :
    (ofCanvas c).performAll calls = ofOutcome (c.performAll calls) := by
  induction calls generalizing c with
  | nil => rfl
  | cons call rest ih =>
      rw [performAll, Canvas.performAll, perform_ofCanvas]
      cases c.perform call with
      | error => rfl
      | ok first =>
          change (ofCanvas first.1).performAll rest >>= _ = ofOutcome (first.1.performAll rest >>= _)
          rw [ih]
          cases first.1.performAll rest with
          | error => rfl
          | ok more => rfl

/-! ## Calls on pages -/

variable (v : Viewport) (extent : Capture.Extent) (route : String) (lines : List String)
  (calls : List Canvas.Call)

theorem draw_eq : draw v extent route lines calls =
    ofOutcome (PageView.render v extent route lines >>= fun c => c.performAll calls) := by
  rw [draw, render_ofDrawing]
  cases PageView.render v extent route lines with
  | error => rfl
  | ok c => exact performAll_ofCanvas c calls

/-- All numbers that are needed to draw a page, and then on it, have 32 bits. -/
structure Drawable : Prop where
  page : PageView.Fits v extent route lines
  calls : ∀ call ∈ calls, call.Fits v.width (PageView.height v extent lines.length)

/-- Drawing a page and then on it never leaves the bytes of the surface, three for each pixel. If all
numbers fit, it succeeds with the bytes of the canvas that is drawn in the same way, and otherwise it stops
where the first one does not. -/
theorem draw_in_bounds :
    Drawable v extent route lines calls ∧
      (∃ c after, PageView.render v extent route lines = .ok c ∧ c.performAll calls = .ok after ∧
        ∃ b, draw v extent route lines calls = .ok (b, after.2) ∧ b = ofCanvas after.1 ∧
          b.width = v.width ∧ b.height = PageView.height v extent lines.length ∧
          b.bytes.length = 3 * (v.width * PageView.height v extent lines.length)) ∨
    ¬Drawable v extent route lines calls ∧
      draw v extent route lines calls = .error .overflow := by
  rw [draw_eq]
  cases hpage : PageView.render v extent route lines with
  | error =>
      refine Or.inr ⟨fun h => ?_, rfl⟩
      obtain ⟨c, hc⟩ := PageView.exists_render_iff.mpr h.page
      rw [hpage] at hc
      cases hc
  | ok c =>
      have hshows := PageView.render_shows hpage
      have hfits : (∃ after, c.performAll calls = .ok after) ↔ _ := Canvas.exists_performAll_iff
      rw [hshows.width, hshows.height] at hfits
      cases hcalls : c.performAll calls with
      | error =>
          refine Or.inr ⟨fun h => ?_, congrArg ofOutcome hcalls⟩
          obtain ⟨after, hafter⟩ := hfits.mpr h.calls
          rw [hcalls] at hafter
          cases hafter
      | ok after =>
          obtain ⟨hwidth, hheight⟩ := Canvas.size_performAll hcalls
          rw [hshows.width] at hwidth
          rw [hshows.height] at hheight
          refine Or.inl ⟨⟨PageView.exists_render_iff.mp ⟨c, hpage⟩, hfits.mp ⟨after, hcalls⟩⟩,
            c, after, rfl, hcalls, ofCanvas after.1, congrArg ofOutcome hcalls, rfl, hwidth, hheight, ?_⟩
          rw [length_ofCanvas, hwidth, hheight]

/-- A viewport is accepted although the number of its bytes is too large. -/
theorem draw_square_overflows : ∃ v, Viewport.ofText? "40000x40000" = some v ∧
    draw v .viewport "/n" ["/n"] [] = .error .overflow := by
  refine ⟨⟨40000, 40000, by decide, by decide⟩, by decide +kernel, ?_⟩
  rfl

end Buffer

end PageAudit
