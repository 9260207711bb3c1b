import PageAudit.Proofs.Picture.Bytes

/-!
# Rectangles on bytes

On any surface with three bytes for each pixel, a rectangle that can be drawn gives its color to the
pixels that it covers, as far as they are on the surface, and to no others. What cannot be drawn is a
rectangle whose lower or right edge has no number of 32 bits, although it is cut off at the surface.
-/

namespace PageAudit.Buffer

variable {b : Buffer} {c : Canvas} {color : Color} {x y width height px py : Nat}

/-! ## Surfaces in memory -/

/-- The surface has three bytes for each pixel, and its sizes have 32 bits. -/
structure Whole (b : Buffer) : Prop where
  width_lt : b.width < sizeLimit
  height_lt : b.height < sizeLimit
  bytes_lt : 3 * (b.width * b.height) < sizeLimit
  length_eq : b.bytes.length = 3 * (b.width * b.height)

instance (b : Buffer) : Decidable b.Whole :=
  decidable_of_iff (b.width < sizeLimit ∧ b.height < sizeLimit ∧
      3 * (b.width * b.height) < sizeLimit ∧ b.bytes.length = 3 * (b.width * b.height))
    ⟨fun h => ⟨h.1, h.2.1, h.2.2.1, h.2.2.2⟩, fun h => ⟨h.1, h.2, h.3, h.4⟩⟩

theorem exists_colors {bytes : List UInt8} {n : Nat} (h : bytes.length = 3 * n) :
    ∃ pixels : List Color, pixels.length = n ∧ pixels.flatMap Color.bytes = bytes := by
  induction n generalizing bytes with
  | zero => exact ⟨[], rfl, (List.length_eq_zero_iff.mp h).symm⟩
  | succ n ih =>
      obtain ⟨red, green, blue, rest, rfl⟩ :
          ∃ red green blue rest, bytes = red :: green :: blue :: rest := by
        rcases bytes with _ | ⟨red, _ | ⟨green, _ | ⟨blue, rest⟩⟩⟩
        · cases h
        · cases h
        · cases h
        · exact ⟨red, green, blue, rest, rfl⟩
      have hrest : rest.length = 3 * n := by
        simp only [List.length_cons] at h
        omega
      obtain ⟨pixels, hlength, rfl⟩ := ih hrest
      exact ⟨⟨red, green, blue⟩ :: pixels, congrArg (· + 1) hlength, rfl⟩

/-- Such a surface holds the bytes of a canvas. -/
theorem whole_iff : b.Whole ↔ ∃ c, ofCanvas c = b := by
  constructor
  · intro h
    obtain ⟨width, height, bytes⟩ := b
    obtain ⟨pixels, hlength, rfl⟩ := exists_colors h.length_eq
    exact ⟨⟨width, height, pixels.toArray, h.width_lt, h.height_lt, h.bytes_lt, hlength⟩, rfl⟩
  · rintro ⟨c, rfl⟩
    exact ⟨c.width_lt, c.height_lt, c.bytes_lt, length_ofCanvas c⟩

/-! ## Rectangles -/

theorem pixel_outside (h : ¬(x < c.width ∧ y < c.height)) : c.pixel x y = .black := by
  rw [Canvas.pixel, if_neg fun hin => h (inside_iff.mp hin)]

/-- A rectangle gives its color to the pixels that it covers and leaves all others as they are, if its
lower edge and, where a row of it is on the surface, its right edge have numbers of 32 bits. Otherwise
the drawing stops. -/
theorem drawRect_clips (b : Buffer) (hb : b.Whole) (x y w h : UInt32) (color : Color) :
    (Canvas.RectangleFits b.height x.toNat y.toNat w.toNat h.toNat ∧
        ∃ b', b.drawRect x.toNat y.toNat w.toNat h.toNat color = .ok b' ∧
          b'.width = b.width ∧ b'.height = b.height ∧ b'.bytes.length = b.bytes.length ∧
          ∀ px py, b'.pixel px py =
            if (px < b.width ∧ py < b.height) ∧ x.toNat ≤ px ∧ px < x.toNat + w.toNat ∧
                y.toNat ≤ py ∧ py < y.toNat + h.toNat then .ok color
            else b.pixel px py) ∨
      ¬Canvas.RectangleFits b.height x.toNat y.toNat w.toNat h.toNat ∧
        b.drawRect x.toNat y.toNat w.toNat h.toNat color = .error .overflow := by
  obtain ⟨c, rfl⟩ := whole_iff.mp hb
  rw [drawRect_ofCanvas, height_ofCanvas, ← Canvas.exists_drawRect_iff color]
  cases hdraw : c.drawRect x.toNat y.toNat w.toNat h.toNat color with
  | error => exact Or.inr ⟨by simp, rfl⟩
  | ok c' =>
      have hpaints := Canvas.drawRect_paints hdraw
      refine Or.inl ⟨⟨c', rfl⟩, ofCanvas c', rfl, hpaints.width, hpaints.height, ?_, fun px py => ?_⟩
      · rw [length_ofCanvas, length_ofCanvas, hpaints.width, hpaints.height]
      · rw [pixel_ofCanvas, pixel_ofCanvas, width_ofCanvas]
        by_cases hin : px < c.width ∧ py < c.height
        · rw [hpaints.pixel hin.1 hin.2, Canvas.rectangleShade]
          by_cases hcovered :
              x.toNat ≤ px ∧ px < x.toNat + w.toNat ∧ y.toNat ≤ py ∧ py < y.toNat + h.toNat
          · rw [if_pos hcovered, if_pos ⟨hin, hcovered⟩, Option.getD_some]
          · rw [if_neg hcovered, if_neg fun hall => hcovered hall.2, Option.getD_none]
        · rw [if_neg fun hall => hin hall.1, pixel_outside hin]
          rw [← hpaints.width, ← hpaints.height] at hin
          rw [pixel_outside hin]

theorem rectangle_beyond_corner_drawn :
    let b : Buffer := ⟨4, 3, List.replicate 36 0⟩
    b.Whole ∧ ∃ b', b.drawRect 1 1 4294967294 9 ⟨9, 8, 7⟩ = .ok b' ∧ b'.bytes.length = 36 ∧
      b'.pixel 3 2 = .ok ⟨9, 8, 7⟩ ∧ b'.pixel 0 2 = .ok .black := by
  intro b
  have hb : b.Whole := by decide
  rcases drawRect_clips b hb 1 1 4294967294 9 ⟨9, 8, 7⟩ with
    ⟨-, b', hdraw, -, -, hlength, hpixel⟩ | ⟨hfits, -⟩
  · exact ⟨hb, b', hdraw, hlength, hpixel 3 2, hpixel 0 2⟩
  · exact absurd (by decide) hfits

/-- To the edge of the surface and beyond: the rectangle covers pixels, but its edges have no numbers. -/
theorem rectangle_to_edge_overflows :
    let b : Buffer := ⟨4, 3, List.replicate 36 0⟩
    b.Whole ∧ b.drawRect 1 1 4294967295 4294967295 ⟨9, 8, 7⟩ = .error .overflow :=
  ⟨by decide, rfl⟩

end PageAudit.Buffer
