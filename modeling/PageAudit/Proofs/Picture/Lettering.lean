import PageAudit.Proofs.Picture.Clipping

/-!
# Texts on bytes

On any surface that has a row, a text can be drawn from every column that has another glyph's width to
its right within 32 bits. It gives ink and paper to the pixels of its glyphs, as far as they are on the
surface, and to no others: where the drawing ends early, nothing of the text is left that could be seen.
-/

namespace PageAudit

/-! ## Glyphs -/

namespace Glyph

/-- The table ends with the characters of ASCII, and all others are blank. -/
theorem shows_ofChar_of_le {letter : Char} (h : 128 ≤ letter.toNat) (row column : Nat) :
    shows (ofChar letter) row column = false := by
  have hblank : ofChar letter = 0 := by
    rw [ofChar, Array.getD_eq_getD_getElem?, Array.getElem?_eq_none h, Option.getD_none]
  rw [shows, hblank, Nat.zero_testBit]

end Glyph

/-! ## Texts on canvases -/

namespace Canvas

variable {c : Canvas} {ink paper : Color} {text : List Char} {letter : Char} {x y px py : Nat}

theorem textShade_of_letter (hcolumn : x ≤ px) (hrow : y ≤ py ∧ py < y + Glyph.size)
    (hletter : text[(px - x) / Glyph.size]? = some letter) :
    textShade x y text ink paper px py =
      some (if Glyph.shows (Glyph.ofChar letter) (py - y) ((px - x) % Glyph.size) then ink
        else paper) := by
  rw [textShade, if_pos ⟨hcolumn, hrow⟩, hletter]
  rfl

theorem textShade_of_not_covered (h : ¬((y ≤ py ∧ py < y + Glyph.size) ∧ x ≤ px ∧
    (px - x) / Glyph.size < text.length)) : textShade x y text ink paper px py = none := by
  rw [textShade]
  split
  · next hin =>
      have hend : text.length ≤ (px - x) / Glyph.size :=
        Nat.le_of_not_lt fun hlt => h ⟨hin.2, hin.1, hlt⟩
      rw [List.getElem?_eq_none hend, Option.map_none]
  · rfl

/-- A surface with a row is not so wide that a glyph which begins on it ends beyond 32 bits. -/
theorem width_add_size_le (c : Canvas) (hrow : 1 ≤ c.height) : c.width + Glyph.size ≤ sizeLimit := by
  have harea : c.width ≤ c.width * c.height := Nat.le_mul_of_pos_right _ hrow
  have hbytes := c.bytes_lt
  simp only [Glyph.size, sizeLimit] at hbytes ⊢
  omega

end Canvas

/-! ## Texts on bytes -/

namespace Buffer

variable {c c' : Canvas} {shade : Canvas.Shade} {ink paper : Color} {px py : Nat}

theorem pixel_of_paints (h : Canvas.Paints shade c c') (hin : px < c.width ∧ py < c.height) :
    (ofCanvas c').pixel px py = .ok ((shade px py).getD (c.pixel px py)) := by
  rw [pixel_ofCanvas, h.pixel hin.1 hin.2]

theorem pixel_of_not_painted (h : Canvas.Paints shade c c')
    (hout : px < c.width ∧ py < c.height → shade px py = none) :
    (ofCanvas c').pixel px py = (ofCanvas c).pixel px py := by
  by_cases hin : px < c.width ∧ py < c.height
  · rw [pixel_of_paints h hin, hout hin, pixel_ofCanvas, Option.getD_none]
  · rw [pixel_ofCanvas, pixel_ofCanvas, pixel_outside hin]
    rw [← h.width, ← h.height] at hin
    rw [pixel_outside hin]

/-- A text is drawn on every surface that has a row, if its first glyph ends within 32 bits: every pixel
of the surface that one of its glyphs covers has the ink where the glyph shows and the paper elsewhere,
and all other pixels are as before. What is no character of ASCII is paper. -/
theorem drawText_clips (b : Buffer) (hb : b.Whole) (hrow : 1 ≤ b.height) (x y : UInt32)
    (hx : x.toNat ≤ 2 ^ 32 - 9) (text : String) (ink paper : Color) :
    (∃ b', drawText y.toNat ink paper x.toNat text.toList b = .ok b' ∧
      b'.width = b.width ∧ b'.height = b.height ∧ b'.bytes.length = b.bytes.length ∧
      (∀ px py letter, px < b.width ∧ py < b.height → y.toNat ≤ py ∧ py < y.toNat + 8 →
        x.toNat ≤ px → text.toList[(px - x.toNat) / 8]? = some letter →
        b'.pixel px py = .ok (if Glyph.shows (Glyph.ofChar letter) (py - y.toNat)
          ((px - x.toNat) % 8) then ink else paper)) ∧
      ∀ px py, ¬((px < b.width ∧ py < b.height) ∧ (y.toNat ≤ py ∧ py < y.toNat + 8) ∧
        x.toNat ≤ px ∧ (px - x.toNat) / 8 < text.length) →
        b'.pixel px py = b.pixel px py) ∧
    ∀ letter : Char, 128 ≤ letter.toNat →
      ∀ row column, Glyph.shows (Glyph.ofChar letter) row column = false := by
  refine ⟨?_, fun letter => Glyph.shows_ofChar_of_le⟩
  obtain ⟨c, rfl⟩ := whole_iff.mp hb
  have hfirst : x.toNat + Glyph.size < sizeLimit := by
    simp only [Glyph.size, sizeLimit]
    omega
  have hfits : Canvas.TextFits c.width x.toNat text.length :=
    Canvas.textFits_of_width hfirst (c.width_add_size_le hrow)
  obtain ⟨c', hdraw⟩ := (Canvas.exists_drawText_iff y.toNat ink paper).mpr hfits
  have hpaints := Canvas.drawText_paints hdraw
  refine ⟨ofCanvas c', ?_, hpaints.width, hpaints.height, ?_, ?_, ?_⟩
  · rw [drawText_ofCanvas c text.toList x.toNat_lt y.toNat_lt]
    exact congrArg ofDrawing hdraw
  · rw [length_ofCanvas, length_ofCanvas, hpaints.width, hpaints.height]
  · intro px py letter hin hcovered hcolumn hletter
    rw [pixel_of_paints hpaints hin, Canvas.textShade_of_letter hcolumn hcovered hletter]
    rfl
  · intro px py hout
    refine pixel_of_not_painted hpaints fun hin => Canvas.textShade_of_not_covered ?_
    rw [String.length_toList]
    exact fun hcovered => hout ⟨hin, hcovered⟩

/-- Of the second glyph three columns are on the surface, and of both only two rows. -/
theorem letters_drawn_to_edge :
    let b : Buffer := ⟨13, 3, List.replicate 117 0⟩
    (b.Whole ∧ 1 ≤ b.height ∧ (2 : UInt32).toNat ≤ 2 ^ 32 - 9) ∧
      ∃ b', drawText 1 ⟨9, 8, 7⟩ ⟨1, 2, 3⟩ 2 "Hi".toList b = .ok b' ∧ b'.bytes.length = 117 ∧
        b'.pixel 12 1 = .ok ⟨9, 8, 7⟩ ∧ b'.pixel 11 1 = .ok ⟨1, 2, 3⟩ ∧ b'.pixel 12 0 = .ok .black := by
  intro b
  have hb : b.Whole := by decide
  have hrow : 1 ≤ b.height := by decide
  have hx : (2 : UInt32).toNat ≤ 2 ^ 32 - 9 := by decide
  obtain ⟨⟨b', hdraw, -, -, hlength, hcovered, hother⟩, -⟩ :=
    drawText_clips b hb hrow 2 1 hx "Hi" ⟨9, 8, 7⟩ ⟨1, 2, 3⟩
  refine ⟨⟨hb, hrow, hx⟩, b', hdraw, hlength, ?_, ?_, ?_⟩
  · rw [hcovered 12 1 'i' (by decide) (by decide) (by decide) rfl, if_pos (by decide +kernel)]
  · rw [hcovered 11 1 'i' (by decide) (by decide) (by decide) rfl, if_neg (by decide +kernel)]
  · exact hother 12 0 (by decide)

end Buffer

end PageAudit
