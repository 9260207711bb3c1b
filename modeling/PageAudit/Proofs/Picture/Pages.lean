import PageAudit.Picture.PageView
import PageAudit.Proofs.Picture.Painting

/-!
# What drawn pages show

All that a page shows is one shade, whatever the size of the surface it is drawn on: the band with the
route, and below it the lines, each in rows of its own. A surface shows the part of it that lies within
its borders.
-/

namespace PageAudit.PageView

open Canvas (Paints Shade textShade)

variable {v : Viewport} {extent : Capture.Extent} {route : String} {lines : List String}
  {c c' : Canvas} {index i x y row : Nat}

/-! ## The parts of a page -/

def bandShade : Shade := fun _ y => if y < headerHeight then some headerPaper else none

/-- The shade of the line that has an index. -/
def lineShade (index : Nat) (line : String) : Shade :=
  textShade margin (lineTop index) line.toList ink background

def linesShade (index : Nat) : List String → Shade
  | [] => fun _ _ => none
  | line :: rest => (linesShade (index + 1) rest).over (lineShade index line)

def pageShade (route : String) (lines : List String) : Shade :=
  (linesShade 0 lines).over
    ((textShade margin margin route.toList headerInk headerPaper).over bandShade)

theorem lineTop_mono {i j : Nat} (h : i < j) : lineTop i + Glyph.size ≤ lineTop j := by
  simp only [lineTop, lineHeight, Glyph.size]
  omega

theorem headerHeight_le_lineTop (index : Nat) : headerHeight ≤ lineTop index := by
  simp only [lineTop]
  omega

theorem lineTop_le_contentHeight {n : Nat} (h : i < n) :
    lineTop i + Glyph.size ≤ contentHeight n := by
  simp only [lineTop, contentHeight, lineHeight, margin, Glyph.size]
  omega

theorem linesShade_eq_none (h : y < lineTop index) : linesShade index lines x y = none := by
  induction lines generalizing index with
  | nil => rfl
  | cons line rest ih =>
      have hnext := lineTop_mono (show index < index + 1 by omega)
      rw [linesShade, Shade.over, ih (by omega), lineShade,
        Canvas.textShade_eq_none (Or.inr (Or.inl h))]
      rfl

/-- In the rows of a line only this line is drawn. -/
theorem linesShade_row {line : String} (hline : lines[i]? = some line) (hrow : row < Glyph.size) :
    linesShade index lines x (lineTop (index + i) + row) =
      lineShade (index + i) line x (lineTop (index + i) + row) := by
  induction lines generalizing index i with
  | nil => cases hline
  | cons first rest ih =>
      rw [linesShade, Shade.over]
      cases i with
      | zero =>
          cases hline
          have hnext := lineTop_mono (show index < index + 1 by omega)
          simp only [Nat.add_zero]
          rw [linesShade_eq_none (by omega), Option.none_or]
      | succ i =>
          have habove := lineTop_mono (show index < index + (i + 1) by omega)
          have hfirst : lineShade index first x (lineTop (index + (i + 1)) + row) = none :=
            Canvas.textShade_eq_none (Or.inr (Or.inr (by omega)))
          rw [hfirst, Option.or_none, show index + (i + 1) = index + 1 + i by omega]
          exact ih hline

/-- In the rows of a line the page shows nothing but this line. -/
theorem pageShade_row {line : String} (hline : lines[i]? = some line) (hrow : row < Glyph.size) :
    pageShade route lines x (lineTop i + row) = lineShade i line x (lineTop i + row) := by
  have hbelow := headerHeight_le_lineTop i
  have hlines : linesShade 0 lines x (lineTop (0 + i) + row) = _ := linesShade_row hline hrow
  rw [Nat.zero_add] at hlines
  have hroute : textShade margin margin route.toList headerInk headerPaper x (lineTop i + row) =
      none := by
    refine Canvas.textShade_eq_none (Or.inr (Or.inr ?_))
    have hband : margin + Glyph.size ≤ headerHeight := by decide
    omega
  have hband : bandShade x (lineTop i + row) = none := if_neg (by omega)
  rw [pageShade, Shade.over, Shade.over, hlines, hroute, hband, Option.or_none, Option.or_none]

/-! ## Drawing the parts -/

theorem drawLines_cons {line : String} : drawLines index (line :: lines) c = .ok c' ↔
    ∃ drawn, c.drawText margin (lineTop index) line ink background = .ok drawn ∧
      drawLines (index + 1) lines drawn = .ok c' := Canvas.bind_eq_ok_iff

theorem drawLines_paints (h : drawLines index lines c = .ok c') :
    Paints (linesShade index lines) c c' := by
  induction lines generalizing index c with
  | nil =>
      cases h
      exact Canvas.paints_none _
  | cons line rest ih =>
      obtain ⟨drawn, hline, hrest⟩ := drawLines_cons.mp h
      exact (Canvas.drawText_paints hline).over (ih hrest)

/-- The steps in which a page is drawn. -/
theorem render_eq_ok_iff : render v extent route lines = .ok c' ↔
    contentHeight lines.length < sizeLimit ∧
      ∃ blank, Canvas.create v.width (height v extent lines.length) background = .ok blank ∧
      ∃ band, blank.drawRect 0 0 v.width headerHeight headerPaper = .ok band ∧
      ∃ titled, band.drawText margin margin route headerInk headerPaper = .ok titled ∧
        drawLines 0 lines titled = .ok c' := by
  simp only [render, Canvas.bind_eq_ok_iff, Canvas.inRange_eq_ok_iff, and_assoc, exists_and_left,
    exists_eq_left']

/-- A drawn page has the size of its surface, and shows its shade on the background. -/
structure Shows (route : String) (lines : List String) (width height : Nat) (c : Canvas) : Prop where
  width : c.width = width
  height : c.height = height
  pixel : ∀ {x y}, x < c.width → y < c.height →
    c.pixel x y = (pageShade route lines x y).getD background

theorem render_shows (h : render v extent route lines = .ok c) :
    Shows route lines v.width (height v extent lines.length) c := by
  obtain ⟨-, blank, hblank, band, hband, titled, htitled, hlines⟩ := render_eq_ok_iff.mp h
  have hblank := Canvas.create_blank hblank
  have hband : Paints bandShade blank band := by
    refine (Canvas.drawRect_paints hband).congr fun x y hx _ => ?_
    rw [hblank.width] at hx
    simp only [Canvas.rectangleShade, bandShade, Nat.zero_le, Nat.zero_add, hx, true_and]
  have hdrawn : Paints (pageShade route lines) blank c :=
    (hband.over (Canvas.drawText_paints htitled)).over (drawLines_paints hlines)
  refine ⟨hdrawn.width.trans hblank.width, hdrawn.height.trans hblank.height, fun hx hy => ?_⟩
  rw [hdrawn.width] at hx
  rw [hdrawn.height] at hy
  rw [hdrawn.pixel hx hy, hblank.pixel hx hy]

/-! ## Pages that can be drawn -/

/-- All numbers that are needed to draw a page have 32 bits. -/
structure Fits (v : Viewport) (extent : Capture.Extent) (route : String) (lines : List String) :
    Prop where
  content : contentHeight lines.length < sizeLimit
  bytes : 3 * (v.width * height v extent lines.length) < sizeLimit
  texts : ∀ text ∈ route :: lines, Canvas.TextFits v.width margin text.length

theorem exists_drawLines_iff :
    (∃ c', drawLines index lines c = .ok c') ↔
      ∀ line ∈ lines, Canvas.TextFits c.width margin line.length := by
  induction lines generalizing index c with
  | nil => exact ⟨fun _ => List.forall_mem_nil _, fun _ => ⟨c, rfl⟩⟩
  | cons line rest ih =>
      rw [List.forall_mem_cons, ← Canvas.exists_drawText_iff (lineTop index) ink background]
      simp only [drawLines_cons]
      constructor
      · rintro ⟨c', drawn, hline, hrest⟩
        have hwidth := (Canvas.drawText_paints hline).width
        exact ⟨⟨drawn, hline⟩, hwidth ▸ ih.mp ⟨c', hrest⟩⟩
      · rintro ⟨⟨drawn, hline⟩, hrest⟩
        rw [← (Canvas.drawText_paints hline).width] at hrest
        obtain ⟨c', hrest⟩ := ih.mpr hrest
        exact ⟨c', drawn, hline, hrest⟩

theorem height_lt (hcontent : contentHeight lines.length < sizeLimit) :
    height v extent lines.length < sizeLimit := by
  cases extent with
  | viewport => exact v.height_lt
  | full => exact Nat.max_lt.mpr ⟨v.height_lt, hcontent⟩

theorem exists_render_iff : (∃ c, render v extent route lines = .ok c) ↔
    Fits v extent route lines := by
  constructor
  · rintro ⟨c, h⟩
    obtain ⟨hcontent, blank, hblank, band, hband, titled, htitled, hlines⟩ := render_eq_ok_iff.mp h
    have hbytes := ((Canvas.exists_create_iff _).mp ⟨blank, hblank⟩).2.2
    have hwidth : band.width = v.width :=
      (Canvas.drawRect_paints hband).width.trans (Canvas.create_blank hblank).width
    have htitle := (Canvas.exists_drawText_iff _ _ _).mp ⟨titled, htitled⟩
    have htexts := exists_drawLines_iff.mp ⟨c, hlines⟩
    rw [(Canvas.drawText_paints htitled).width] at htexts
    exact ⟨hcontent, hbytes, hwidth ▸ List.forall_mem_cons.mpr ⟨htitle, htexts⟩⟩
  · intro h
    obtain ⟨htitle, htexts⟩ := List.forall_mem_cons.mp h.texts
    obtain ⟨blank, hblank⟩ :=
      (Canvas.exists_create_iff background).mpr ⟨v.width_lt, height_lt h.content, h.bytes⟩
    have hband : Canvas.RectangleFits blank.height 0 0 v.width headerHeight :=
      ⟨by decide, fun _ => by rw [Nat.zero_add]; exact v.width_lt⟩
    obtain ⟨band, hband⟩ := (Canvas.exists_drawRect_iff headerPaper).mpr hband
    have hwidth : band.width = v.width :=
      (Canvas.drawRect_paints hband).width.trans (Canvas.create_blank hblank).width
    rw [← hwidth] at htitle htexts
    obtain ⟨titled, htitled⟩ := (Canvas.exists_drawText_iff margin headerInk headerPaper).mpr htitle
    rw [← (Canvas.drawText_paints htitled).width] at htexts
    obtain ⟨c, hlines⟩ := exists_drawLines_iff.mpr htexts
    exact ⟨c, render_eq_ok_iff.mpr ⟨h.content, blank, hblank, band, hband, titled, htitled, hlines⟩⟩

end PageAudit.PageView
