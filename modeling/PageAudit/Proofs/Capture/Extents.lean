import PageAudit.Capture.Drawn
import PageAudit.Proofs.Picture.Pages

/-!
# The visible part and the whole page

Both pictures of a drawn page show the same page. The picture of its visible part is the top of the
picture of the whole page, and the latter is high enough for all lines, none of which reaches into
another one or into the band at the top.
-/

namespace PageAudit.PageView

variable {v : Viewport} {route : String} {lines : List String} {c : Canvas} {i : Nat} {line : String}

/-- A line has its rows for itself: they are on the surface and below the band, no other line is drawn
in them, and they show the glyphs of the line as far as the right edge. -/
structure Stands (lines : List String) (c : Canvas) (i : Nat) (line : String) : Prop where
  onSurface : lineTop i + Glyph.size ≤ c.height
  belowBand : headerHeight ≤ lineTop i
  alone : ∀ {j other cells}, j ≠ i → lines[j]? = some other →
    Glyph.lineCells c.width (lineTop j) ink background margin other.toList = .ok cells →
    ∀ cell ∈ cells, cell.y < lineTop i ∨ lineTop i + Glyph.size ≤ cell.y
  shown : ∀ {x row}, x < c.width → row < Glyph.size →
    c.pixel x (lineTop i + row) = (lineShade i line x (lineTop i + row)).getD background

/-- On a surface that is high enough for the content every line has its rows for itself. -/
theorem Shows.stands {width height : Nat} (h : Shows route lines width height c)
    (hheight : contentHeight lines.length ≤ height) (hline : lines[i]? = some line) :
    Stands lines c i line := by
  have hlength : i < lines.length := (List.getElem?_eq_some_iff.mp hline).1
  have hbottom := lineTop_le_contentHeight hlength
  rw [← h.height] at hheight
  refine ⟨Nat.le_trans hbottom hheight, headerHeight_le_lineTop i, ?_, fun hx hrow => ?_⟩
  · intro j other cells hne _ hcells cell hmem
    have hrows := Canvas.row_of_mem_lineCells hcells hmem
    rcases Nat.lt_or_gt_of_ne hne with habove | hbelow
    · have := lineTop_mono habove
      omega
    · have := lineTop_mono hbelow
      omega
  · rw [h.pixel hx (by omega), pageShade_row hline hrow]

/-- A page of which the whole can be drawn takes no text beyond the range of positions. -/
theorem fits_of_full (extent : Capture.Extent) (route : String)
    (hcontent : contentHeight lines.length < sizeLimit)
    (hbytes : 3 * (v.width * height v .full lines.length) < sizeLimit) :
    Fits v extent route lines := by
  have hheight : contentHeight 0 ≤ height v .full lines.length :=
    Nat.le_trans (by simp only [contentHeight]; omega) (Nat.le_max_right v.height _)
  have hwidth : v.width * contentHeight 0 ≤ v.width * height v .full lines.length :=
    Nat.mul_le_mul_left _ hheight
  have hcontent0 : contentHeight 0 = 48 := rfl
  have hlimit : sizeLimit = 4294967296 := rfl
  rw [hcontent0] at hwidth
  have htexts (text : String) : Canvas.TextFits v.width margin text.length :=
    Canvas.textFits_of_width (by decide) (by simp only [Glyph.size]; omega)
  refine ⟨hcontent, Nat.lt_of_le_of_lt (Nat.mul_le_mul_left 3 (Nat.mul_le_mul_left _ ?_)) hbytes,
    fun text _ => htexts text⟩
  cases extent with
  | viewport => exact Nat.le_max_left _ _
  | full => exact Nat.le_refl _

end PageAudit.PageView

namespace PageAudit.Capture.Drawn

open PageView (Stands contentHeight)

/-- If the sizes of the whole page are in range, both pictures can be drawn. The visible part has the
size of the viewport, the whole page has its width and at least its height, and they agree wherever
both are. In the picture of the whole page every line has its rows for itself. -/
theorem viewport_is_top_of_full (d : Drawn) (route : String)
    (hcontent : contentHeight (d.linesOf route).length < sizeLimit)
    (hbytes : 3 * (d.viewport.width * PageView.height d.viewport .full (d.linesOf route).length) <
      sizeLimit) :
    ∃ top full, d.render .viewport route = .ok top ∧ d.render .full route = .ok full ∧
      (top.width = d.viewport.width ∧ top.height = d.viewport.height) ∧
      (full.width = d.viewport.width ∧ d.viewport.height ≤ full.height) ∧
      (∀ x y, x < d.viewport.width → y < d.viewport.height → top.pixel x y = full.pixel x y) ∧
      ∀ i line, (d.linesOf route)[i]? = some line → Stands (d.linesOf route) full i line := by
  obtain ⟨top, htop⟩ := PageView.exists_render_iff.mpr
    (PageView.fits_of_full .viewport route hcontent hbytes)
  obtain ⟨full, hfull⟩ := PageView.exists_render_iff.mpr
    (PageView.fits_of_full .full route hcontent hbytes)
  have htopShows := PageView.render_shows htop
  have hfullShows := PageView.render_shows hfull
  have hheight : d.viewport.height ≤ full.height := by
    rw [hfullShows.height]
    exact Nat.le_max_left _ _
  refine ⟨top, full, htop, hfull, ⟨htopShows.width, htopShows.height⟩,
    ⟨hfullShows.width, hheight⟩, fun x y hx hy => ?_, fun i line hline => ?_⟩
  · rw [htopShows.pixel (htopShows.width ▸ hx) (htopShows.height ▸ hy),
      hfullShows.pixel (hfullShows.width ▸ hx) (Nat.lt_of_lt_of_le hy hheight)]
  · exact hfullShows.stands (Nat.le_max_right _ _) hline

/-- A page of two lines, of which only the first one is visible. -/
def twoLines : Drawn :=
  ⟨"shots", ⟨24, 40, by decide, by decide⟩, [("/orders", ["Orders", "3 open"])]⟩

theorem second_line_below_viewport :
    (contentHeight (twoLines.linesOf "/orders").length < sizeLimit ∧
      3 * (twoLines.viewport.width *
        PageView.height twoLines.viewport .full (twoLines.linesOf "/orders").length) < sizeLimit) ∧
    ∃ top full, twoLines.render .viewport "/orders" = .ok top ∧
      twoLines.render .full "/orders" = .ok full ∧ top.height = 40 ∧
      (∀ x y, x < 24 → y < 40 → top.pixel x y = full.pixel x y) ∧
      top.height < PageView.lineTop 1 ∧ Stands ["Orders", "3 open"] full 1 "3 open" := by
  have hcontent : contentHeight (twoLines.linesOf "/orders").length < sizeLimit := by decide
  have hbytes : 3 * (twoLines.viewport.width *
      PageView.height twoLines.viewport .full (twoLines.linesOf "/orders").length) < sizeLimit := by
    decide
  obtain ⟨top, full, htop, hfull, ⟨-, hheight⟩, -, hsame, hlines⟩ :=
    viewport_is_top_of_full twoLines "/orders" hcontent hbytes
  have hlow : top.height = 40 := hheight
  exact ⟨⟨hcontent, hbytes⟩, top, full, htop, hfull, hlow, hsame, hlow ▸ by decide,
    hlines 1 "3 open" rfl⟩

end PageAudit.Capture.Drawn
