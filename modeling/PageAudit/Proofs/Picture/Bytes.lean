import PageAudit.Picture.Buffer
import PageAudit.Proofs.Picture.Pages

/-!
# Canvases as bytes

Drawing on a canvas is the same as drawing on its bytes, down to the drawings that are refused. So nothing
is ever read or written beyond the end of the bytes, and the only numbers that can leave their range are
those that a canvas looks at.
-/

namespace PageAudit

namespace Buffer

/-! ## The bytes of a canvas -/

def ofCanvas (c : Canvas) : Buffer := ⟨c.width, c.height, c.pixels.toList.flatMap Color.bytes⟩

/-- What a drawing on a canvas is on its bytes. -/
def ofDrawing : Except OutOfRange Canvas → Except Trap Buffer
  | .ok c => .ok (ofCanvas c)
  | .error _ => .error .overflow

variable {c : Canvas} {color ink paper : Color} {cell : Cell} {cells : List Cell} {pixels : List Color}
  {x y i : Nat}

@[simp] theorem width_ofCanvas (c : Canvas) : (ofCanvas c).width = c.width := rfl

@[simp] theorem height_ofCanvas (c : Canvas) : (ofCanvas c).height = c.height := rfl

theorem length_bytes (pixels : List Color) :
    (pixels.flatMap Color.bytes).length = 3 * pixels.length := by
  induction pixels with
  | nil => rfl
  | cons p rest ih =>
      rw [List.flatMap_cons, List.length_append, ih, List.length_cons, Nat.mul_succ, Nat.add_comm]
      rfl

theorem length_ofCanvas (c : Canvas) : (ofCanvas c).bytes.length = 3 * (c.width * c.height) := by
  rw [ofCanvas, length_bytes, Array.length_toList, c.size_eq]

theorem set_bytes (hi : i < pixels.length) :
    (((pixels.flatMap Color.bytes).set (3 * i) color.red).set (3 * i + 1) color.green).set (3 * i + 2)
      color.blue = (pixels.set i color).flatMap Color.bytes := by
  induction pixels generalizing i with
  | nil => cases hi
  | cons p rest ih =>
      cases i with
      | zero => rfl
      | succ i =>
          have := ih (Nat.lt_of_succ_lt_succ hi)
          simp only [List.flatMap_cons, List.set_cons_succ, Nat.mul_succ, ← this]
          rfl

theorem getElem?_bytes (pixels : List Color) (i : Nat) :
    (pixels.flatMap Color.bytes)[3 * i]? = pixels[i]?.map Color.red ∧
      (pixels.flatMap Color.bytes)[3 * i + 1]? = pixels[i]?.map Color.green ∧
      (pixels.flatMap Color.bytes)[3 * i + 2]? = pixels[i]?.map Color.blue := by
  induction pixels generalizing i with
  | nil => simp
  | cons p rest ih =>
      cases i with
      | zero => exact ⟨rfl, rfl, rfl⟩
      | succ i => exact ih i

/-! ## Single pixels -/

theorem word_of_lt {n : Nat} (h : n < sizeLimit) : word n = .ok n := if_pos h

theorem word_of_le {n : Nat} (h : sizeLimit ≤ n) : word n = .error .overflow :=
  if_neg (Nat.not_lt.mpr h)

section

variable (hx : x < c.width) (hy : y < c.height)
include hx hy

/-- The position of a pixel has 32 bits. -/
theorem place_ofCanvas : (ofCanvas c).place x y = .ok (3 * (y * c.width + x)) := by
  have hplace := Canvas.place_lt hx hy
  have hbytes := c.bytes_lt
  simp only [place, ofCanvas, bind, Except.bind, word_of_lt (show y * c.width < sizeLimit by omega),
    word_of_lt (show y * c.width + x < sizeLimit by omega)]
  rw [word_of_lt (by omega), Nat.mul_comm]

theorem place_lt_length : y * c.width + x < c.pixels.toList.length := by
  rw [Array.length_toList, c.size_eq]
  exact Canvas.place_lt hx hy

end

theorem store_ofCanvas (hi : i < c.pixels.toList.length) :
    (ofCanvas c).store (3 * i) color =
      .ok ⟨c.width, c.height, (c.pixels.toList.set i color).flatMap Color.bytes⟩ := by
  have hroom : 3 * i + 3 ≤ (ofCanvas c).bytes.length := by
    rw [ofCanvas, length_bytes]
    omega
  rw [store, if_pos hroom, ← set_bytes hi]
  rfl

theorem load_ofCanvas (hi : i < c.pixels.toList.length) :
    (ofCanvas c).load (3 * i) = .ok c.pixels.toList[i] := by
  obtain ⟨hred, hgreen, hblue⟩ := getElem?_bytes c.pixels.toList i
  rw [List.getElem?_eq_getElem hi] at hred hgreen hblue
  simp only [load, ofCanvas, hred, hgreen, hblue, Option.map_some]

theorem inside_iff {x y width height : Nat} :
    (decide (x < width) && decide (y < height)) = true ↔ x < width ∧ y < height := by
  rw [Bool.and_eq_true, decide_eq_true_iff, decide_eq_true_iff]

theorem set_ofCanvas (c : Canvas) (cell : Cell) :
    (ofCanvas c).set cell = .ok (ofCanvas (c.set cell)) := by
  rw [set, Canvas.set, width_ofCanvas, height_ofCanvas]
  by_cases hin : cell.x < c.width ∧ cell.y < c.height
  · obtain ⟨hx, hy⟩ := hin
    rw [if_pos (inside_iff.mpr ⟨hx, hy⟩), if_pos (inside_iff.mpr ⟨hx, hy⟩), place_ofCanvas hx hy]
    refine (store_ofCanvas (place_lt_length hx hy)).trans ?_
    simp only [ofCanvas, Array.toList_setIfInBounds]
  · rw [if_neg fun h => hin (inside_iff.mp h), if_neg fun h => hin (inside_iff.mp h)]

theorem pixel_ofCanvas (c : Canvas) (x y : Nat) : (ofCanvas c).pixel x y = .ok (c.pixel x y) := by
  rw [pixel, width_ofCanvas, height_ofCanvas]
  by_cases hin : x < c.width ∧ y < c.height
  · obtain ⟨hx, hy⟩ := hin
    have hlength := place_lt_length hx hy
    rw [if_pos (inside_iff.mpr ⟨hx, hy⟩), place_ofCanvas hx hy, Canvas.pixel_eq hx hy,
      Array.getD_eq_getD_getElem?, ← Array.getElem?_toList, List.getElem?_eq_getElem hlength]
    exact load_ofCanvas hlength
  · rw [if_neg fun h => hin (inside_iff.mp h), Canvas.pixel, if_neg fun h => hin (inside_iff.mp h)]

/-! ## Whole surfaces -/

theorem fillBytes_bytes (color : Color) (pixels : List Color) :
    fillBytes color (pixels.flatMap Color.bytes) =
      (List.replicate pixels.length color).flatMap Color.bytes := by
  induction pixels with
  | nil => rfl
  | cons p rest ih =>
      rw [List.length_cons, List.replicate_succ, List.flatMap_cons, List.flatMap_cons, ← ih]
      rfl

theorem fill_ofCanvas (c : Canvas) (color : Color) :
    (ofCanvas c).fill color = ofCanvas (c.fill color) := by
  rw [fill, ofCanvas, fillBytes_bytes, Array.length_toList, c.size_eq]
  simp only [ofCanvas, Canvas.fill, Array.toList_replicate]

theorem bytes_replicate_black (n : Nat) :
    (List.replicate n Color.black).flatMap Color.bytes = List.replicate (3 * n) 0 := by
  induction n with
  | zero => rfl
  | succ n ih =>
      rw [List.replicate_succ, List.flatMap_cons, ih]
      rfl

theorem create_ofCanvas {width height : Nat} (hwidth : width < sizeLimit)
    (hheight : height < sizeLimit) (color : Color) :
    create width height color = ofDrawing (Canvas.create width height color) := by
  rw [create, Canvas.create]
  simp only [hwidth, hheight, true_and]
  rcases Nat.lt_or_ge (3 * (width * height)) sizeLimit with hfits | hlarge
  · rw [word_of_lt (by omega), dif_pos hfits]
    simp only [bind, Except.bind, word_of_lt (show width * height * 3 < sizeLimit by omega)]
    rw [Nat.mul_comm _ 3, ← bytes_replicate_black, fill, fillBytes_bytes, List.length_replicate]
    simp only [ofDrawing, ofCanvas, Array.toList_replicate]
  · rw [dif_neg (Nat.not_lt.mpr hlarge)]
    rcases Nat.lt_or_ge (width * height) sizeLimit with harea | harea
    · simp only [word_of_lt harea, bind, Except.bind,
        word_of_le (show sizeLimit ≤ width * height * 3 by omega)]
      rfl
    · rw [word_of_le harea]
      rfl

/-! ## Rectangles -/

theorem foldlM_set (cells : List Cell) (c : Canvas) :
    cells.foldlM set (ofCanvas c) = .ok (ofCanvas (c.paint cells)) := by
  induction cells generalizing c with
  | nil => rfl
  | cons cell rest ih =>
      rw [List.foldlM_cons, set_ofCanvas]
      exact ih (c.set cell)

theorem foldlM_row (y left right : Nat) (color : Color) (c : Canvas) :
    (Canvas.span left right).foldlM (fun b x => b.set ⟨x, y, color⟩) (ofCanvas c) =
      .ok (ofCanvas (c.paint ((Canvas.span left right).map fun x => ⟨x, y, color⟩))) := by
  rw [← foldlM_set, List.foldlM_map]

theorem foldlM_rows {x width : Nat} (hright : x + width < sizeLimit) (rows : List Nat) (color : Color)
    (c : Canvas) :
    rows.foldlM (fun b y => do
        let right ← word (x + width)
        (Canvas.span x (min right b.width)).foldlM (fun b px => b.set ⟨px, y, color⟩) b)
      (ofCanvas c) =
      .ok (ofCanvas (c.paint (rows.flatMap fun y =>
        (Canvas.span x (min (x + width) c.width)).map fun px => ⟨px, y, color⟩))) := by
  rw [word_of_lt hright]
  induction rows generalizing c with
  | nil => rfl
  | cons y rest ih =>
      have hrow := foldlM_row y x (min (x + width) c.width) color c
      have hwidth := Canvas.width_paint c
        ((Canvas.span x (min (x + width) c.width)).map fun px => ⟨px, y, color⟩)
      rw [List.foldlM_cons, List.flatMap_cons, Canvas.paint_append]
      refine (congrArg (· >>= _) hrow).trans ((ih _).trans ?_)
      rw [hwidth]

theorem drawRect_ofCanvas (c : Canvas) (x y width height : Nat) (color : Color) :
    (ofCanvas c).drawRect x y width height color =
      ofDrawing (c.drawRect x y width height color) := by
  rw [drawRect, Canvas.drawRect, inRange, height_ofCanvas]
  rcases Nat.lt_or_ge (y + height) sizeLimit with hbottom | hbottom
  · rw [word_of_lt hbottom, if_pos hbottom]
    change (Canvas.span y (min (y + height) c.height)).foldlM _ _ = ofDrawing (if _ then _ else _)
    rcases Nat.lt_or_ge y (min (y + height) c.height) with hsome | hnone
    · rw [if_neg (Nat.not_le.mpr hsome)]
      rcases Nat.lt_or_ge (x + width) sizeLimit with hright | hright
      · rw [foldlM_rows hright, inRange, if_pos hright]
        rfl
      · obtain ⟨n, hn⟩ := Nat.exists_eq_add_of_lt hsome
        rw [word_of_le hright, inRange, if_neg (Nat.not_lt.mpr hright), Canvas.span, hn,
          show y + n + 1 - y = n + 1 by omega, List.range'_succ]
        rfl
    · rw [if_pos hnone, Canvas.span, Nat.sub_eq_zero_of_le hnone]
      rfl
  · rw [word_of_le hbottom, if_neg (Nat.not_lt.mpr hbottom)]
    rfl

/-! ## Texts -/

section Texts

variable {glyph row k n : Nat}

/-- The cells of a row of a glyph. -/
def rowCells (glyph row x y : Nat) (ink paper : Color) (columns : List Nat) : List Cell :=
  columns.map fun column => ⟨x + column, y, if Glyph.shows glyph row column then ink else paper⟩

/-- What is beyond the right edge is drawn on a canvas without effect. -/
theorem drawColumns_ofCanvas (c : Canvas) (hx : x + k < sizeLimit) :
    drawColumns glyph row x y ink paper (List.range' k n) (ofCanvas c) =
      .ok (ofCanvas (c.paint (rowCells glyph row x y ink paper (List.range' k n)))) := by
  induction n generalizing k c with
  | zero => rfl
  | succ n ih =>
      rw [List.range'_succ, drawColumns, word_of_lt hx]
      change (if c.width ≤ x + k then _ else _) = _
      split
      · next hend =>
          rw [Canvas.paint_of_outside]
          intro cell hcell
          rw [← List.range'_succ] at hcell
          obtain ⟨column, hcolumn, rfl⟩ := List.mem_map.mp hcell
          rw [List.mem_range'_1] at hcolumn
          exact Or.inl (Nat.le_trans hend (Nat.add_le_add_left hcolumn.1 x))
      · next hmore =>
          -- a column on the canvas lies before its width, so the next one has a number of 32 bits
          have hwidth := c.width_lt
          rw [set_ofCanvas]
          exact ih _ (by omega)

theorem drawRows_ofCanvas (c : Canvas) (hx : x < sizeLimit) (hy : y + k < sizeLimit) :
    drawRows glyph x y ink paper (List.range' k n) (ofCanvas c) =
      .ok (ofCanvas (c.paint ((List.range' k n).flatMap fun row =>
        rowCells glyph row x (y + row) ink paper (List.range Glyph.size)))) := by
  induction n generalizing k c with
  | zero => rfl
  | succ n ih =>
      rw [List.range'_succ, drawRows, word_of_lt hy]
      change (if c.height ≤ y + k then _ else _) = _
      split
      · next hend =>
          rw [Canvas.paint_of_outside]
          intro cell hcell
          rw [← List.range'_succ] at hcell
          obtain ⟨row, hrow, hcell⟩ := List.mem_flatMap.mp hcell
          obtain ⟨column, -, rfl⟩ := List.mem_map.mp hcell
          rw [List.mem_range'_1] at hrow
          exact Or.inr (Nat.le_trans hend (Nat.add_le_add_left hrow.1 y))
      · next hmore =>
          have hheight := c.height_lt
          rw [List.range_eq_range', drawColumns_ofCanvas c (k := 0) hx]
          rw [List.flatMap_cons, Canvas.paint_append]
          exact ih _ (by omega)

/-- A glyph never needs a position that is out of range. -/
theorem drawGlyph_ofCanvas (c : Canvas) (hx : x < sizeLimit) (hy : y < sizeLimit) :
    drawRows glyph x y ink paper (List.range Glyph.size) (ofCanvas c) =
      .ok (ofCanvas (c.paint (Glyph.cells glyph x y ink paper))) := by
  rw [List.range_eq_range']
  exact drawRows_ofCanvas c hx hy

theorem drawText_ofCanvas (c : Canvas) (text : List Char) (hx : x < sizeLimit) (hy : y < sizeLimit) :
    drawText y ink paper x text (ofCanvas c) =
      ofDrawing ((Glyph.lineCells c.width y ink paper x text).map c.paint) := by
  induction text generalizing c x with
  | nil => rfl
  | cons letter rest ih =>
      rw [drawText, Glyph.lineCells, drawGlyph_ofCanvas c hx hy, inRange]
      generalize Glyph.cells (Glyph.ofChar letter) x y ink paper = cells
      rcases Nat.lt_or_ge (x + Glyph.size) sizeLimit with hnext | hnext
      · rw [word_of_lt hnext, if_pos hnext]
        simp only [bind, Except.bind, width_ofCanvas, Canvas.width_paint]
        rcases Nat.lt_or_ge (x + Glyph.size) c.width with hmore | hend
        · rw [if_neg (Nat.not_le.mpr hmore), if_neg (Nat.not_le.mpr hmore), ih _ hnext,
            Canvas.width_paint]
          cases Glyph.lineCells c.width y ink paper (x + Glyph.size) rest with
          | error => rfl
          | ok more => exact congrArg (Except.ok ∘ ofCanvas) (Canvas.paint_append ..).symm
        · rw [if_pos hend, if_pos hend]
          rfl
      · rw [word_of_le hnext, if_neg (Nat.not_lt.mpr hnext)]
        rfl

end Texts

/-! ## Pages -/

section Pages

variable {r : Except OutOfRange Canvas} {f : Buffer → Except Trap Buffer}
  {g : Canvas → Except OutOfRange Canvas} {index : Nat} {lines : List String}

theorem ofDrawing_bind (h : ∀ c, f (ofCanvas c) = ofDrawing (g c)) :
    ofDrawing r >>= f = ofDrawing (r >>= g) := by
  cases r with
  | error => rfl
  | ok c => exact h c

theorem ofDrawing_bind_overflow (h : ∀ c, f (ofCanvas c) = .error .overflow) :
    ofDrawing r >>= f = .error .overflow := by
  cases r with
  | error => rfl
  | ok c => exact h c

theorem narrow_of_lt {n : Nat} (h : n < sizeLimit) : narrow n = n := Nat.mod_eq_of_lt h

/-- A number that is too large makes a sum too large. -/
theorem word_add (m n : Nat) : (do let k ← word n; word (m + k)) = word (m + n) := by
  rcases Nat.lt_or_ge n sizeLimit with h | h
  · rw [word_of_lt h]
    rfl
  · rw [word_of_le h, word_of_le (by omega)]
    rfl

theorem lineStart_eq (index : Nat) : lineStart index = word (PageView.lineTop (narrow index)) :=
  word_add ..

theorem contentEnd_eq (n : Nat) : contentEnd n = word (PageView.contentHeight (narrow n)) :=
  word_add ..

theorem drawLine_ofCanvas {top : Nat} (htop : top < sizeLimit) (c : Canvas) (text : String)
    (ink paper : Color) :
    drawText top ink paper PageView.margin text.toList (ofCanvas c) =
      ofDrawing (c.drawText PageView.margin top text ink paper) :=
  drawText_ofCanvas c text.toList (by decide) htop

theorem drawLines_ofCanvas (c : Canvas)
    (h : PageView.contentHeight (index + lines.length) < sizeLimit) :
    drawLines index lines (ofCanvas c) = ofDrawing (PageView.drawLines index lines c) := by
  induction lines generalizing index c with
  | nil => rfl
  | cons line rest ih =>
      have hlength : index + (line :: rest).length = index + 1 + rest.length := by
        rw [List.length_cons]
        omega
      rw [hlength] at h
      have hindex : index < sizeLimit := by
        simp only [PageView.contentHeight, PageView.lineHeight] at h
        omega
      have htop : PageView.lineTop index < sizeLimit := by
        have := PageView.lineTop_le_contentHeight (show index < index + 1 + rest.length by omega)
        omega
      rw [drawLines, lineStart_eq, narrow_of_lt hindex, word_of_lt htop, PageView.drawLines]
      change drawText _ _ _ _ _ _ >>= _ = _
      rw [drawLine_ofCanvas htop]
      exact ofDrawing_bind fun drawn => ih drawn h

/-- Long before the index of a line loses bits, the line has no position. -/
theorem drawLines_of_many (c : Canvas) (hindex : index < sizeLimit)
    (h : sizeLimit ≤ index + lines.length) :
    drawLines index lines (ofCanvas c) = .error .overflow := by
  induction lines generalizing index c with
  | nil => exact absurd hindex (Nat.not_lt.mpr h)
  | cons line rest ih =>
      rw [drawLines, lineStart_eq, narrow_of_lt hindex]
      rcases Nat.lt_or_ge (PageView.lineTop index) sizeLimit with htop | htop
      · have hnext : index + 1 < sizeLimit := by
          simp only [PageView.lineTop, PageView.headerHeight, PageView.lineHeight] at htop
          omega
        rw [List.length_cons] at h
        rw [word_of_lt htop]
        change drawText _ _ _ _ _ _ >>= _ = _
        rw [drawLine_ofCanvas htop]
        exact ofDrawing_bind_overflow fun drawn => ih drawn hnext (by omega)
      · rw [word_of_le htop]
        rfl

theorem surface_contentHeight (v : Viewport) (extent : Capture.Extent) (n : Nat) :
    surface v extent (PageView.contentHeight n) = PageView.height v extent n := by
  cases extent <;> rfl

theorem surface_lt {content : Nat} (v : Viewport) (extent : Capture.Extent)
    (hcontent : content < sizeLimit) : surface v extent content < sizeLimit := by
  rw [surface]
  split
  · exact Nat.max_lt.mpr ⟨v.height_lt, hcontent⟩
  · exact v.height_lt

/-- The bytes of a page are those of its canvas, and a page that cannot be drawn on a canvas has a number
that is too large for its bytes. -/
theorem render_ofDrawing (v : Viewport) (extent : Capture.Extent) (route : String)
    (lines : List String) :
    render v extent route lines = ofDrawing (PageView.render v extent route lines) := by
  have hmargin : PageView.margin < sizeLimit := by decide
  rw [render, contentEnd_eq, PageView.render, inRange]
  rcases Nat.lt_or_ge lines.length sizeLimit with hfew | hmany
  · rw [narrow_of_lt hfew]
    rcases Nat.lt_or_ge (PageView.contentHeight lines.length) sizeLimit with hcontent | hcontent
    · rw [word_of_lt hcontent, if_pos hcontent]
      change create _ _ _ >>= _ = ofDrawing (Canvas.create _ _ _ >>= _)
      rw [create_ofCanvas v.width_lt (surface_lt v extent hcontent), surface_contentHeight]
      refine ofDrawing_bind fun blank => ?_
      rw [drawRect_ofCanvas]
      refine ofDrawing_bind fun band => ?_
      rw [drawLine_ofCanvas hmargin]
      exact ofDrawing_bind fun titled => drawLines_ofCanvas titled (by rwa [Nat.zero_add])
    · rw [word_of_le hcontent, if_neg (Nat.not_lt.mpr hcontent)]
      rfl
  · have hcontent : ¬PageView.contentHeight lines.length < sizeLimit := by
      rw [PageView.contentHeight, PageView.lineHeight]
      omega
    rw [if_neg hcontent]
    rcases Nat.lt_or_ge (PageView.contentHeight (narrow lines.length)) sizeLimit with hlow | hhigh
    · rw [word_of_lt hlow]
      change create _ _ _ >>= _ = _
      rw [create_ofCanvas v.width_lt (surface_lt v extent hlow)]
      refine ofDrawing_bind_overflow fun blank => ?_
      rw [drawRect_ofCanvas]
      refine ofDrawing_bind_overflow fun band => ?_
      rw [drawLine_ofCanvas hmargin]
      exact ofDrawing_bind_overflow fun titled =>
        drawLines_of_many titled (by decide) (by rwa [Nat.zero_add])
    · rw [word_of_le hhigh]
      rfl

end Pages

end Buffer

end PageAudit
