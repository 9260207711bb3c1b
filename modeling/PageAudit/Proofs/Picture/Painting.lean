import Mathlib.Logic.Basic
import PageAudit.Picture.Glyph

/-!
# What drawing shows

Drawing gives new colors to some places and leaves all others as they are. Which places, and which
colors, is said by a shade, that is by a function on all places: the canvas shows the part of it that
lies within its borders. So the same drawing on canvases of different sizes is one shade, and what is
cut off at a border is no case of its own.
-/

namespace PageAudit.Canvas

/-- New colors for some places. -/
abbrev Shade := Nat → Nat → Option Color

/-- The second canvas is the first one with the places of the shade in their new colors. -/
structure Paints (shade : Shade) (c c' : Canvas) : Prop where
  width : c'.width = c.width
  height : c'.height = c.height
  pixel : ∀ {x y}, x < c.width → y < c.height → c'.pixel x y = (shade x y).getD (c.pixel x y)

/-- One shade on top of another. -/
def Shade.over (upper lower : Shade) : Shade := fun x y => (upper x y).or (lower x y)

variable {c c' c'' : Canvas} {shade : Shade} {cell : Cell} {cells : List Cell} {color : Color}
  {x y : Nat}

theorem Paints.over {upper lower : Shade} (h : Paints lower c c') (h' : Paints upper c' c'') :
    Paints (upper.over lower) c c'' where
  width := h'.width.trans h.width
  height := h'.height.trans h.height
  pixel hx hy := by
    rw [h'.pixel (h.width ▸ hx) (h.height ▸ hy), h.pixel hx hy, Shade.over, Option.getD_or]

theorem Paints.congr {shade' : Shade} (h : Paints shade c c')
    (heq : ∀ x y, x < c.width → y < c.height → shade x y = shade' x y) : Paints shade' c c' where
  width := h.width
  height := h.height
  pixel hx hy := heq _ _ hx hy ▸ h.pixel hx hy

theorem paints_none (c : Canvas) : Paints (fun _ _ => none) c c := ⟨rfl, rfl, fun _ _ => rfl⟩

/-! ## What is in range -/

theorem bind_eq_ok_iff {E A B : Type} {r : Except E A} {next : A → Except E B} {b : B} :
    r >>= next = .ok b ↔ ∃ a, r = .ok a ∧ next a = .ok b := by
  cases r <;> simp [bind, Except.bind]

theorem map_eq_ok_iff {E A B : Type} {r : Except E A} {f : A → B} {b : B} :
    r.map f = .ok b ↔ ∃ a, r = .ok a ∧ f a = b := by
  cases r <;> simp [Except.map]

theorem inRange_eq_ok_iff {m n : Nat} : inRange n = .ok m ↔ n < sizeLimit ∧ n = m := by
  rw [inRange]
  split <;> simp [*]

/-! ## Single cells -/

theorem place_lt {width height : Nat} (hx : x < width) (hy : y < height) :
    y * width + x < width * height :=
  calc y * width + x < (y + 1) * width := by rw [Nat.succ_mul]; omega
    _ ≤ width * height := by rw [Nat.mul_comm width]; exact Nat.mul_le_mul_right _ hy

theorem place_inj {width x' y' : Nat} (hx : x < width) (hx' : x' < width)
    (h : y * width + x = y' * width + x') : x = x' ∧ y = y' := by
  have hpos : 0 < width := Nat.zero_lt_of_lt hx
  have hdiv : (y * width + x) / width = (y' * width + x') / width := by rw [h]
  rw [Nat.mul_comm y, Nat.mul_comm y', Nat.mul_add_div hpos, Nat.mul_add_div hpos,
    Nat.div_eq_of_lt hx, Nat.div_eq_of_lt hx'] at hdiv
  have hy : y = y' := by omega
  subst hy
  omega

theorem width_set (c : Canvas) (cell : Cell) : (c.set cell).width = c.width := by
  unfold set
  split <;> rfl

theorem height_set (c : Canvas) (cell : Cell) : (c.set cell).height = c.height := by
  unfold set
  split <;> rfl

theorem pixel_eq (hx : x < c.width) (hy : y < c.height) :
    c.pixel x y = c.pixels.getD (y * c.width + x) .black := by
  simp [pixel, hx, hy]

theorem pixel_set (hx : x < c.width) (hy : y < c.height) :
    (c.set cell).pixel x y = if cell.x = x ∧ cell.y = y then cell.color else c.pixel x y := by
  rw [pixel_eq (by rwa [width_set]) (by rwa [height_set]), width_set, pixel_eq hx hy]
  unfold set
  split
  · next hin =>
      rw [Bool.and_eq_true, decide_eq_true_iff, decide_eq_true_iff] at hin
      rw [Array.getD_eq_getD_getElem?, Array.getD_eq_getD_getElem?, Array.getElem?_setIfInBounds]
      split
      · next hsame =>
          have hplace : cell.y * c.width + cell.x < c.pixels.size := c.size_eq ▸ place_lt hin.1 hin.2
          rw [if_pos (place_inj hin.1 hx hsame), if_pos hplace, Option.getD_some]
      · next hother =>
          rw [if_neg fun hsame => hother (by rw [hsame.1, hsame.2])]
  · next hout =>
      rw [if_neg]
      rintro ⟨rfl, rfl⟩
      exact hout (by simp [hx, hy])

/-! ## Lists of cells -/

theorem paint_append (c : Canvas) (cells more : List Cell) :
    c.paint (cells ++ more) = (c.paint cells).paint more := List.foldl_append

theorem width_paint (c : Canvas) (cells : List Cell) : (c.paint cells).width = c.width := by
  induction cells generalizing c with
  | nil => rfl
  | cons cell rest ih => exact (ih (c.set cell)).trans (width_set c cell)

theorem height_paint (c : Canvas) (cells : List Cell) : (c.paint cells).height = c.height := by
  induction cells generalizing c with
  | nil => rfl
  | cons cell rest ih => exact (ih (c.set cell)).trans (height_set c cell)

section

variable (hx : x < c.width) (hy : y < c.height)
include hx hy

theorem pixel_paint_of_none (hnone : ∀ cell ∈ cells, ¬(cell.x = x ∧ cell.y = y)) :
    (c.paint cells).pixel x y = c.pixel x y := by
  induction cells generalizing c with
  | nil => rfl
  | cons cell rest ih =>
      obtain ⟨hcell, hrest⟩ := List.forall_mem_cons.mp hnone
      calc ((c.set cell).paint rest).pixel x y = (c.set cell).pixel x y :=
            ih (by rwa [width_set]) (by rwa [height_set]) hrest
        _ = c.pixel x y := by rw [pixel_set hx hy, if_neg hcell]

theorem pixel_paint_of_mem (hmem : ⟨x, y, color⟩ ∈ cells)
    (hsame : ∀ cell ∈ cells, cell.x = x ∧ cell.y = y → cell.color = color) :
    (c.paint cells).pixel x y = color := by
  induction cells generalizing c with
  | nil => cases hmem
  | cons cell rest ih =>
      obtain ⟨-, hrest⟩ := List.forall_mem_cons.mp hsame
      have hx' : x < (c.set cell).width := by rwa [width_set]
      have hy' : y < (c.set cell).height := by rwa [height_set]
      rcases Classical.em (⟨x, y, color⟩ ∈ rest) with hlater | hlast
      · exact ih hx' hy' hlater hrest
      · have hcell : cell = ⟨x, y, color⟩ :=
          ((List.mem_cons.mp hmem).resolve_right hlast).symm
        have hnone : ∀ other ∈ rest, ¬(other.x = x ∧ other.y = y) := by
          rintro ⟨_, _, other⟩ hother ⟨rfl, rfl⟩
          cases hrest _ hother ⟨rfl, rfl⟩
          exact hlast hother
        calc ((c.set cell).paint rest).pixel x y = (c.set cell).pixel x y :=
              pixel_paint_of_none hx' hy' hnone
          _ = color := by rw [pixel_set hx hy, hcell, if_pos ⟨rfl, rfl⟩]

end

theorem paint_of_outside (h : ∀ cell ∈ cells, c.width ≤ cell.x ∨ c.height ≤ cell.y) :
    c.paint cells = c := by
  induction cells with
  | nil => rfl
  | cons cell rest ih =>
      obtain ⟨hcell, hrest⟩ := List.forall_mem_cons.mp h
      have hset : c.set cell = c := if_neg (by simp; omega)
      rw [paint, List.foldl_cons, hset]
      exact ih hrest

/-- Cells that are a shade, as far as they are on the canvas, paint it. -/
theorem paint_paints (h : ∀ x y color, x < c.width → y < c.height →
    (⟨x, y, color⟩ ∈ cells ↔ shade x y = some color)) : Paints shade c (c.paint cells) where
  width := width_paint c cells
  height := height_paint c cells
  pixel {x y} hx hy := by
    cases hshade : shade x y with
    | none =>
        refine pixel_paint_of_none hx hy ?_
        rintro ⟨_, _, color⟩ hmem ⟨rfl, rfl⟩
        rw [h _ _ _ hx hy, hshade] at hmem
        cases hmem
    | some color =>
        refine pixel_paint_of_mem hx hy ((h _ _ _ hx hy).mpr hshade) ?_
        rintro ⟨_, _, other⟩ hmem ⟨rfl, rfl⟩
        rw [h _ _ _ hx hy, hshade] at hmem
        exact (Option.some.inj hmem).symm

/-! ## Blank canvases -/

section

variable {width height : Nat}

/-- A canvas of one color. -/
structure Blank (width height : Nat) (color : Color) (c : Canvas) : Prop where
  width : c.width = width
  height : c.height = height
  pixel : ∀ {x y}, x < c.width → y < c.height → c.pixel x y = color

theorem create_blank (h : create width height color = .ok c) : Blank width height color c := by
  unfold create at h
  split at h
  · cases h
    refine ⟨rfl, rfl, fun hx hy => ?_⟩
    rw [pixel_eq hx hy, Array.getD_eq_getD_getElem?, Array.getElem?_replicate, if_pos (place_lt hx hy),
      Option.getD_some]
  · cases h

theorem exists_create_iff (color : Color) : (∃ c, create width height color = .ok c) ↔
    width < sizeLimit ∧ height < sizeLimit ∧ 3 * (width * height) < sizeLimit := by
  unfold create
  split <;> simp [*]

end

/-! ## Rectangles -/

def rectangleShade (x y width height : Nat) (color : Color) : Shade := fun px py =>
  if x ≤ px ∧ px < x + width ∧ y ≤ py ∧ py < y + height then some color else none

theorem mem_span {low high n : Nat} : n ∈ span low high ↔ low ≤ n ∧ n < high := by
  rw [span, List.mem_range'_1]
  omega

theorem mem_rectangle {left right top bottom : Nat} : cell ∈ rectangle left right top bottom color ↔
    (left ≤ cell.x ∧ cell.x < right) ∧ (top ≤ cell.y ∧ cell.y < bottom) ∧ cell.color = color := by
  obtain ⟨cx, cy, ccolor⟩ := cell
  simp only [rectangle, List.mem_flatMap, List.mem_map, mem_span, Cell.mk.injEq]
  constructor
  · rintro ⟨_, hy, _, hx, rfl, rfl, rfl⟩
    exact ⟨hx, hy, rfl⟩
  · rintro ⟨hx, hy, rfl⟩
    exact ⟨_, hy, _, hx, rfl, rfl, rfl⟩

/-- The sums in the drawing of a rectangle have 32 bits. The right edge is only looked at if there is a
row to be drawn. -/
def RectangleFits (surface x y width height : Nat) : Prop :=
  y + height < sizeLimit ∧ (y < min (y + height) surface → x + width < sizeLimit)

instance (surface x y width height : Nat) : Decidable (RectangleFits surface x y width height) :=
  inferInstanceAs (Decidable (_ ∧ (_ → _)))

theorem drawRect_eq_ok_iff {width height : Nat} : c.drawRect x y width height color = .ok c' ↔
    RectangleFits c.height x y width height ∧
      c.paint (rectangle x (min (x + width) c.width) y (min (y + height) c.height) color) = c' := by
  simp only [drawRect, bind_eq_ok_iff, inRange_eq_ok_iff, RectangleFits, and_assoc, exists_eq_left',
    exists_and_left]
  refine and_congr_right fun _ => ?_
  split
  · next hnone =>
      have hempty : rectangle x (min (x + width) c.width) y (min (y + height) c.height) color = [] := by
        rw [rectangle, span.eq_def y, Nat.sub_eq_zero_of_le hnone]
        rfl
      rw [hempty, Except.ok.injEq, and_iff_right fun hsome => absurd hsome (Nat.not_lt.mpr hnone)]
      rfl
  · next hsome =>
      rw [forall_prop_of_true (Nat.lt_of_not_le hsome), bind_eq_ok_iff]
      simp only [inRange_eq_ok_iff, and_assoc, exists_eq_left', exists_and_left, Except.ok.injEq]

theorem exists_drawRect_iff {width height : Nat} (color : Color) :
    (∃ c', c.drawRect x y width height color = .ok c') ↔ RectangleFits c.height x y width height := by
  simp only [drawRect_eq_ok_iff, exists_and_left, exists_eq', and_true]

theorem drawRect_paints {width height : Nat} (h : c.drawRect x y width height color = .ok c') :
    Paints (rectangleShade x y width height color) c c' := by
  obtain ⟨-, rfl⟩ := drawRect_eq_ok_iff.mp h
  refine paint_paints fun px py other hpx hpy => ?_
  rw [mem_rectangle, rectangleShade]
  dsimp only
  split
  · next hin =>
      rw [Option.some.injEq]
      exact ⟨fun hmem => hmem.2.2.symm, fun heq => ⟨by omega, by omega, heq.symm⟩⟩
  · next hout => exact ⟨fun hmem => absurd hmem (by omega), (nomatch ·)⟩

/-! ## Texts -/

section Texts

variable {ink paper : Color} {text : List Char} {glyph width px py : Nat} {letter : Char}

def glyphShade (glyph x y : Nat) (ink paper : Color) : Shade := fun px py =>
  if (x ≤ px ∧ px < x + Glyph.size) ∧ y ≤ py ∧ py < y + Glyph.size then
    some (if Glyph.shows glyph (py - y) (px - x) then ink else paper)
  else none

/-- The glyphs of a text side by side. -/
def textShade (x y : Nat) (text : List Char) (ink paper : Color) : Shade := fun px py =>
  if x ≤ px ∧ y ≤ py ∧ py < y + Glyph.size then
    text[(px - x) / Glyph.size]?.map fun c =>
      if Glyph.shows (Glyph.ofChar c) (py - y) ((px - x) % Glyph.size) then ink else paper
  else none

theorem textShade_eq_none (h : px < x ∨ py < y ∨ y + Glyph.size ≤ py) :
    textShade x y text ink paper px py = none := by
  rw [textShade, if_neg (by omega)]

theorem textShade_head (h : px < x + Glyph.size) :
    textShade x y (letter :: text) ink paper px py =
      glyphShade (Glyph.ofChar letter) x y ink paper px py := by
  rw [textShade, glyphShade]
  split
  · next hin =>
      have hlt : px - x < Glyph.size := by omega
      rw [if_pos (by omega), Nat.div_eq_of_lt hlt, Nat.mod_eq_of_lt hlt]
      rfl
  · next hout => rw [if_neg (by omega)]

theorem textShade_tail (h : x + Glyph.size ≤ px) :
    textShade x y (letter :: text) ink paper px py =
      textShade (x + Glyph.size) y text ink paper px py := by
  have hsize : 0 < Glyph.size := by decide
  obtain ⟨k, rfl⟩ := Nat.exists_eq_add_of_le h
  have hhere : x + Glyph.size + k - x = k + Glyph.size := by omega
  have hnext : x + Glyph.size + k - (x + Glyph.size) = k := by omega
  rw [textShade, textShade, hhere, hnext, Nat.add_div_right _ hsize, Nat.add_mod_right,
    List.getElem?_cons_succ]
  simp only [show x ≤ x + Glyph.size + k by omega, show x + Glyph.size ≤ x + Glyph.size + k by omega]

theorem mem_cells : (⟨px, py, color⟩ : Cell) ∈ Glyph.cells glyph x y ink paper ↔
    glyphShade glyph x y ink paper px py = some color := by
  rw [glyphShade, Option.ite_none_right_eq_some, Option.some.injEq]
  simp only [Glyph.cells, List.mem_flatMap, List.mem_map, List.mem_range, Cell.mk.injEq]
  constructor
  · rintro ⟨row, hrow, column, hcolumn, rfl, rfl, hcolor⟩
    rw [Nat.add_sub_cancel_left, Nat.add_sub_cancel_left]
    exact ⟨by omega, hcolor⟩
  · rintro ⟨hin, hcolor⟩
    exact ⟨py - y, by omega, px - x, by omega, by omega, by omega, hcolor⟩

theorem lineCells_cons :
    Glyph.lineCells width y ink paper x (letter :: text) = .ok cells ↔
      x + Glyph.size < sizeLimit ∧
        (width ≤ x + Glyph.size ∧ Glyph.cells (Glyph.ofChar letter) x y ink paper = cells ∨
          x + Glyph.size < width ∧ ∃ more,
            Glyph.lineCells width y ink paper (x + Glyph.size) text = .ok more ∧
              Glyph.cells (Glyph.ofChar letter) x y ink paper ++ more = cells) := by
  simp only [Glyph.lineCells, bind_eq_ok_iff, inRange_eq_ok_iff, and_assoc, exists_eq_left',
    exists_and_left]
  refine and_congr_right fun _ => ?_
  split
  · next hend => simp [hend, Nat.not_lt.mpr hend]
  · next hmore => simp [hmore, Nat.lt_of_not_le hmore, bind_eq_ok_iff]

/-- The cells of a line show its text as far as the right edge. -/
theorem mem_lineCells (h : Glyph.lineCells width y ink paper x text = .ok cells)
    (hpx : px < width) :
    ⟨px, py, color⟩ ∈ cells ↔ textShade x y text ink paper px py = some color := by
  induction text generalizing x cells with
  | nil =>
      cases h
      simp [textShade]
  | cons letter rest ih =>
      obtain ⟨-, ⟨hend, rfl⟩ | ⟨-, more, hmore, rfl⟩⟩ := lineCells_cons.mp h
      · rw [mem_cells, textShade_head (by omega)]
      · rw [List.mem_append, mem_cells, ih hmore]
        rcases Nat.lt_or_ge px (x + Glyph.size) with hhead | htail
        · have hnone : textShade (x + Glyph.size) y rest ink paper px py = none :=
            textShade_eq_none (Or.inl hhead)
          rw [textShade_head hhead, hnone]
          exact or_iff_left (nomatch ·)
        · have hnone : glyphShade (Glyph.ofChar letter) x y ink paper px py = none := by
            rw [glyphShade, if_neg (by omega)]
          rw [textShade_tail htail, hnone]
          exact or_iff_right (nomatch ·)

/-- The rows in which the cells of a line lie. -/
theorem row_of_mem_lineCells (h : Glyph.lineCells width y ink paper x text = .ok cells)
    (hmem : cell ∈ cells) : y ≤ cell.y ∧ cell.y < y + Glyph.size := by
  induction text generalizing x cells with
  | nil =>
      cases h
      cases hmem
  | cons letter rest ih =>
      have hglyph (hmem : cell ∈ Glyph.cells (Glyph.ofChar letter) x y ink paper) :
          y ≤ cell.y ∧ cell.y < y + Glyph.size := by
        have hshade := mem_cells.mp hmem
        rw [glyphShade, Option.ite_none_right_eq_some] at hshade
        exact hshade.1.2
      obtain ⟨-, ⟨-, rfl⟩ | ⟨-, more, hmore, rfl⟩⟩ := lineCells_cons.mp h
      · exact hglyph hmem
      · exact (List.mem_append.mp hmem).elim hglyph (ih hmore)

/-- The positions in the drawing of a text have 32 bits. All of its characters that begin before the right
edge are drawn, and in any case the first one. -/
def TextFits (width x length : Nat) : Prop :=
  ∀ k < length, k = 0 ∨ x + Glyph.size * k < width → x + Glyph.size * (k + 1) < sizeLimit

instance (width x length : Nat) : Decidable (TextFits width x length) :=
  inferInstanceAs (Decidable (∀ k < length, _ → _))

theorem textFits_of_width {length : Nat} (hx : x + Glyph.size < sizeLimit)
    (hwidth : width + Glyph.size ≤ sizeLimit) : TextFits width x length := by
  intro k _ hvisible
  rw [Nat.mul_succ]
  rcases hvisible with rfl | hlt
  · omega
  · omega

theorem textFits_succ {length : Nat} : TextFits width x (length + 1) ↔
    x + Glyph.size < sizeLimit ∧
      (x + Glyph.size < width → TextFits width (x + Glyph.size) length) := by
  have hshift (k : Nat) : x + Glyph.size + Glyph.size * k = x + Glyph.size * (k + 1) := by
    rw [Nat.mul_succ]
    omega
  constructor
  · intro h
    refine ⟨h 0 (Nat.succ_pos _) (Or.inl rfl), fun hmore k hk hvisible => ?_⟩
    rw [hshift]
    refine h (k + 1) (Nat.succ_lt_succ hk) (Or.inr ?_)
    rcases hvisible with rfl | hlt
    · exact hmore
    · rwa [hshift] at hlt
  · rintro ⟨hfirst, hrest⟩ k hk hvisible
    cases k with
    | zero => exact hfirst
    | succ k =>
        have hlt := hvisible.resolve_left (Nat.succ_ne_zero k)
        have hmore : x + Glyph.size < width := by
          rw [← hshift] at hlt
          omega
        have hnext := hrest hmore k (Nat.lt_of_succ_lt_succ hk) (Or.inr (by rwa [hshift]))
        rwa [hshift] at hnext

theorem exists_lineCells_iff (y : Nat) (ink paper : Color) :
    (∃ cells, Glyph.lineCells width y ink paper x text = .ok cells) ↔
      TextFits width x text.length := by
  induction text generalizing x with
  | nil => exact ⟨fun _ _ hk => absurd hk (Nat.not_lt_zero _), fun _ => ⟨[], rfl⟩⟩
  | cons letter rest ih =>
      simp only [lineCells_cons, exists_and_left, List.length_cons, textFits_succ, ← ih]
      refine and_congr_right fun _ => ?_
      constructor
      · rintro ⟨_, ⟨hend, -⟩ | ⟨-, more, hmore, -⟩⟩ hvisible
        · exact absurd hvisible (Nat.not_lt.mpr hend)
        · exact ⟨more, hmore⟩
      · intro h
        rcases Nat.lt_or_ge (x + Glyph.size) width with hvisible | hend
        · obtain ⟨more, hmore⟩ := h hvisible
          exact ⟨_, Or.inr ⟨hvisible, more, hmore, rfl⟩⟩
        · exact ⟨_, Or.inl ⟨hend, rfl⟩⟩

theorem drawText_eq_ok_iff {text : String} : c.drawText x y text ink paper = .ok c' ↔
    ∃ cells, Glyph.lineCells c.width y ink paper x text.toList = .ok cells ∧ c.paint cells = c' := by
  rw [drawText, map_eq_ok_iff]

theorem exists_drawText_iff {text : String} (y : Nat) (ink paper : Color) :
    (∃ c', c.drawText x y text ink paper = .ok c') ↔ TextFits c.width x text.length := by
  rw [← String.length_toList, ← exists_lineCells_iff y ink paper]
  simp only [drawText_eq_ok_iff]
  constructor
  · rintro ⟨_, cells, hcells, -⟩
    exact ⟨cells, hcells⟩
  · rintro ⟨cells, hcells⟩
    exact ⟨_, cells, hcells, rfl⟩

theorem drawText_paints {text : String} (h : c.drawText x y text ink paper = .ok c') :
    Paints (textShade x y text.toList ink paper) c c' := by
  obtain ⟨cells, hcells, rfl⟩ := drawText_eq_ok_iff.mp h
  exact paint_paints fun _ _ _ hx _ => mem_lineCells hcells hx

end Texts

end PageAudit.Canvas
