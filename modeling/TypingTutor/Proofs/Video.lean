/-
Module: TypingTutor.Proofs.Video
Layer: Proofs
Purpose: What the drawing functions do to the bytes of a frame buffer.  A pixel on the screen is one
  write of its bytes and any other pixel is none; lines, rectangles and sprites are painted from
  pixels.  The coordinates wrap at 2^16, but never onto the screen.
Trusted boundary: none
Main exports: Video.drawPixel_painted, Video.drawLines_painted, Video.draw_rectangle_paints,
  Video.spritePaint, Video.draw_sprite_paints
-/
import TypingTutor.Core.Video

namespace TypingTutor.Video

open Raster

variable (mode : Mode)

/-- The screen as a raster of bytes. -/
def Mode.geometry : Geometry where
  width := mode.xResolution.toNat
  height := mode.yResolution.toNat
  depth := mode.bytesPerPixel

/-- The low bytes of a colour, one for each byte of a pixel. -/
def pixelBytes (color : UInt32) : List UInt8 := (colorBytes color).take mode.bytesPerPixel

theorem bytesPerPixel_bounds : 1 ≤ mode.bytesPerPixel ∧ mode.bytesPerPixel ≤ 4 := by
  have positive := mode.bits_pos
  have bounded := mode.bits_le
  unfold Mode.bytesPerPixel
  omega

theorem length_pixelBytes (color : UInt32) :
    (pixelBytes mode color).length = mode.bytesPerPixel := by
  have bounds := bytesPerPixel_bounds mode
  have four : (colorBytes color).length = 4 := rfl
  rw [pixelBytes, List.length_take, four]
  omega

/-! ### Pixels -/

/-- The index of a pixel on the screen does not wrap. -/
theorem index_eq {x y : UInt16} (column : x < mode.xResolution) (row : y < mode.yResolution) :
    ((mode.xResolution.toUInt32 * y.toUInt32 + x.toUInt32) *
      UInt32.ofNat mode.bytesPerPixel).toNat = mode.geometry.offset x.toNat y.toNat := by
  have fits : mode.geometry.offset x.toNat y.toNat + mode.bytesPerPixel ≤ mode.frameSize :=
    Geometry.offset_add_depth_le (g := mode.geometry) (UInt16.lt_iff_toNat_lt.mp column)
      (UInt16.lt_iff_toNat_lt.mp row)
  have small : mode.frameSize < 2 ^ 31 := mode.size_lt
  have bounds := bytesPerPixel_bounds mode
  have number : mode.xResolution.toNat * y.toNat + x.toNat ≤
      mode.geometry.offset x.toNat y.toNat := Nat.le_mul_of_pos_right _ bounds.1
  change mode.geometry.offset x.toNat y.toNat + _ ≤ _ at fits
  simp only [UInt32.toNat_mul, UInt32.toNat_add, UInt16.toNat_toUInt32, UInt32.toNat_ofNat']
  rw [Nat.mod_eq_of_lt (by omega : mode.bytesPerPixel < 2 ^ 32),
    Nat.mod_eq_of_lt (by omega : mode.xResolution.toNat * y.toNat < 2 ^ 32),
    Nat.mod_eq_of_lt (by omega : mode.xResolution.toNat * y.toNat + x.toNat < 2 ^ 32)]
  exact Nat.mod_eq_of_lt (by omega : mode.geometry.offset x.toNat y.toNat < 2 ^ 32)

/-- `draw_pixel` paints its pixel if it is on the screen, and says so. -/
theorem drawPixel_painted (x y : UInt16) (color : UInt32) {frameBuffer : List UInt8}
    (size : frameBuffer.length = mode.frameSize) :
    ∃ written status, drawPixel mode x y color frameBuffer = .ok (written, status) ∧
      (status = 0 ↔ x < mode.xResolution ∧ y < mode.yResolution) ∧
      Painted mode.geometry (fun px py =>
        if px = x.toNat ∧ py = y.toNat then some (pixelBytes mode color) else none)
        frameBuffer written := by
  unfold drawPixel
  by_cases off : mode.xResolution ≤ x ∨ mode.yResolution ≤ y
  · rw [if_pos off]
    refine ⟨frameBuffer, 1, rfl, ?_, ?_⟩
    · rw [← UInt16.not_le, ← UInt16.not_le, ← not_or]
      exact iff_of_false (by decide) (not_not_intro off)
    · apply (Painted.refl frameBuffer).congr
      intro px column py row
      symm
      apply if_neg
      rintro ⟨rfl, rfl⟩
      rw [UInt16.le_iff_toNat_le, UInt16.le_iff_toNat_le] at off
      exact off.elim (Nat.not_le_of_lt column) (Nat.not_le_of_lt row)
  · rw [if_neg off]
    rw [not_or, UInt16.not_le, UInt16.not_le] at off
    obtain ⟨column, row⟩ := off
    have enough : ¬ (colorBytes color).length < mode.bytesPerPixel :=
      Nat.not_lt_of_le (bytesPerPixel_bounds mode).2
    obtain ⟨written, stored, painted⟩ := painted_store (g := mode.geometry) size
      (length_pixelBytes mode color) (UInt16.lt_iff_toNat_lt.mp column)
      (UInt16.lt_iff_toNat_lt.mp row)
    refine ⟨written, 0, ?_, iff_of_true rfl ⟨column, row⟩, painted⟩
    dsimp only
    rw [index_eq mode column row, copyColor, if_neg enough]
    rw [pixelBytes] at stored
    rw [stored]
    rfl

/-! ### Lines and rectangles -/

/-- A line stops at the first pixel off the screen, before its coordinate wraps. -/
theorem drawLineLoop_painted (x y : UInt16) (color : UInt32) (left : Nat) {i : Nat}
    {frameBuffer : List UInt8} (size : frameBuffer.length = mode.frameSize)
    (unwrapped : x.toNat + i < 2 ^ 16) :
    ∃ drawn status, drawLineLoop mode x y color left i frameBuffer = .ok (drawn, status) ∧
      Painted mode.geometry (fun px py =>
        if py = y.toNat ∧ x.toNat + i ≤ px ∧ px < x.toNat + i + left then
          some (pixelBytes mode color) else none) frameBuffer drawn := by
  induction left generalizing i frameBuffer with
  | zero =>
      refine ⟨frameBuffer, 0, rfl, (Painted.refl frameBuffer).congr ?_⟩
      intro px _ py _
      exact (if_neg (by omega)).symm
  | succ left ih =>
      obtain ⟨written, status, drewPixel, onScreen, painted⟩ :=
        drawPixel_painted mode (x + UInt16.ofNat i) y color size
      have coordinate : (x + UInt16.ofNat i).toNat = x.toNat + i := by
        rw [UInt16.toNat_add, UInt16.toNat_ofNat']
        omega
      rw [coordinate] at painted
      rw [UInt16.lt_iff_toNat_lt, UInt16.lt_iff_toNat_lt, coordinate] at onScreen
      rw [drawLineLoop, drewPixel]
      have bound := mode.xResolution.toNat_lt
      by_cases failed : status ≠ 0
      · refine ⟨written, 1, if_pos failed, painted.congr ?_⟩
        have off := mt onScreen.mpr failed
        intro px column py row
        have column' : px < mode.xResolution.toNat := column
        have row' : py < mode.yResolution.toNat := row
        rw [if_neg (by omega), if_neg (by omega)]
      · have inside := onScreen.mp (not_not.mp failed)
        obtain ⟨drawn, result, rest, paintedRest⟩ :=
          ih (painted.length.trans size) (by omega : x.toNat + (i + 1) < 2 ^ 16)
        refine ⟨drawn, result, (if_neg failed).trans rest, (painted.trans paintedRest).congr ?_⟩
        intro px column py row
        by_cases later : py = y.toNat ∧ x.toNat + (i + 1) ≤ px ∧ px < x.toNat + (i + 1) + left
        · rw [if_pos later, Option.some_or, if_pos (by omega)]
        · rw [if_neg later, Option.none_or]
          by_cases here : px = x.toNat + i ∧ py = y.toNat
          · rw [if_pos here, if_pos (by omega)]
          · rw [if_neg here, if_neg (by omega)]

/-- The lines of a rectangle paint what lies on one of them. -/
theorem drawLines_painted (x y width : UInt16) (color : UInt32) {rows : List Nat}
    (unwrapped : ∀ i ∈ rows, y.toNat + i < 65536) {frameBuffer : List UInt8}
    (size : frameBuffer.length = mode.frameSize) :
    ∃ drawn, rows.foldlM
        (fun frameBuffer i => do
          let drawn ← drawLine mode x (y + UInt16.ofNat i) width color frameBuffer
          return drawn.1) frameBuffer = (.ok drawn : Except Fault (List UInt8)) ∧
      Painted mode.geometry (fun px py =>
        if (x.toNat ≤ px ∧ px < x.toNat + width.toNat) ∧ ∃ i ∈ rows, py = y.toNat + i then
          some (pixelBytes mode color) else none) frameBuffer drawn := by
  have lines : ∀ i ∈ rows, ∀ frameBuffer : List UInt8,
      frameBuffer.length = mode.frameSize → ∃ next,
        (do
          let drawn ← drawLine mode x (y + UInt16.ofNat i) width color frameBuffer
          return drawn.1 : Except Fault (List UInt8)) = .ok next ∧
        next.length = mode.frameSize ∧
        Painted mode.geometry (fun px py =>
          if py = y.toNat + i ∧ x.toNat ≤ px ∧ px < x.toNat + width.toNat then
            some (pixelBytes mode color) else none) frameBuffer next := by
    intro i member frameBuffer size
    have inside := unwrapped i member
    obtain ⟨drawn, status, drew, painted⟩ := drawLineLoop_painted mode x (y + UInt16.ofNat i) color
      width.toNat (i := 0) size x.toNat_lt
    have coordinate : (y + UInt16.ofNat i).toNat = y.toNat + i := by
      rw [UInt16.toNat_add, UInt16.toNat_ofNat']
      omega
    rw [coordinate] at painted
    refine ⟨drawn, ?_, painted.length.trans size, painted⟩
    rw [drawLine, drew]
    rfl
  obtain ⟨drawn, drew, _, painted⟩ := @painted_foldlM UInt8 Fault Nat mode.geometry (List UInt8) id
    (fun frameBuffer => frameBuffer.length = mode.frameSize) _ _ _ lines frameBuffer size
  refine ⟨drawn, drew, painted.congr ?_⟩
  intro px _ py _
  apply lastPaint_eq
  · intro i member
    by_cases here : py = y.toNat + i ∧ x.toNat ≤ px ∧ px < x.toNat + width.toNat
    · right
      rw [if_pos here, if_pos ⟨here.2, i, member, here.1⟩]
    · left
      exact if_neg here
  · intro covered
    by_cases within : (x.toNat ≤ px ∧ px < x.toNat + width.toNat) ∧ ∃ i ∈ rows, py = y.toNat + i
    · obtain ⟨columns, i, member, row⟩ := within
      refine ⟨i, member, ?_⟩
      rw [if_pos ⟨row, columns⟩, if_pos ⟨columns, i, member, row⟩]
    · rw [if_neg within] at covered
      exact absurd rfl covered

/-- The pixels of a rectangle. -/
def rectanglePaint (x y width height : UInt16) (color : UInt32) (px py : Nat) :
    Option (List UInt8) :=
  if (x.toNat ≤ px ∧ px < x.toNat + width.toNat) ∧ (y.toNat ≤ py ∧ py < y.toNat + height.toNat) then
    some (pixelBytes mode color)
  else none

/-- `draw_rectangle` paints the pixels of the rectangle that are on the screen, and nothing else. -/
theorem draw_rectangle_paints (x y width height : UInt16) (color : UInt32)
    {frameBuffer : List UInt8} (size : frameBuffer.length = mode.frameSize)
    (unwrapped : y.toNat + height.toNat ≤ 65536) :
    ∃ drawn, drawRectangle mode x y width height color frameBuffer = .ok drawn ∧
      Painted mode.geometry (rectanglePaint mode x y width height color) frameBuffer drawn := by
  have inside : ∀ i ∈ List.range height.toNat, y.toNat + i < 65536 := by
    intro i member
    have below := List.mem_range.mp member
    omega
  obtain ⟨drawn, drew, painted⟩ := drawLines_painted mode x y width color inside size
  refine ⟨drawn, drew, painted.congr fun px _ py _ => ?_⟩
  have rows : (∃ i ∈ List.range height.toNat, py = y.toNat + i) ↔
      y.toNat ≤ py ∧ py < y.toNat + height.toNat := by
    constructor
    · rintro ⟨i, member, rfl⟩
      have below := List.mem_range.mp member
      omega
    · rintro ⟨low, high⟩
      exact ⟨py - y.toNat, List.mem_range.mpr (by omega), by omega⟩
  rw [rectanglePaint]
  exact if_congr (and_congr_right fun _ => rows) rfl rfl

/-- A screen of two pixels. -/
def twoPixels : Mode where
  xResolution := 2
  yResolution := 1
  bitsPerPixel := 8
  bits_pos := by decide
  bits_le := by decide
  size_lt := by decide

theorem wide_rectangle_is_clipped :
    ∃ drawn, drawRectangle twoPixels 1 0 5 1 7 [0, 0] = .ok drawn ∧
      Painted twoPixels.geometry (rectanglePaint twoPixels 1 0 5 1 7) [0, 0] drawn :=
  draw_rectangle_paints twoPixels 1 0 5 1 7 rfl (by decide)

/-! ### Sprites -/

/-- The pixels of a sprite that are not transparent, in their colours or in the single colour. -/
def spritePaint (sprite : PixelMap) (x y : Int) (singleColor : Bool) (color : UInt32)
    (px py : Nat) : Option (List UInt8) :=
  let col := (px : Int) - x
  let row := (py : Int) - y
  if (0 ≤ col ∧ col < sprite.width.toNat) ∧ (0 ≤ row ∧ row < sprite.height.toNat) then
    let spriteColor := sprite.colors.getD (col.toNat + row.toNat * sprite.width.toNat) transparent
    if spriteColor ≠ transparent then
      some (pixelBytes mode (if singleColor then color else spriteColor))
    else none
  else none

/-- The buffer that `moving` selects, and the other one. -/
def Canvas.selected (moving : Bool) (canvas : Canvas) : List UInt8 :=
  if moving then canvas.secondaryFrameBuffer else canvas.secondaryFrameBufferNoMouse

def Canvas.other (moving : Bool) (canvas : Canvas) : List UInt8 :=
  if moving then canvas.secondaryFrameBufferNoMouse else canvas.secondaryFrameBuffer

/-- The positions from which no pixel wraps onto the screen. -/
def Placed (resolution size : UInt16) (position : Int) : Prop :=
  (resolution.toNat : Int) - 65536 ≤ position ∧ position + size.toNat ≤ 65536

/-- A coordinate wraps, but not onto the screen. -/
theorem wrapped_eq_iff {resolution size : UInt16} {position : Int}
    (placed : Placed resolution size position) {i p : Nat} (inside : i < size.toNat)
    (onScreen : p < resolution.toNat) :
    p = (UInt16.ofInt (position + i)).toNat ↔ (p : Int) = position + i := by
  obtain ⟨low, high⟩ := placed
  have bound := resolution.toNat_lt
  simp only [UInt16.ofInt, UInt16.toNat_ofNat']
  omega

/-- What stays the same while a sprite is drawn. -/
structure Drawing (singleColor : Bool) (color : UInt32) (moving : Bool) (other : List UInt8)
    (canvas : Canvas) : Prop where
  size : (canvas.selected moving).length = mode.frameSize
  other : canvas.other moving = other
  color : singleColor = true → canvas.color = color

variable {mode} {sprite : PixelMap} {x y : Int} {singleColor moving : Bool} {color : UInt32}
  {other : List UInt8}

/-- Reassigning `color` leaves the buffers alone and gives the colour that is drawn. -/
theorem Drawing.recolor {canvas : Canvas}
    (drawing : Drawing mode singleColor color moving other canvas) (spriteColor : UInt32) :
    let canvas' := if (!singleColor) = true then { canvas with color := spriteColor } else canvas
    Drawing mode singleColor color moving other canvas' ∧
      canvas'.color = (if singleColor then color else spriteColor) ∧
      canvas'.selected moving = canvas.selected moving := by
  cases singleColor with
  | true => exact ⟨drawing, drawing.color rfl, rfl⟩
  | false => exact ⟨⟨drawing.size, drawing.other, by simp⟩, rfl, rfl⟩

/-- The paint of the sprite at the place of one of its pixels. -/
theorem spritePaint_at {row col px py : Nat} {spriteColor : UInt32} (inRow : col < sprite.width.toNat)
    (inColumn : row < sprite.height.toNat)
    (found : sprite.colors[col + row * sprite.width.toNat]? = some spriteColor)
    (column : (px : Int) = x + col) (line : (py : Int) = y + row) :
    spritePaint mode sprite x y singleColor color px py =
      if spriteColor ≠ transparent then
        some (pixelBytes mode (if singleColor then color else spriteColor)) else none := by
  have atCol : (px : Int) - x = col := by omega
  have atRow : (py : Int) - y = row := by omega
  simp only [spritePaint, atCol, atRow, Int.toNat_natCast]
  rw [if_pos (by omega), List.getD_eq_getElem?_getD, found, Option.getD_some]

/-- Writing the selected buffer. -/
theorem write_selected {canvas : Canvas} {column line : UInt16} {written : List UInt8} {status : Int}
    (drew : drawPixel mode column line canvas.color (canvas.selected moving) = .ok (written, status)) :
    ∃ next : Canvas,
      (if moving then do
          let drawn ← drawPixel mode column line canvas.color canvas.secondaryFrameBuffer
          return { canvas with secondaryFrameBuffer := drawn.1 }
        else do
          let drawn ← drawPixel mode column line canvas.color canvas.secondaryFrameBufferNoMouse
          return { canvas with secondaryFrameBufferNoMouse := drawn.1 } : Except Fault Canvas) =
        .ok next ∧
      next.selected moving = written ∧ next.other moving = canvas.other moving ∧
        next.color = canvas.color := by
  cases moving with
  | true =>
      refine ⟨{ canvas with secondaryFrameBuffer := written }, ?_, rfl, rfl, rfl⟩
      change drawPixel _ _ _ _ canvas.secondaryFrameBuffer = _ at drew
      rw [if_pos rfl, drew]
      rfl
  | false =>
      refine ⟨{ canvas with secondaryFrameBufferNoMouse := written }, ?_, rfl, rfl, rfl⟩
      change drawPixel _ _ _ _ canvas.secondaryFrameBufferNoMouse = _ at drew
      rw [if_neg Bool.false_ne_true, drew]
      rfl

/-- One pixel of the sprite. -/
theorem drawSpritePixel_painted (placedX : Placed mode.xResolution sprite.width x)
    (placedY : Placed mode.yResolution sprite.height y) {row col : Nat}
    (inRow : col < sprite.width.toNat) (inColumn : row < sprite.height.toNat) {canvas : Canvas}
    (drawing : Drawing mode singleColor color moving other canvas) :
    ∃ next, drawSpritePixel mode sprite x y singleColor moving row col canvas = .ok next ∧
      Drawing mode singleColor color moving other next ∧
      Painted mode.geometry (fun px py =>
        if (px : Int) = x + col ∧ (py : Int) = y + row then
          spritePaint mode sprite x y singleColor color px py else none)
        (canvas.selected moving) (next.selected moving) := by
  have inside : col + row * sprite.width.toNat < sprite.colors.length := by
    have rows := Nat.mul_le_mul_right sprite.width.toNat (Nat.succ_le_of_lt inColumn)
    rw [Nat.succ_mul] at rows
    rw [sprite.size, Nat.mul_comm sprite.width.toNat]
    omega
  have found := List.getElem?_eq_getElem inside
  generalize spriteColorEq : sprite.colors[col + row * sprite.width.toNat] = spriteColor at found
  unfold drawSpritePixel
  rw [found]
  dsimp only
  by_cases visible : spriteColor ≠ transparent
  · rw [if_pos visible]
    obtain ⟨drawing', chosen, same⟩ := drawing.recolor spriteColor
    generalize (if (!singleColor) = true then { canvas with color := spriteColor } else canvas) =
      canvas' at drawing' chosen same ⊢
    obtain ⟨written, status, drew, _, painted⟩ := drawPixel_painted mode
      (UInt16.ofInt (x + col)) (UInt16.ofInt (y + row)) canvas'.color drawing'.size
    have paints : Painted mode.geometry (fun px py =>
        if (px : Int) = x + col ∧ (py : Int) = y + row then
          spritePaint mode sprite x y singleColor color px py else none)
        (canvas.selected moving) written := by
      rw [← same]
      apply painted.congr
      intro px column py line
      have places := and_congr (wrapped_eq_iff placedX inRow column)
        (wrapped_eq_iff placedY inColumn line)
      by_cases here : (px : Int) = x + col ∧ (py : Int) = y + row
      · rw [if_pos here, if_pos (places.mpr here), spritePaint_at inRow inColumn found here.1 here.2,
          if_pos visible, chosen]
      · rw [if_neg here, if_neg (mt places.mp here)]
    obtain ⟨next, returned, selected, other, color⟩ := write_selected drew
    refine ⟨next, returned, ⟨?_, other.trans drawing'.other, ?_⟩, selected ▸ paints⟩
    · rw [selected]
      exact painted.length.trans drawing'.size
    · intro single
      exact color.trans (drawing'.color single)
  · rw [if_neg visible]
    refine ⟨canvas, rfl, drawing, (Painted.refl _).congr ?_⟩
    intro px _ py _
    split_ifs with here
    · rw [spritePaint_at inRow inColumn found here.1 here.2, if_neg visible]
    · rfl

/-- One row of the sprite. -/
theorem drawSpriteRow_painted (placedX : Placed mode.xResolution sprite.width x)
    (placedY : Placed mode.yResolution sprite.height y) {row : Nat}
    (inColumn : row < sprite.height.toNat) {canvas : Canvas}
    (drawing : Drawing mode singleColor color moving other canvas) :
    ∃ next, (List.range sprite.width.toNat).foldlM (fun canvas col =>
        drawSpritePixel mode sprite x y singleColor moving row col canvas) canvas = .ok next ∧
      Drawing mode singleColor color moving other next ∧
      Painted mode.geometry (fun px py =>
        if (py : Int) = y + row then spritePaint mode sprite x y singleColor color px py else none)
        (canvas.selected moving) (next.selected moving) := by
  obtain ⟨next, drew, kept, painted⟩ := painted_foldlM
    (fun col member _ drawing => drawSpritePixel_painted placedX placedY
      (List.mem_range.mp member) inColumn drawing) drawing
  refine ⟨next, drew, kept, painted.congr ?_⟩
  intro px _ py _
  apply lastPaint_eq
  · intro col _
    by_cases here : (px : Int) = x + col ∧ (py : Int) = y + row
    · right
      rw [if_pos here, if_pos here.2]
    · left
      exact if_neg here
  · intro covered
    by_cases line : (py : Int) = y + row
    · rw [if_pos line] at covered ⊢
      have within : 0 ≤ (px : Int) - x ∧ (px : Int) - x < sprite.width.toNat := by
        by_contra outside
        exact covered (if_neg (fun inside => outside inside.1))
      refine ⟨((px : Int) - x).toNat, List.mem_range.mpr (by omega), ?_⟩
      exact if_pos ⟨by omega, line⟩
    · rw [if_neg line] at covered
      exact absurd rfl covered

/-- `drawSpriteXPM` paints the visible pixels of the sprite into the selected buffer, and nothing
else. -/
theorem draw_sprite_paints (mode : Mode) (sprite : PixelMap) (x y : Int) (singleColor : Bool)
    (color : UInt32) (moving : Bool) (secondary noMouse : List UInt8)
    (secondarySize : secondary.length = mode.frameSize)
    (noMouseSize : noMouse.length = mode.frameSize)
    (placedX : Placed mode.xResolution sprite.width x)
    (placedY : Placed mode.yResolution sprite.height y) :
    ∃ canvas, drawSpriteXPM mode (some sprite) x y singleColor color moving secondary noMouse =
        .ok (canvas, 0) ∧
      Painted mode.geometry (spritePaint mode sprite x y singleColor color)
        (if moving then secondary else noMouse) (canvas.selected moving) ∧
      canvas.other moving = if moving then noMouse else secondary := by
  have start : Drawing mode singleColor color moving (if moving then noMouse else secondary)
      ⟨color, secondary, noMouse⟩ := by
    cases moving with
    | true => exact ⟨secondarySize, rfl, fun _ => rfl⟩
    | false => exact ⟨noMouseSize, rfl, fun _ => rfl⟩
  obtain ⟨canvas, drew, kept, painted⟩ := painted_foldlM
    (fun row member _ drawing => drawSpriteRow_painted placedX placedY
      (List.mem_range.mp member) drawing) start
  refine ⟨canvas, ?_, ?_, kept.other⟩
  · rw [drawSpriteXPM, drew]
    rfl
  · apply painted.congr
    intro px _ py _
    apply lastPaint_eq
    · intro row _
      by_cases line : (py : Int) = y + row
      · exact .inr (if_pos line)
      · exact .inl (if_neg line)
    · intro covered
      have within : 0 ≤ (py : Int) - y ∧ (py : Int) - y < sprite.height.toNat := by
        by_contra outside
        exact covered (if_neg (fun inside => outside inside.2))
      refine ⟨((py : Int) - y).toNat, List.mem_range.mpr (by omega), ?_⟩
      exact if_pos (by omega)

/-- A transparent pixel beside a red one. -/
def halfVisible : PixelMap where
  width := 2
  height := 1
  colors := [transparent, 0xFF0000]
  size := by decide

theorem sprite_left_of_screen :
    ∃ canvas, drawSpriteXPM twoPixels (some halfVisible) (-1) 0 false 0 true [0, 0] [0, 0] =
        .ok (canvas, 0) ∧
      Painted twoPixels.geometry (spritePaint twoPixels halfVisible (-1) 0 false 0)
        [0, 0] (canvas.selected true) ∧
      canvas.other true = [0, 0] :=
  draw_sprite_paints twoPixels halfVisible (-1) 0 false 0 true [0, 0] [0, 0] rfl rfl
    (by unfold Placed; decide) (by unfold Placed; decide)

end TypingTutor.Video
