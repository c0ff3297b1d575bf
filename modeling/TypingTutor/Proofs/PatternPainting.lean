/-
Module: TypingTutor.Proofs.PatternPainting
Layer: Proofs
Purpose: What `vg_draw_pattern` leaves in the video memory.  The pixels are written byte by byte, lines
  and rectangles are painted from pixels, and the rectangles of the pattern are tiles that all lie on
  the screen, each in the colour computed for it.
Trusted boundary: none
Main exports: Pattern.Screen, Pattern.vgDrawPixel_painted, Pattern.vgDrawRectangle_painted,
  Pattern.vgDrawPattern_painted, Pattern.direct_pattern_painted
-/
import TypingTutor.Proofs.Pattern

namespace TypingTutor.Pattern

open Raster BitField

/-- A mode with 1 to 4 bytes for a pixel and less than 2^31 bytes for the screen. -/
structure Screen extends VbeModeInfo where
  bits_pos : 0 < bitsPerPixel.toNat
  bits_le : bitsPerPixel.toNat ≤ 32
  size_lt : xResolution.toNat * yResolution.toNat * ((bitsPerPixel.toNat + 7) / 8) < 2 ^ 31

variable (screen : Screen)

/-- The screen as a raster of bytes. -/
def Screen.geometry : Geometry where
  width := screen.xResolution.toNat
  height := screen.yResolution.toNat
  depth := (screen.bitsPerPixel.toNat + 7) / 8

def Screen.globals : Globals := mapVram screen.toVbeModeInfo

theorem depth_bounds : 1 ≤ screen.geometry.depth ∧ screen.geometry.depth ≤ 4 := by
  have positive := screen.bits_pos
  have bounded := screen.bits_le
  change 1 ≤ (_ + 7) / 8 ∧ (_ + 7) / 8 ≤ 4
  omega

theorem toNat_bytesPerPixel : screen.globals.bytesPerPixel.toNat = screen.geometry.depth := by
  have bounded := screen.bits_le
  change ((screen.bitsPerPixel.toUInt32 + 7) / 8).toNat = (screen.bitsPerPixel.toNat + 7) / 8
  rw [UInt32.toNat_div, UInt32.toNat_add, UInt8.toNat_toUInt32]
  change (screen.bitsPerPixel.toNat + 7) % 2 ^ 32 / 8 = _
  rw [Nat.mod_eq_of_lt (by omega)]

/-- A byte of a colour. -/
def colorByte (color : UInt32) (i : Nat) : UInt8 :=
  ((color >>> (UInt32.ofNat i * 8)) &&& 0xFF).toUInt8

/-- The bytes of a pixel. -/
def pixelBytes (color : UInt32) : List UInt8 :=
  (List.range screen.geometry.depth).map (colorByte color)

/-! ### Pixels -/

/-- The index of a pixel on the screen does not wrap. -/
theorem toNat_pos {x y : UInt16} (column : x.toNat < screen.geometry.width)
    (row : y.toNat < screen.geometry.height) :
    ((y.toUInt32 * screen.globals.hRes + x.toUInt32) * screen.globals.bytesPerPixel).toNat =
      screen.geometry.offset x.toNat y.toNat := by
  have fits := Geometry.offset_add_depth_le column row
  have small : screen.geometry.size < 2 ^ 31 := screen.size_lt
  have bounds := depth_bounds screen
  have number : screen.geometry.width * y.toNat + x.toNat ≤ screen.geometry.offset x.toNat y.toNat :=
    Nat.le_mul_of_pos_right _ bounds.1
  have width : screen.globals.hRes.toNat = screen.geometry.width := UInt16.toNat_toUInt32 _
  rw [UInt32.toNat_mul, UInt32.toNat_add, UInt32.toNat_mul, toNat_bytesPerPixel, width,
    UInt16.toNat_toUInt32, UInt16.toNat_toUInt32, Nat.mul_comm y.toNat,
    Nat.mod_eq_of_lt (by omega : screen.geometry.width * y.toNat < 2 ^ 32),
    Nat.mod_eq_of_lt (by omega : screen.geometry.width * y.toNat + x.toNat < 2 ^ 32)]
  exact Nat.mod_eq_of_lt (by omega : screen.geometry.offset x.toNat y.toNat < 2 ^ 32)

/-- One byte of a pixel. -/
theorem writeByte_eq {pos color : UInt32} {i index : Nat} {videoMem written : List UInt8}
    (lane : i < 4) (position : (pos + UInt32.ofNat i).toNat = index)
    (stored : store videoMem index [colorByte color i] = some written) :
    writeByte pos color videoMem i = .ok written := by
  have amount : UInt32.ofNat i * 8 < 32 := by
    rw [UInt32.lt_iff_toNat_lt, UInt32.toNat_mul, UInt32.toNat_ofNat']
    change i % 2 ^ 32 * 8 % 2 ^ 32 < 32
    omega
  rw [writeByte, shiftRight, if_pos amount, position]
  dsimp only [bind, Except.bind]
  rw [colorByte] at stored
  rw [stored]
  rfl

/-- The byte loop of `vg_draw_pixel` writes its pixel. -/
theorem writeBytes_painted {x y : UInt16} (column : x.toNat < screen.geometry.width)
    (row : y.toNat < screen.geometry.height) (color : UInt32) {videoMem : List UInt8}
    (size : videoMem.length = screen.geometry.size) :
    ∃ written,
      (List.range screen.globals.bytesPerPixel.toNat).foldlM
        (writeByte ((y.toUInt32 * screen.globals.hRes + x.toUInt32) * screen.globals.bytesPerPixel)
          color) videoMem = .ok written ∧
      Painted screen.geometry
        (fun px py => if px = x.toNat ∧ py = y.toNat then some (pixelBytes screen color) else none)
        videoMem written := by
  have fits := Geometry.offset_add_depth_le column row
  have small : screen.geometry.size < 2 ^ 31 := screen.size_lt
  have bounds := depth_bounds screen
  have length : (pixelBytes screen color).length = screen.geometry.depth := by
    rw [pixelBytes, List.length_map, List.length_range]
  obtain ⟨painting, stored, painted⟩ := painted_store size length column row
  rw [toNat_bytesPerPixel]
  have position := toNat_pos screen column row
  generalize (y.toUInt32 * screen.globals.hRes + x.toUInt32) * screen.globals.bytesPerPixel = pos
    at position ⊢
  have room : screen.geometry.offset x.toNat y.toNat + screen.geometry.depth ≤ videoMem.length := by
    omega
  have steps : ∀ i < screen.geometry.depth, ∀ cells written,
      store cells (screen.geometry.offset x.toNat y.toNat + i) [colorByte color i] = some written →
        writeByte pos color cells i = .ok written := by
    intro i within cells written storedByte
    refine writeByte_eq (by omega) ?_ storedByte
    rw [UInt32.toNat_add, UInt32.toNat_ofNat', position]
    omega
  obtain ⟨written, wrote, storedAll⟩ := foldlM_store room steps
  rw [pixelBytes, storedAll] at stored
  obtain rfl := Option.some.inj stored
  exact ⟨written, wrote, painted⟩

/-- `vg_draw_pixel` on the screen. -/
theorem vgDrawPixel_painted {x y : UInt16} (column : x.toNat < screen.geometry.width)
    (row : y.toNat < screen.geometry.height) (color : UInt32) {videoMem : List UInt8}
    (size : videoMem.length = screen.geometry.size) :
    ∃ written, vgDrawPixel screen.globals x y color videoMem = .ok (written, 0) ∧
      Painted screen.geometry
        (fun px py => if px = x.toNat ∧ py = y.toNat then some (pixelBytes screen color) else none)
        videoMem written := by
  obtain ⟨written, wrote, painted⟩ := writeBytes_painted screen column row color size
  have onScreen : ¬ (screen.globals.hRes ≤ x.toUInt32 ∨ screen.globals.vRes ≤ y.toUInt32) := by
    rw [not_or, UInt32.le_iff_toNat_le, UInt32.le_iff_toNat_le, UInt16.toNat_toUInt32,
      UInt16.toNat_toUInt32]
    exact ⟨Nat.not_le_of_lt column, Nat.not_le_of_lt row⟩
  refine ⟨written, ?_, painted⟩
  rw [vgDrawPixel, if_neg onScreen]
  dsimp only
  rw [wrote]
  rfl

/-! ### Lines and rectangles -/

/-- The pixels of a rectangle, all in one colour. -/
def boxPaint (x y width height : Nat) (color : UInt32) (px py : Nat) : Option (List UInt8) :=
  if (x ≤ px ∧ px < x + width) ∧ (y ≤ py ∧ py < y + height) then some (pixelBytes screen color)
  else none

theorem toNat_coordinate {resolution : UInt16} {i : Nat} (less : i < resolution.toNat) :
    (UInt16.ofNat i).toNat = i := by
  have bound := resolution.toNat_lt
  rw [UInt16.toNat_ofNat']
  omega

theorem vgDrawHline_painted {x y len : UInt16} (columns : x.toNat + len.toNat ≤ screen.geometry.width)
    (row : y.toNat < screen.geometry.height) (color : UInt32) {videoMem : List UInt8}
    (size : videoMem.length = screen.geometry.size) :
    ∃ drawn, vgDrawHline screen.globals x y len color videoMem = .ok (drawn, 0) ∧
      Painted screen.geometry (boxPaint screen x.toNat y.toNat len.toNat 1 color) videoMem drawn := by
  have pixels : ∀ j, x.toNat ≤ j → j < x.toNat + len.toNat → ∀ cells : List UInt8,
      cells.length = screen.geometry.size → ∃ next,
        vgDrawPixel screen.globals (UInt16.ofNat j) y color cells = .ok (next, 0) ∧
        Painted screen.geometry (fun px py =>
          if px = j ∧ py = y.toNat then some (pixelBytes screen color) else none) cells next := by
    intro j _ within cells sizeCells
    have less : j < screen.xResolution.toNat := Nat.lt_of_lt_of_le within columns
    have coordinate := toNat_coordinate less
    have painted := vgDrawPixel_painted screen (coordinate.symm ▸ less) row color sizeCells
    rwa [coordinate] at painted
  obtain ⟨drawn, ran, painted⟩ := @painted_rounds _ _ _ (hlineLoop screen.globals y color)
    (fun j => vgDrawPixel screen.globals (UInt16.ofNat j) y color) _ (fun _ _ => rfl)
    (fun _ _ _ => rfl) _ _ _ size pixels
  refine ⟨drawn, ran, painted.congr ?_⟩
  intro px _ py _
  unfold boxPaint
  apply lastPaint_eq
  · intro j member
    have within := List.mem_range'_1.mp member
    by_cases here : px = j ∧ py = y.toNat
    · right
      rw [if_pos here, if_pos (by omega)]
    · left
      exact if_neg here
  · intro covered
    by_cases inside : (x.toNat ≤ px ∧ px < x.toNat + len.toNat) ∧ (y.toNat ≤ py ∧ py < y.toNat + 1)
    · refine ⟨px, List.mem_range'_1.mpr inside.1, ?_⟩
      rw [if_pos inside, if_pos (by omega)]
    · rw [if_neg inside] at covered
      exact absurd rfl covered

theorem rectangleLoop_painted {x width : UInt16} {y height : Nat}
    (columns : x.toNat + width.toNat ≤ screen.geometry.width)
    (rows : y + height ≤ screen.geometry.height) (color : UInt32) {videoMem : List UInt8}
    (size : videoMem.length = screen.geometry.size) :
    ∃ drawn, rectangleLoop screen.globals x width color height y videoMem = .ok (drawn, 0) ∧
      Painted screen.geometry (boxPaint screen x.toNat y width.toNat height color) videoMem drawn := by
  have lines : ∀ i, y ≤ i → i < y + height → ∀ cells : List UInt8,
      cells.length = screen.geometry.size → ∃ next,
        vgDrawHline screen.globals x (UInt16.ofNat i) width color cells = .ok (next, 0) ∧
        Painted screen.geometry (boxPaint screen x.toNat i width.toNat 1 color) cells next := by
    intro i _ within cells sizeCells
    have less : i < screen.yResolution.toNat := Nat.lt_of_lt_of_le within rows
    have coordinate := toNat_coordinate less
    have painted := vgDrawHline_painted screen columns (coordinate.symm ▸ less) color sizeCells
    rwa [coordinate] at painted
  obtain ⟨drawn, ran, painted⟩ := @painted_rounds _ _ _ (rectangleLoop screen.globals x width color)
    (fun i => vgDrawHline screen.globals x (UInt16.ofNat i) width color) _ (fun _ _ => rfl)
    (fun _ _ _ => rfl) _ _ _ size lines
  refine ⟨drawn, ran, painted.congr ?_⟩
  intro px _ py _
  unfold boxPaint
  apply lastPaint_eq
  · intro i member
    have within := List.mem_range'_1.mp member
    by_cases here : (x.toNat ≤ px ∧ px < x.toNat + width.toNat) ∧ (i ≤ py ∧ py < i + 1)
    · right
      rw [if_pos here, if_pos (by omega)]
    · left
      exact if_neg here
  · intro covered
    by_cases inside : (x.toNat ≤ px ∧ px < x.toNat + width.toNat) ∧ (y ≤ py ∧ py < y + height)
    · refine ⟨py, List.mem_range'_1.mpr inside.2, ?_⟩
      rw [if_pos inside, if_pos (by omega)]
    · rw [if_neg inside] at covered
      exact absurd rfl covered

/-! ### Tiles -/

section Tiles

variable {j count size p : Nat}

theorem div_of_tile (inside : j * size ≤ p ∧ p < j * size + size) : p / size = j :=
  Nat.div_eq_of_lt_le inside.1 (Nat.succ_mul j size ▸ inside.2)

theorem tile_of_lt (less : p < count * size) :
    p / size < count ∧ p / size * size ≤ p ∧ p < p / size * size + size := by
  have positive : 0 < size := Nat.pos_of_mul_pos_left (Nat.zero_lt_of_lt less)
  exact ⟨(Nat.div_lt_iff_lt_mul positive).mpr less, Nat.div_mul_le_self p size,
    Nat.lt_div_mul_add positive⟩

theorem tile_le (before : j < count) : j * size + size ≤ count * size := by
  rw [← Nat.succ_mul]
  exact Nat.mul_le_mul_right size before

end Tiles

/-! ### The pattern -/

variable (noRectangles : UInt8) (first : UInt32) (step : UInt8)

theorem toNat_rectangleWidth :
    (rectangleWidth screen.globals noRectangles).toNat =
      screen.geometry.width / noRectangles.toNat := by
  have bound := screen.xResolution.toNat_lt
  have less : screen.xResolution.toNat / noRectangles.toNat ≤ screen.xResolution.toNat :=
    Nat.div_le_self _ _
  rw [rectangleWidth, UInt32.toNat_toUInt16, UInt32.toNat_div, UInt8.toNat_toUInt32]
  change screen.xResolution.toUInt32.toNat / _ % 2 ^ 16 = screen.xResolution.toNat / _
  rw [UInt16.toNat_toUInt32, Nat.mod_eq_of_lt (by omega)]

theorem toNat_rectangleHeight :
    (rectangleHeight screen.globals noRectangles).toNat =
      screen.geometry.height / noRectangles.toNat := by
  have bound := screen.yResolution.toNat_lt
  have less : screen.yResolution.toNat / noRectangles.toNat ≤ screen.yResolution.toNat :=
    Nat.div_le_self _ _
  rw [rectangleHeight, UInt32.toNat_toUInt16, UInt32.toNat_div, UInt8.toNat_toUInt32]
  change screen.yResolution.toUInt32.toNat / _ % 2 ^ 16 = screen.yResolution.toNat / _
  rw [UInt16.toNat_toUInt32, Nat.mod_eq_of_lt (by omega)]

/-- The size of a tile. -/
def tileWidth (count : Nat) : Nat := screen.geometry.width / count
def tileHeight (count : Nat) : Nat := screen.geometry.height / count

/-- The tiles of the pattern, each in its colour. -/
def patternPaint (count : Nat) (shown : Nat → Nat → UInt32) (px py : Nat) : Option (List UInt8) :=
  if px < count * tileWidth screen count ∧ py < count * tileHeight screen count then
    some (pixelBytes screen (shown (py / tileHeight screen count) (px / tileWidth screen count)))
  else none

/-- The tiles of one row. -/
def rowPaint (count : Nat) (shown : Nat → Nat → UInt32) (i px py : Nat) : Option (List UInt8) :=
  if px < count * tileWidth screen count ∧
      (i * tileHeight screen count ≤ py ∧
        py < i * tileHeight screen count + tileHeight screen count) then
    some (pixelBytes screen (shown i (px / tileWidth screen count)))
  else none

/-- The colours that are shown: those of the rounds, as `vg_draw_rectangle` normalizes them. -/
def Shows (shown : Nat → Nat → UInt32) : Prop :=
  ∀ i < noRectangles.toNat, ∀ j < noRectangles.toNat, ∃ color,
    patternColor screen.globals noRectangles first step i j = .ok color ∧
      normalizedColor screen.globals color = .ok (shown i j)

variable {screen noRectangles first step} {shown : Nat → Nat → UInt32}

/-- One round of the inner loop paints its tile. -/
theorem tile_painted (shows : Shows screen noRectangles first step shown) {i j : Nat}
    (row : i < noRectangles.toNat) (column : j < noRectangles.toNat) {videoMem : List UInt8}
    (size : videoMem.length = screen.geometry.size) :
    ∃ next,
      (do
        let call ← patternCall screen.globals noRectangles first step i j
        let drawn ← vgDrawRectangle screen.globals call videoMem
        return drawn.1 : Except Undefined (List UInt8)) = .ok next ∧
      next.length = screen.geometry.size ∧
      Painted screen.geometry
        (boxPaint screen (j * tileWidth screen noRectangles.toNat)
          (i * tileHeight screen noRectangles.toNat) (tileWidth screen noRectangles.toNat)
          (tileHeight screen noRectangles.toNat) (shown i j)) videoMem next := by
  obtain ⟨color, computed, normal⟩ := shows i row j column
  have width : (rectangleWidth screen.globals noRectangles).toNat =
    tileWidth screen noRectangles.toNat := toNat_rectangleWidth screen noRectangles
  have height : (rectangleHeight screen.globals noRectangles).toNat =
    tileHeight screen noRectangles.toNat := toNat_rectangleHeight screen noRectangles
  have columns : j * tileWidth screen noRectangles.toNat + tileWidth screen noRectangles.toNat ≤
      screen.geometry.width := (tile_le column).trans (Nat.mul_div_le _ _)
  have rows : i * tileHeight screen noRectangles.toNat + tileHeight screen noRectangles.toNat ≤
      screen.geometry.height := (tile_le row).trans (Nat.mul_div_le _ _)
  have boundX : screen.geometry.width < 2 ^ 16 := screen.xResolution.toNat_lt
  have boundY : screen.geometry.height < 2 ^ 16 := screen.yResolution.toNat_lt
  have x : (UInt16.ofNat (j * (rectangleWidth screen.globals noRectangles).toNat)).toNat =
      j * tileWidth screen noRectangles.toNat := by
    rw [UInt16.toNat_ofNat', width, Nat.mod_eq_of_lt (by omega)]
  have y : (UInt16.ofNat (i * (rectangleHeight screen.globals noRectangles).toNat)).toNat =
      i * tileHeight screen noRectangles.toNat := by
    rw [UInt16.toNat_ofNat', height, Nat.mod_eq_of_lt (by omega)]
  rw [← x, ← width] at columns
  rw [← y, ← height] at rows
  obtain ⟨next, drew, painted⟩ := rectangleLoop_painted screen columns rows (shown i j) size
  rw [x, y, width, height] at painted
  refine ⟨next, ?_, painted.length.trans size, painted⟩
  rw [patternCall, computed]
  change (vgDrawRectangle screen.globals _ videoMem >>= fun drawn => pure drawn.1) = _
  rw [vgDrawRectangle, normal]
  change (rectangleLoop _ _ _ _ _ _ _ >>= fun drawn => pure drawn.1) = _
  rw [drew]
  rfl

theorem row_painted (shows : Shows screen noRectangles first step shown) {i : Nat}
    (row : i < noRectangles.toNat) {videoMem : List UInt8}
    (size : videoMem.length = screen.geometry.size) :
    ∃ next,
      (List.range noRectangles.toNat).foldlM
        (fun videoMem j => do
          let call ← patternCall screen.globals noRectangles first step i j
          let drawn ← vgDrawRectangle screen.globals call videoMem
          return drawn.1 : List UInt8 → Nat → Except Undefined (List UInt8)) videoMem = .ok next ∧
      next.length = screen.geometry.size ∧
      Painted screen.geometry (rowPaint screen noRectangles.toNat shown i) videoMem next := by
  obtain ⟨next, drew, kept, painted⟩ := @painted_foldlM UInt8 Undefined Nat screen.geometry
    (List UInt8) id (fun videoMem => videoMem.length = screen.geometry.size) _ _ _
    (fun j member videoMem size => tile_painted shows row (List.mem_range.mp member) size) videoMem
    size
  refine ⟨next, drew, kept, painted.congr ?_⟩
  intro px _ py _
  unfold rowPaint
  apply lastPaint_eq
  · intro j member
    unfold boxPaint
    split_ifs with here inside
    · right
      rw [div_of_tile here.1]
    · have less := here.1.2.trans_le (tile_le (List.mem_range.mp member))
      exact absurd ⟨less, here.2⟩ inside
    · exact .inl rfl
    · exact .inl rfl
  · intro covered
    split_ifs at covered ⊢ with inside
    · obtain ⟨column, tile⟩ := tile_of_lt inside.1
      exact ⟨_, List.mem_range.mpr column, if_pos ⟨tile, inside.2⟩⟩
    · exact absurd rfl covered

/-- `vg_draw_pattern` paints its tiles in the colours computed for them, and nothing else. -/
theorem vgDrawPattern_painted (positive : noRectangles ≠ 0)
    (shows : Shows screen noRectangles first step shown) {videoMem : List UInt8}
    (size : videoMem.length = screen.geometry.size) :
    ∃ drawn, vgDrawPattern screen.globals noRectangles first step videoMem = .ok (drawn, 0) ∧
      Painted screen.geometry (patternPaint screen noRectangles.toNat shown) videoMem drawn := by
  obtain ⟨drawn, drew, _, painted⟩ := @painted_foldlM UInt8 Undefined Nat screen.geometry
    (List UInt8) id (fun videoMem => videoMem.length = screen.geometry.size) _ _ _
    (fun i member videoMem size => row_painted shows (List.mem_range.mp member) size) videoMem size
  refine ⟨drawn, ?_, painted.congr ?_⟩
  · dsimp only [id] at drew
    rw [vgDrawPattern, if_neg positive, drew]
    rfl
  · intro px _ py _
    unfold patternPaint
    apply lastPaint_eq
    · intro i member
      unfold rowPaint
      split_ifs with here inside
      · right
        rw [div_of_tile here.2]
      · have less := here.2.2.trans_le (tile_le (List.mem_range.mp member))
        exact absurd ⟨here.1, less⟩ inside
      · exact .inl rfl
      · exact .inl rfl
    · intro covered
      split_ifs at covered ⊢ with inside
      · obtain ⟨row, tile⟩ := tile_of_lt inside.2
        exact ⟨_, List.mem_range.mpr row, if_pos ⟨inside.1, tile⟩⟩
      · exact absurd rfl covered

/-! ### Direct colours -/

/-- A screen with direct colours, the components of which lie within the bits of a pixel. -/
structure DirectScreen extends DirectColorMode, Screen where
  within : ∀ c, (field toVbeModeInfo c).position + (field toVbeModeInfo c).size ≤
    bitsPerPixel.toNat
  maskable : bitsPerPixel.toNat ≠ 31

/-- The mask of `vg_draw_rectangle` leaves a colour of the mode as it is. -/
theorem normalizedColor_eq (screen : DirectScreen) {color : UInt32}
    (small : color.toNat < 2 ^ screen.bitsPerPixel.toNat) :
    normalizedColor screen.toScreen.globals color = .ok color := by
  have bounded := screen.bits_le
  have maskable := screen.maskable
  unfold normalizedColor
  split_ifs with masked
  · have below : screen.bitsPerPixel.toNat < 31 := by
      have other : screen.bitsPerPixel.toNat ≠ 32 := fun full =>
        masked (UInt32.toNat_inj.mp (full : screen.bitsPerPixel.toUInt32.toNat = 32))
      omega
    obtain ⟨one, shifted, power⟩ := oneShifted_of_lt below
    have kept : color &&& (one - 1) = color := by
      rw [← UInt32.toNat_inj, toNat_masked power, Nat.mod_eq_of_lt small]
    have computed : oneShifted screen.toScreen.globals.bitsPerPixel = .ok one := shifted
    rw [computed]
    exact congrArg Except.ok kept
  · rfl

/-- On a screen with direct colours every rectangle of the pattern is filled with the colour that the
loop body computes for it. -/
theorem direct_pattern_painted (screen : DirectScreen) (defined : ShiftsDefined screen.toVbeModeInfo)
    (positive : noRectangles ≠ 0) {videoMem : List UInt8}
    (size : videoMem.length = screen.toScreen.geometry.size) :
    ∃ color : Nat → Nat → UInt32,
      (∀ i j, patternColor screen.toScreen.globals noRectangles first step i j = .ok (color i j)) ∧
      ∃ drawn, vgDrawPattern screen.toScreen.globals noRectangles first step videoMem =
          .ok (drawn, 0) ∧
        Painted screen.toScreen.geometry
          (patternPaint screen.toScreen noRectangles.toNat color) videoMem drawn := by
  have colors : ∀ i j, ∃ color,
      patternColor screen.toScreen.globals noRectangles first step i j = .ok color ∧
        color.toNat < 2 ^ screen.bitsPerPixel.toNat := by
    intro i j
    choose values computes valueOf using
      @patternValue_eq screen.toDirectColorMode first step i j defined
    have fit : ∀ c, (values c).toNat < 2 ^ (field screen.toVbeModeInfo c).size := by
      intro c
      rw [valueOf c]
      exact Nat.mod_lt _ (Nat.two_pow_pos _)
    obtain ⟨color, assembles, packed⟩ := @directMode_eq screen.toDirectColorMode values defined fit
    refine ⟨color, (patternColor_of_values computes).trans assembles, ?_⟩
    rw [packed]
    apply pack_lt (entries_fit fit)
    intro entry member
    obtain ⟨c, _, rfl⟩ := List.mem_map.mp member
    exact screen.within c
  choose color computed small using colors
  have shows : Shows screen.toScreen noRectangles first step color := fun i _ j _ =>
    ⟨color i j, computed i j, normalizedColor_eq screen (small i j)⟩
  exact ⟨color, computed, vgDrawPattern_painted positive shows size⟩

end TypingTutor.Pattern
