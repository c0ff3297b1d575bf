/-
Module: TypingTutor.Proofs.MovingPicture
Layer: Proofs
Purpose: What is on the screen while an image moves: it is where it was drawn last, and its earlier
  places are black.
Trusted boundary: none
Main exports: Pattern.rounds_result, Pattern.vgDrawImg_result, Pattern.vgDrawImg_painted,
  Pattern.vgClear_painted, iterate_eq_turn, ShowsImage, moving_image_is_shown
-/
import TypingTutor.Core.MovingPicture
import TypingTutor.Proofs.MovingImage
import TypingTutor.Proofs.PatternPainting

namespace TypingTutor

open Raster

namespace Pattern

/-! ### Loops that give up -/

/-- Such a loop returns 0 if all its steps do. -/
theorem rounds_result {step : ℕ → List UInt8 → Except Undefined (List UInt8 × Int)}
    {succeeds : ℕ → Bool} {size first left : ℕ}
    (steps : ∀ i < left, ∀ cells : List UInt8, cells.length = size → ∃ next,
      step (first + i) cells = .ok (next, if succeeds i then 0 else 1) ∧ next.length = size)
    {videoMem : List UInt8} (length : videoMem.length = size) :
    ∃ final, rounds step left first videoMem =
        .ok (final, if (List.range left).all succeeds then 0 else 1) ∧ final.length = size := by
  induction left generalizing first videoMem succeeds with
  | zero => exact ⟨videoMem, rfl, length⟩
  | succ left inductionHypothesis =>
      obtain ⟨next, stepped, kept⟩ := steps 0 (Nat.succ_pos left) videoMem length
      rw [Nat.add_zero] at stepped
      have all : (List.range (left + 1)).all succeeds =
          (succeeds 0 && (List.range left).all fun i => succeeds (i + 1)) := by
        rw [List.range_succ_eq_map, List.all_cons, List.all_map]
        rfl
      rw [rounds, stepped, all]
      cases succeeds 0 with
      | false => exact ⟨next, rfl, kept⟩
      | true =>
          have later : ∀ i < left, ∀ cells : List UInt8, cells.length = size → ∃ next,
              step (first + 1 + i) cells = .ok (next, if succeeds (i + 1) then 0 else 1) ∧
                next.length = size := by
            intro i before cells sized
            rw [Nat.add_assoc, Nat.add_comm 1 i]
            exact steps (i + 1) (Nat.succ_lt_succ before) cells sized
          rw [Bool.true_and]
          exact inductionHypothesis later kept

variable (screen : Screen)

/-- The resolution alone. -/
def Screen.resolution : Resolution where
  hRes := screen.xResolution
  vRes := screen.yResolution

theorem vgDrawPixel_result (x y : UInt16) (color : UInt32) {videoMem : List UInt8}
    (size : videoMem.length = screen.geometry.size) :
    ∃ written, vgDrawPixel screen.globals x y color videoMem =
        .ok (written, if TypingTutor.vgDrawPixel screen.resolution x y then 0 else 1) ∧
      written.length = screen.geometry.size := by
  cases visible : TypingTutor.vgDrawPixel screen.resolution x y with
  | true =>
      rw [TypingTutor.vgDrawPixel, Bool.not_eq_true', Bool.or_eq_false_iff, decide_eq_false_iff_not,
        decide_eq_false_iff_not, UInt16.le_iff_toNat_le, UInt16.le_iff_toNat_le] at visible
      obtain ⟨column, row⟩ := visible
      obtain ⟨written, drew, painted⟩ :=
        vgDrawPixel_painted screen (Nat.lt_of_not_le column) (Nat.lt_of_not_le row) color size
      exact ⟨written, drew, painted.length.trans size⟩
  | false =>
      rw [TypingTutor.vgDrawPixel, Bool.not_eq_false', Bool.or_eq_true, decide_eq_true_eq,
        decide_eq_true_eq, UInt16.le_iff_toNat_le, UInt16.le_iff_toNat_le] at visible
      refine ⟨videoMem, ?_, size⟩
      have outside : screen.globals.hRes ≤ x.toUInt32 ∨ screen.globals.vRes ≤ y.toUInt32 := by
        rw [UInt32.le_iff_toNat_le, UInt32.le_iff_toNat_le, UInt16.toNat_toUInt32,
          UInt16.toNat_toUInt32]
        exact visible
      rw [vgDrawPixel, if_pos outside]
      rfl

/-! ### `vg_draw_img` -/

/-- The colour in which a byte of an image is shown. -/
def imageColor (byte : UInt8) : UInt32 :=
  if screen.bitsPerPixel.toNat = 32 then byte.toUInt32
  else byte.toUInt32 &&& (1 <<< screen.bitsPerPixel.toUInt32 - 1)

variable (maskable : screen.bitsPerPixel.toNat ≠ 31) (image : LoadedImage) (x y : UInt16)

include maskable

theorem normalizedColor_image (byte : UInt8) :
    normalizedColor screen.globals byte.toUInt32 = .ok (imageColor screen byte) := by
  have bounded := screen.bits_le
  have same : screen.globals.bitsPerPixel.toNat = screen.bitsPerPixel.toNat := rfl
  rw [normalizedColor, imageColor]
  by_cases full : screen.bitsPerPixel.toNat = 32
  · have whole : screen.globals.bitsPerPixel = 32 := UInt32.toNat_inj.mp full
    rw [if_pos full, if_neg (fun other => other whole)]
  · have below : screen.globals.bitsPerPixel < 31 := by
      have limit : (31 : UInt32).toNat = 31 := rfl
      rw [UInt32.lt_iff_toNat_lt, same, limit]
      omega
    have partly : screen.globals.bitsPerPixel ≠ 32 := fun whole => full (congrArg UInt32.toNat whole)
    rw [if_neg full, if_pos partly, oneShifted, if_pos below]
    rfl

theorem drawImgPixel_result (i j : ℕ) {videoMem : List UInt8}
    (size : videoMem.length = screen.geometry.size) :
    ∃ written, drawImgPixel screen.globals image x y i j videoMem =
        .ok (written, if TypingTutor.vgDrawPixel screen.resolution (UInt16.ofNat j) (UInt16.ofNat i)
          then 0 else 1) ∧
      written.length = screen.geometry.size := by
  rw [drawImgPixel, normalizedColor_image screen maskable]
  exact vgDrawPixel_result screen _ _ _ size

/-- `vg_draw_img` returns what it returns for the sizes alone. -/
theorem vgDrawImg_result {videoMem : List UInt8} (size : videoMem.length = screen.geometry.size) :
    ∃ drawn, vgDrawImg screen.globals image x y videoMem =
        .ok (drawn, if TypingTutor.vgDrawImg screen.resolution x y image.toImageSize then 0 else 1) ∧
      drawn.length = screen.geometry.size := by
  refine rounds_result (fun i _ cells sized => ?_) size
  exact rounds_result
    (fun j _ cells sized => drawImgPixel_result screen maskable image x y _ _ sized) sized

omit maskable

/-- The pixels of an image at a place. -/
def imagePaint (px py : ℕ) : Option (List UInt8) :=
  if (x.toNat ≤ px ∧ px < x.toNat + image.width.toNat) ∧
    (y.toNat ≤ py ∧ py < y.toNat + image.height.toNat) then
    some (pixelBytes screen (imageColor screen (image.byte (py - y.toNat) (px - x.toNat))))
  else none

/-- The pixels of one row of it. -/
def imageRowPaint (i px py : ℕ) : Option (List UInt8) :=
  if (x.toNat ≤ px ∧ px < x.toNat + image.width.toNat) ∧ py = i then
    some (pixelBytes screen (imageColor screen (image.byte (i - y.toNat) (px - x.toNat))))
  else none

variable {screen image x y}

/-- No column passes the right edge without being on it. -/
theorem no_wrap {resolution start : UInt16} {size : ℕ}
    (inside : ∀ i < size, (UInt16.ofNat (start.toNat + i)).toNat < resolution.toNat) :
    ∀ i < size, start.toNat + i < resolution.toNat := by
  have bound := resolution.toNat_lt
  have small := start.toNat_lt
  intro i before
  by_contra outside
  by_cases wraps : start.toNat + i < 2 ^ 16
  · have here := inside i before
    rw [UInt16.toNat_ofNat', Nat.mod_eq_of_lt wraps] at here
    exact outside here
  · have edge := inside (2 ^ 16 - 1 - start.toNat) (by omega)
    rw [UInt16.toNat_ofNat'] at edge
    omega

/-- A successful `vg_draw_img` draws on the screen. -/
theorem visible_inside
    (visible : TypingTutor.vgDrawImg screen.resolution x y image.toImageSize = true) :
    (∀ i < image.height.toNat, 0 < image.width.toNat → y.toNat + i < screen.geometry.height) ∧
      ∀ j < image.width.toNat, 0 < image.height.toNat → x.toNat + j < screen.geometry.width := by
  simp only [TypingTutor.vgDrawImg, List.all_eq_true, List.mem_range] at visible
  have pixels : ∀ i < image.height.toNat, ∀ j < image.width.toNat,
      (UInt16.ofNat (x.toNat + j)).toNat < screen.xResolution.toNat ∧
        (UInt16.ofNat (y.toNat + i)).toNat < screen.yResolution.toNat := by
    intro i row j column
    have drawn := visible i row j column
    rw [TypingTutor.vgDrawPixel, Bool.not_eq_true', Bool.or_eq_false_iff, decide_eq_false_iff_not,
      decide_eq_false_iff_not, UInt16.le_iff_toNat_le, UInt16.le_iff_toNat_le] at drawn
    exact ⟨Nat.lt_of_not_le drawn.1, Nat.lt_of_not_le drawn.2⟩
  constructor
  · intro i row some
    exact no_wrap (fun i row => (pixels i row 0 some).2) i row
  · intro j column some
    exact no_wrap (fun j column => (pixels 0 some j column).1) j column

/-- One row of an image. -/
theorem imageRow_painted (maskable : screen.bitsPerPixel.toNat ≠ 31) {i : ℕ}
    (row : i < screen.geometry.height)
    (columns : x.toNat + image.width.toNat ≤ screen.geometry.width) {videoMem : List UInt8}
    (size : videoMem.length = screen.geometry.size) :
    ∃ drawn, rounds (drawImgPixel screen.globals image x y i) image.width.toNat x.toNat videoMem =
        .ok (drawn, 0) ∧
      Painted screen.geometry (imageRowPaint screen image x y i) videoMem drawn := by
  have pixels : ∀ j, x.toNat ≤ j → j < x.toNat + image.width.toNat → ∀ cells : List UInt8,
      cells.length = screen.geometry.size → ∃ next,
        drawImgPixel screen.globals image x y i j cells = .ok (next, 0) ∧
        Painted screen.geometry (fun px py => if px = j ∧ py = i then
          some (pixelBytes screen (imageColor screen (image.byte (i - y.toNat) (j - x.toNat))))
        else none)
          cells next := by
    intro j _ within cells sized
    have column : j < screen.xResolution.toNat := Nat.lt_of_lt_of_le within columns
    have coordinate := toNat_coordinate column
    have line : (UInt16.ofNat i).toNat = i := toNat_coordinate row
    have painted := vgDrawPixel_painted screen (coordinate.symm ▸ column) (line.symm ▸ row)
      (imageColor screen (image.byte (i - y.toNat) (j - x.toNat))) sized
    rw [coordinate, line] at painted
    rw [drawImgPixel, normalizedColor_image screen maskable]
    exact painted
  obtain ⟨drawn, ran, painted⟩ :=
    @painted_rounds _ _ _ (rounds (drawImgPixel screen.globals image x y i))
    (drawImgPixel screen.globals image x y i) _ (fun _ _ => rfl) (fun _ _ _ => rfl) _ _ _ size pixels
  refine ⟨drawn, ran, painted.congr ?_⟩
  intro px _ py _
  rw [imageRowPaint]
  apply lastPaint_eq
  · intro j member
    have within := List.mem_range'_1.mp member
    by_cases here : px = j ∧ py = i
    · obtain ⟨rfl, rfl⟩ := here
      right
      rw [if_pos ⟨rfl, rfl⟩, if_pos ⟨within, rfl⟩]
    · left
      exact if_neg here
  · intro covered
    by_cases inside : (x.toNat ≤ px ∧ px < x.toNat + image.width.toNat) ∧ py = i
    · refine ⟨px, List.mem_range'_1.mpr inside.1, ?_⟩
      rw [if_pos inside, if_pos ⟨rfl, inside.2⟩]
    · rw [if_neg inside] at covered
      exact absurd rfl covered

/-- An image that is on the screen. -/
theorem vgDrawImg_painted (maskable : screen.bitsPerPixel.toNat ≠ 31)
    (visible : TypingTutor.vgDrawImg screen.resolution x y image.toImageSize = true)
    {videoMem drawn : List UInt8} (size : videoMem.length = screen.geometry.size)
    (drew : vgDrawImg screen.globals image x y videoMem = .ok (drawn, 0)) :
    Painted screen.geometry (imagePaint screen image x y) videoMem drawn := by
  obtain ⟨rows, columns⟩ := visible_inside visible
  have lines : ∀ i, y.toNat ≤ i → i < y.toNat + image.height.toNat → ∀ cells : List UInt8,
      cells.length = screen.geometry.size → ∃ next,
        rounds (drawImgPixel screen.globals image x y i) image.width.toNat x.toNat cells =
          .ok (next, 0) ∧
        Painted screen.geometry (imageRowPaint screen image x y i) cells next := by
    intro i before within cells sized
    by_cases empty : image.width.toNat = 0
    · refine ⟨cells, by rw [empty]; rfl, (Painted.refl cells).congr fun px _ py _ => ?_⟩
      rw [imageRowPaint, if_neg (by omega)]
    · have row := rows (i - y.toNat) (by omega) (Nat.pos_of_ne_zero empty)
      have last := columns (image.width.toNat - 1) (by omega) (by omega)
      exact imageRow_painted maskable (by omega) (by omega) sized
  obtain ⟨drawn', ran, painted⟩ := @painted_rounds _ _ _
    (rounds fun i => rounds (drawImgPixel screen.globals image x y i) image.width.toNat x.toNat)
    (fun i => rounds (drawImgPixel screen.globals image x y i) image.width.toNat x.toNat) _
    (fun _ _ => rfl) (fun _ _ _ => rfl) _ _ _ size lines
  have same : drawn' = drawn := congrArg Prod.fst (Except.ok.inj (ran.symm.trans drew))
  rw [← same]
  refine painted.congr ?_
  intro px _ py _
  rw [imagePaint]
  apply lastPaint_eq
  · intro i member
    have within := List.mem_range'_1.mp member
    by_cases here : (x.toNat ≤ px ∧ px < x.toNat + image.width.toNat) ∧ py = i
    · obtain ⟨inside, rfl⟩ := here
      right
      rw [imageRowPaint, if_pos ⟨inside, rfl⟩, if_pos ⟨inside, within⟩]
    · left
      exact if_neg here
  · intro covered
    by_cases inside : (x.toNat ≤ px ∧ px < x.toNat + image.width.toNat) ∧
        (y.toNat ≤ py ∧ py < y.toNat + image.height.toNat)
    · refine ⟨py, List.mem_range'_1.mpr inside.2, ?_⟩
      rw [imageRowPaint, if_pos inside, if_pos ⟨inside.1, rfl⟩]
    · rw [if_neg inside] at covered
      exact absurd rfl covered

/-! ### `vg_clear` -/

/-- `vg_clear` leaves a black screen. -/
theorem vgClear_painted {videoMem : List UInt8} (size : videoMem.length = screen.geometry.size) :
    ∃ cleared, vgClear screen.globals videoMem = .ok (cleared, 0) ∧
      Painted screen.geometry (fun _ _ => some (pixelBytes screen 0)) videoMem cleared := by
  have columns : screen.globals.hRes.toNat = screen.geometry.width := rfl
  have rows : screen.globals.vRes.toNat = screen.geometry.height := rfl
  have lines : ∀ i, 0 ≤ i → i < 0 + screen.geometry.width → ∀ cells : List UInt8,
      cells.length = screen.geometry.size → ∃ next,
        rounds (fun j => vgDrawPixel screen.globals (UInt16.ofNat i) (UInt16.ofNat j) 0)
          screen.geometry.height 0 cells = .ok (next, 0) ∧
        Painted screen.geometry
          (fun px _ => if px = i then some (pixelBytes screen 0) else none) cells next := by
    intro i _ within cells sized
    rw [Nat.zero_add] at within
    have column : (UInt16.ofNat i).toNat = i := toNat_coordinate within
    have pixels : ∀ j, 0 ≤ j → j < 0 + screen.geometry.height → ∀ cells : List UInt8,
        cells.length = screen.geometry.size → ∃ next,
          vgDrawPixel screen.globals (UInt16.ofNat i) (UInt16.ofNat j) 0 cells = .ok (next, 0) ∧
          Painted screen.geometry
            (fun px py => if px = i ∧ py = j then some (pixelBytes screen 0) else none) cells
            next := by
      intro j _ inside cells sized
      rw [Nat.zero_add] at inside
      have row : (UInt16.ofNat j).toNat = j := toNat_coordinate inside
      have painted := vgDrawPixel_painted screen (column.symm ▸ within) (row.symm ▸ inside) 0 sized
      rwa [column, row] at painted
    obtain ⟨next, ran, painted⟩ := @painted_rounds _ _ _ (rounds fun j =>
        vgDrawPixel screen.globals (UInt16.ofNat i) (UInt16.ofNat j) 0)
      (fun j => vgDrawPixel screen.globals (UInt16.ofNat i) (UInt16.ofNat j) 0) _
      (fun _ _ => rfl) (fun _ _ _ => rfl) _ _ _ sized pixels
    refine ⟨next, ran, painted.congr ?_⟩
    intro px _ py row
    apply lastPaint_eq
    · intro j _
      by_cases here : px = i ∧ py = j
      · right
        rw [if_pos here, if_pos here.1]
      · left
        exact if_neg here
    · intro covered
      by_cases here : px = i
      · refine ⟨py, List.mem_range'_1.mpr ⟨Nat.zero_le _, by rwa [Nat.zero_add]⟩, ?_⟩
        rw [if_pos here, if_pos ⟨here, rfl⟩]
      · rw [if_neg here] at covered
        exact absurd rfl covered
  obtain ⟨cleared, ran, painted⟩ := @painted_rounds _ _ _ (rounds fun i => rounds (fun j =>
      vgDrawPixel screen.globals (UInt16.ofNat i) (UInt16.ofNat j) 0) screen.geometry.height 0)
    (fun i => rounds (fun j => vgDrawPixel screen.globals (UInt16.ofNat i) (UInt16.ofNat j) 0)
      screen.geometry.height 0) _ (fun _ _ => rfl) (fun _ _ _ => rfl) _ _ _ size lines
  refine ⟨cleared, ?_, painted.congr ?_⟩
  · rw [vgClear, columns, rows]
    exact ran
  · intro px column py _
    apply lastPaint_eq
    · intro i _
      by_cases here : px = i
      · exact .inr (if_pos here)
      · exact .inl (if_neg here)
    · intro _
      exact ⟨px, List.mem_range'_1.mpr ⟨Nat.zero_le _, by rwa [Nat.zero_add]⟩, if_pos rfl⟩

end Pattern

/-! ### Iterations -/

section Turns

variable (screen : Resolution) (img : ImageSize) (request : MoveRequest)

/-- A turn with its drawing, if there is one. -/
def carriedOut (turn : MoveState × Bool) : MoveState :=
  if turn.2 then redraw screen img request turn.1 else turn.1

theorem update_eq_turn (state : MoveState) :
    update screen img request state = carriedOut screen img request (updateTurn request state) := by
  unfold update updateTurn
  dsimp only
  split_ifs
  · rfl
  · rfl
  · rfl

theorem timerPart_eq_turn (state : MoveState) :
    timerPart screen img request state = carriedOut screen img request (timerTurn request state) := by
  unfold timerPart timerTurn
  dsimp only
  split_ifs
  · rfl
  · exact update_eq_turn screen img request _
  · rfl

/-- An iteration is a turn that is carried out. -/
theorem iterate_eq_turn (state : MoveState) (message : MoveNotification) :
    iterate screen img request state message =
      carriedOut screen img request (iterateTurn request state message) := by
  unfold iterate iterateTurn
  by_cases ended : (state.returned || state.data == 0x81) = true
  · rw [if_pos ended, if_pos ended]
    rfl
  · rw [if_neg ended, if_neg ended]
    cases message.keyboard with
    | none =>
        dsimp only
        split_ifs
        · exact timerPart_eq_turn screen img request _
        · rfl
    | some ports =>
        dsimp only
        split_ifs
        · rfl
        · exact timerPart_eq_turn screen img request _
        · rfl

/-- What a turn leaves alone. -/
structure Turned (state : MoveState) (turn : MoveState × Bool) : Prop where
  returned : turn.1.returned = state.returned
  drawn : turn.1.drawn = state.drawn
  still : turn.2 = false → turn.1.x = state.x ∧ turn.1.y = state.y

theorem updateTurn_turned (state : MoveState) : Turned state (updateTurn request state) := by
  unfold updateTurn moveAlong
  dsimp only
  split_ifs
  · exact ⟨rfl, rfl, nofun⟩
  · exact ⟨rfl, rfl, nofun⟩
  · exact ⟨rfl, rfl, nofun⟩
  · exact ⟨rfl, rfl, nofun⟩
  · exact ⟨rfl, rfl, fun _ => ⟨rfl, rfl⟩⟩

theorem iterateTurn_turned (state : MoveState) (message : MoveNotification) :
    Turned state (iterateTurn request state message) := by
  have timer : ∀ data, Turned state (timerTurn request { state with data := data }) := by
    intro data
    unfold timerTurn
    dsimp only
    split_ifs
    · exact ⟨rfl, rfl, fun _ => ⟨rfl, rfl⟩⟩
    · obtain ⟨returned, drawn, still⟩ :=
        updateTurn_turned request { state with data := data, counter := state.counter + 1 }
      exact ⟨returned, drawn, still⟩
    · exact ⟨rfl, rfl, fun _ => ⟨rfl, rfl⟩⟩
  unfold iterateTurn
  by_cases ended : (state.returned || state.data == 0x81) = true
  · rw [if_pos ended]
    exact ⟨rfl, rfl, fun _ => ⟨rfl, rfl⟩⟩
  · rw [if_neg ended]
    cases message.keyboard with
    | none =>
        dsimp only
        split_ifs
        · exact timer state.data
        · exact ⟨rfl, rfl, fun _ => ⟨rfl, rfl⟩⟩
    | some ports =>
        dsimp only
        split_ifs
        · exact ⟨rfl, rfl, fun _ => ⟨rfl, rfl⟩⟩
        · exact timer (kbcIh ports state.data)
        · exact ⟨rfl, rfl, fun _ => ⟨rfl, rfl⟩⟩

end Turns

/-! ### The screen -/

open Pattern

/-- The image where it was drawn last, and around it what was there before the first redraw, or
black. -/
def movePaint (screen : Screen) (image : LoadedImage) (state : MoveState) (px py : ℕ) :
    Option (List UInt8) :=
  (imagePaint screen image state.x state.y px py).or
    (if state.drawn.length = 1 then none else some (pixelBytes screen 0))

/-- The screen shows the image, as long as no drawing has failed. -/
structure ShowsImage (screen : Screen) (image : LoadedImage) (start : List UInt8) (video : MoveVideo) :
    Prop where
  size : video.videoMem.length = screen.geometry.size
  begun : 0 < video.state.drawn.length
  shown : video.state.returned = false →
    Painted screen.geometry (movePaint screen image video.state) start video.videoMem

section Video

variable {screen : Screen} (maskable : screen.bitsPerPixel.toNat ≠ 31) (image : LoadedImage)
  (request : MoveRequest) {start : List UInt8} (whole : start.length = screen.geometry.size)

include maskable whole

/-- After a redraw nothing is left of the screen before. -/
theorem redrawVideo_shows {video : MoveVideo} (size : video.videoMem.length = screen.geometry.size)
    (begun : 0 < video.state.drawn.length) :
    ∃ next, redrawVideo screen.globals image request video = .ok next ∧
      next.state = redraw screen.resolution image.toImageSize request video.state ∧
      ShowsImage screen image start next := by
  obtain ⟨cleared, clears, black⟩ := @vgClear_painted screen _ size
  have sized := black.length.trans size
  obtain ⟨drawn, draws, length⟩ :=
    vgDrawImg_result screen maskable image video.state.x video.state.y sized
  have longer : (video.state.drawn ++ [(video.state.x, video.state.y)]).length ≠ 1 := by
    rw [List.length_append, List.length_singleton]
    omega
  have more : 0 < (video.state.drawn ++ [(video.state.x, video.state.y)]).length := by
    rw [List.length_append, List.length_singleton]
    omega
  rw [redrawVideo, redraw, clears, vgClear_eq_true, if_pos rfl]
  dsimp only [bind, Except.bind]
  rw [if_neg (fun other => other rfl), draws]
  dsimp only [pure, Except.pure]
  cases visible : TypingTutor.vgDrawImg screen.resolution video.state.x video.state.y
      image.toImageSize with
  | false =>
      exact ⟨_, rfl, rfl, length, more, nofun⟩
  | true =>
      rw [visible, if_pos rfl] at draws
      have painted := vgDrawImg_painted maskable visible sized draws
      have shown : ∀ state : MoveState, state.x = video.state.x → state.y = video.state.y →
          state.drawn = video.state.drawn ++ [(video.state.x, video.state.y)] →
          Painted screen.geometry (movePaint screen image state) start drawn := by
        intro state x y history
        refine ⟨length.trans whole.symm, fun px column py row => ?_⟩
        rw [movePaint, history, if_neg longer, x, y, (black.trans painted).pixel px column py row]
        cases imagePaint screen image video.state.x video.state.y px py with
        | none => rfl
        | some bytes => rfl
      rw [if_pos rfl, if_pos rfl, if_neg (fun other => other rfl)]
      split_ifs
      · exact ⟨_, rfl, rfl, length, more, fun _ => shown _ rfl rfl rfl⟩
      · exact ⟨_, rfl, rfl, length, more, fun _ => shown _ rfl rfl rfl⟩

theorem iterateVideo_shows {video : MoveVideo} (shows : ShowsImage screen image start video)
    (message : MoveNotification) :
    ∃ next, iterateVideo screen.globals image request video message = .ok next ∧
      next.state = iterate screen.resolution image.toImageSize request video.state message ∧
      ShowsImage screen image start next := by
  obtain ⟨size, begun, shown⟩ := shows
  obtain ⟨returned, drawn, still⟩ := iterateTurn_turned request video.state message
  rw [iterateVideo, iterate_eq_turn, carriedOut]
  cases again : (iterateTurn request video.state message).2 with
  | true =>
      exact redrawVideo_shows maskable image request whole size (drawn ▸ begun)
  | false =>
      obtain ⟨x, y⟩ := still again
      refine ⟨_, rfl, rfl, size, drawn ▸ begun, fun going => ?_⟩
      have before := shown (returned.symm.trans going)
      refine before.congr fun px _ py _ => ?_
      rw [movePaint, movePaint, x, y, drawn]

theorem messages_show {video : MoveVideo} (shows : ShowsImage screen image start video)
    (messages : List MoveNotification) :
    ∃ next, messages.foldlM (iterateVideo screen.globals image request) video = .ok next ∧
      next.state = messages.foldl (iterate screen.resolution image.toImageSize request) video.state ∧
      ShowsImage screen image start next := by
  induction messages generalizing video with
  | nil => exact ⟨video, rfl, rfl, shows⟩
  | cons message messages inductionHypothesis =>
      obtain ⟨middle, stepped, same, showsNext⟩ :=
        iterateVideo_shows maskable image request whole shows message
      obtain ⟨next, ran, agrees, showsLast⟩ := inductionHypothesis showsNext
      refine ⟨next, ?_, ?_, showsLast⟩
      · rw [List.foldlM_cons, stepped]
        exact ran
      · rw [List.foldl_cons, ← same]
        exact agrees

end Video

/-- `video_test_move` shows the image where it was drawn last, whatever messages it has received:
the screen is black around it once it has been redrawn, and before that is as it was.  The positions
are those of the model without a video memory. -/
theorem moving_image_is_shown {screen : Screen} (maskable : screen.bitsPerPixel.toNat ≠ 31)
    (image : LoadedImage) (request : MoveRequest) {start : List UInt8}
    (whole : start.length = screen.geometry.size) (messages : List MoveNotification) :
    ∃ video, videoTestMoveVideo screen.globals image request start messages = .ok video ∧
      video.state = videoTestMove screen.resolution image.toImageSize request messages ∧
      (video.state.returned = false →
        Painted screen.geometry (movePaint screen image video.state) start video.videoMem) := by
  obtain ⟨drawn, draws, length⟩ := vgDrawImg_result screen maskable image request.xi request.yi whole
  let first : MoveVideo :=
    { state := beforeLoop screen.resolution image.toImageSize request, videoMem := drawn }
  have shows : ShowsImage screen image start first := by
    refine ⟨length, Nat.succ_pos 0, fun going => ?_⟩
    have visible :
        TypingTutor.vgDrawImg screen.resolution request.xi request.yi image.toImageSize = true := by
      rw [← Bool.not_eq_false']
      exact going
    rw [visible, if_pos rfl] at draws
    refine (vgDrawImg_painted maskable visible whole draws).congr fun px _ py _ => ?_
    exact (Option.or_none).symm
  obtain ⟨video, ran, same, showsLast⟩ := messages_show maskable image request whole shows messages
  refine ⟨video, ?_, same, showsLast.shown⟩
  have returned : ((if TypingTutor.vgDrawImg screen.resolution request.xi request.yi image.toImageSize
      then 0 else 1 : Int) != 0) =
        !TypingTutor.vgDrawImg screen.resolution request.xi request.yi image.toImageSize := by
    cases TypingTutor.vgDrawImg screen.resolution request.xi request.yi image.toImageSize with
    | true => rfl
    | false => rfl
  rw [← ran, videoTestMoveVideo, draws]
  dsimp only [bind, Except.bind]
  rw [returned]
  rfl

/-- Two pixels with sixteen colours, a byte for each. -/
def twoPixelScreen : Screen where
  xResolution := 2
  yResolution := 1
  bitsPerPixel := 4
  memoryModel := 4
  redMaskSize := 0
  redFieldPosition := 0
  greenMaskSize := 0
  greenFieldPosition := 0
  blueMaskSize := 0
  blueFieldPosition := 0
  bits_pos := by decide
  bits_le := by decide
  size_lt := by decide

/-- An image of one pixel. -/
def dot : LoadedImage where
  width := 1
  height := 1
  bytes := [7]
  count := rfl

/-- One pixel to the right at every tick. -/
def stepRight : MoveRequest where
  xi := 0
  yi := 0
  xf := 1
  yf := 0
  speed := 1
  frRate := 60
  paced := sixtyFrames

theorem dot_moves_right : ∃ video,
    videoTestMoveVideo twoPixelScreen.globals dot stepRight [5, 5] [timerTick] = .ok video ∧
      twoPixelScreen.geometry.pixel video.videoMem 0 0 = [0] ∧
        twoPixelScreen.geometry.pixel video.videoMem 1 0 = [7] := by
  have maskable : twoPixelScreen.bitsPerPixel.toNat ≠ 31 := by decide
  have whole : ([5, 5] : List UInt8).length = twoPixelScreen.geometry.size := rfl
  obtain ⟨video, ran, same, shown⟩ := moving_image_is_shown maskable dot stepRight whole [timerTick]
  rw [same] at shown
  obtain ⟨-, pixel⟩ := shown (by decide)
  refine ⟨video, ran, ?_, ?_⟩
  · rw [pixel 0 (by decide) 0 (by decide)]
    decide
  · rw [pixel 1 (by decide) 0 (by decide)]
    decide

end TypingTutor
