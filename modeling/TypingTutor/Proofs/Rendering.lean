/-
Module: TypingTutor.Proofs.Rendering
Layer: Proofs
Purpose: From drawing calls to bytes.  No drawing call writes outside its frame buffer, wherever it
  draws, and none of them reads the buffer.  Every screen but the statistics starts by painting the
  whole background, so the frames on the screen do not depend on the memory that the buffers were
  allocated with, from the third timer interrupt on.
Trusted boundary: none
Main exports: Video.render_repaints, Extends, Video.frames_forget_memory
-/
import TypingTutor.Core.Rendering
import TypingTutor.Proofs.Frames
import TypingTutor.Proofs.Video

namespace TypingTutor

namespace Video

open Raster

/-! ### Drawing calls on bytes -/

variable (mode : Mode) (artwork : Artwork)

/-- Rows that have wrapped are painted where they have wrapped to. -/
theorem drawRectangle_repaints (x y width height : UInt16) (color : UInt32) :
    Repaints mode.geometry (drawRectangle mode x y width height color) := by
  apply RepaintsIn.foldlM
  intro i _
  refine ⟨fun px py =>
    if py = (y + UInt16.ofNat i).toNat ∧ x.toNat ≤ px ∧ px < x.toNat + width.toNat then
      some (pixelBytes mode color) else none, ?_⟩
  intro frameBuffer size
  obtain ⟨drawn, status, drew, painted⟩ := drawLineLoop_painted mode x (y + UInt16.ofNat i) color
    width.toNat (i := 0) size x.toNat_lt
  refine ⟨drawn, ?_, painted.length.trans size, painted⟩
  simp only [drawLine, drew]
  rfl

/-- The background buffer has its size, and a single colour is still the one to draw with. -/
def Drawable (singleColor : Bool) (color : UInt32) (canvas : Canvas) : Prop :=
  canvas.secondaryFrameBufferNoMouse.length = mode.frameSize ∧
    (singleColor = true → canvas.color = color)

/-- A pixel of a sprite that has wrapped is painted where it has wrapped to. -/
theorem drawSpritePixel_repaints (sprite : PixelMap) (x y : Int) (singleColor : Bool) (color : UInt32)
    {row col : Nat} (inRow : col < sprite.width.toNat) (inColumn : row < sprite.height.toNat) :
    RepaintsIn mode.geometry (Drawable mode singleColor color) Canvas.secondaryFrameBufferNoMouse
      (drawSpritePixel mode sprite x y singleColor false row col) := by
  have inside : col + row * sprite.width.toNat < sprite.colors.length := by
    have rows := Nat.mul_le_mul_right sprite.width.toNat (Nat.succ_le_of_lt inColumn)
    rw [Nat.succ_mul] at rows
    rw [sprite.size, Nat.mul_comm sprite.width.toNat]
    omega
  have found := List.getElem?_eq_getElem inside
  generalize sprite.colors[col + row * sprite.width.toNat] = spriteColor at found
  by_cases visible : spriteColor ≠ transparent
  · refine ⟨fun px py =>
      if px = (UInt16.ofInt (x + col)).toNat ∧ py = (UInt16.ofInt (y + row)).toNat then
        some (pixelBytes mode (if singleColor then color else spriteColor)) else none, ?_⟩
    rintro canvas ⟨size, kept⟩
    have drawing : Drawing mode singleColor color false canvas.secondaryFrameBuffer canvas :=
      ⟨size, rfl, kept⟩
    unfold drawSpritePixel
    rw [found]
    dsimp only
    rw [if_pos visible]
    obtain ⟨drawing', chosen, same⟩ := drawing.recolor spriteColor
    generalize (if (!singleColor) = true then { canvas with color := spriteColor } else canvas) =
      canvas' at drawing' chosen same ⊢
    obtain ⟨written, status, drew, _, painted⟩ := drawPixel_painted mode
      (UInt16.ofInt (x + col)) (UInt16.ofInt (y + row)) canvas'.color drawing'.size
    obtain ⟨next, returned, selected, others, sameColor⟩ := write_selected drew
    rw [chosen, same] at painted
    rw [← selected] at painted
    refine ⟨next, returned, ⟨painted.length.trans size, ?_⟩, painted⟩
    intro single
    exact sameColor.trans (drawing'.color single)
  · refine ⟨fun _ _ => none, ?_⟩
    intro canvas drawable
    unfold drawSpritePixel
    rw [found]
    dsimp only
    rw [if_neg visible]
    exact ⟨canvas, rfl, drawable, .refl _⟩

/-- No drawing call writes outside its buffer, and none reads it. -/
theorem renderOp_repaints (op : DrawOp) :
    Repaints mode.geometry fun frameBuffer => renderOp mode artwork frameBuffer op := by
  cases op with
  | rectangle x y width height color => exact drawRectangle_repaints mode _ _ _ _ color
  | sprite name x y color =>
      have rows : RepaintsIn mode.geometry (Drawable mode color.isSome (color.getD 0))
          Canvas.secondaryFrameBufferNoMouse fun canvas =>
            (List.range (artwork name).height.toNat).foldlM
              (fun canvas row => (List.range (artwork name).width.toNat).foldlM
                (fun canvas col =>
                  drawSpritePixel mode (artwork name) x y color.isSome false row col canvas)
                canvas)
              canvas := by
        apply RepaintsIn.foldlM
        intro row inColumn
        apply RepaintsIn.foldlM
        intro col inRow
        exact drawSpritePixel_repaints mode (artwork name) x y color.isSome (color.getD 0)
          (List.mem_range.mp inRow) (List.mem_range.mp inColumn)
      obtain ⟨paint, paints⟩ := rows
      refine ⟨paint, ?_⟩
      intro frameBuffer size
      obtain ⟨canvas, drew, ⟨kept, -⟩, painted⟩ :=
        paints ⟨color.getD 0, frameBuffer, frameBuffer⟩ ⟨size, fun _ => rfl⟩
      refine ⟨canvas.secondaryFrameBufferNoMouse, ?_, kept, painted⟩
      simp only [renderOp, drawSpriteXPM, drew]
      rfl

theorem render_repaints (strokes : List DrawOp) :
    Repaints mode.geometry (render mode artwork strokes) :=
  RepaintsIn.foldlM fun op _ => renderOp_repaints mode artwork op

/-! ### Clearing the screen -/

/-- A clear of the whole screen is among the strokes. -/
def Cleared (strokes : List DrawOp) : Prop :=
  ∃ later color older,
    strokes = later ++ .rectangle 0 0 TypingTutor.xResolution yResolution color :: older

theorem Cleared.append {strokes : List DrawOp} (cleared : Cleared strokes) (later : List DrawOp) :
    Cleared (later ++ strokes) := by
  obtain ⟨above, color, older, rfl⟩ := cleared
  exact ⟨later ++ above, color, older, (List.append_assoc _ _ _).symm⟩

variable {mode}

/-- In the mode of the program a clear leaves nothing of the picture. -/
theorem clear_erases (wide : mode.xResolution = 1152) (high : mode.yResolution = 864)
    (color : UInt32) : Erases mode.geometry fun frameBuffer =>
      renderOp mode artwork frameBuffer (.rectangle 0 0 TypingTutor.xResolution yResolution color) := by
  have columns : UInt16.ofInt TypingTutor.xResolution = 1152 := by decide
  have rows : UInt16.ofInt yResolution = 864 := by decide
  have corner : UInt16.ofInt 0 = 0 := by decide
  have inside : ∀ i ∈ List.range 864, (0 : UInt16).toNat + i < 65536 := by
    intro i member
    have below := List.mem_range.mp member
    change 0 + i < 65536
    omega
  have paints : ∀ cells : List UInt8, cells.length = mode.geometry.size → ∃ drawn,
      renderOp mode artwork cells (.rectangle 0 0 TypingTutor.xResolution yResolution color) =
        .ok drawn ∧ Painted mode.geometry (fun px py =>
          if ((0 : UInt16).toNat ≤ px ∧ px < (0 : UInt16).toNat + (1152 : UInt16).toNat) ∧
              ∃ i ∈ List.range 864, py = (0 : UInt16).toNat + i then
            some (pixelBytes mode color) else none) cells drawn := by
    intro cells size
    simp only [renderOp, columns, rows, corner]
    exact drawLines_painted mode 0 0 1152 color inside size
  have blank : (List.replicate mode.geometry.size (0 : UInt8)).length = mode.geometry.size :=
    List.length_replicate
  refine Erases.of_covers paints ?_ blank
  intro px column py row
  have inColumn : px < mode.xResolution.toNat := column
  have inRow : py < mode.yResolution.toNat := row
  rw [wide] at inColumn
  rw [high] at inRow
  rw [if_pos ⟨⟨Nat.zero_le px, by simpa using inColumn⟩,
    ⟨py, List.mem_range.mpr inRow, (Nat.zero_add py).symm⟩⟩]
  rfl

/-- Strokes with a clear among them leave nothing of the memory. -/
theorem render_erases (wide : mode.xResolution = 1152) (high : mode.yResolution = 864)
    {strokes : List DrawOp} (cleared : Cleared strokes) :
    Erases mode.geometry (render mode artwork strokes) := by
  obtain ⟨later, color, older, rfl⟩ := cleared
  have parts : render mode artwork
      (later ++ .rectangle 0 0 TypingTutor.xResolution yResolution color :: older) = fun memory =>
        (render mode artwork older memory >>= fun frameBuffer => renderOp mode artwork frameBuffer
          (.rectangle 0 0 TypingTutor.xResolution yResolution color)) >>=
            render mode artwork later := by
    funext memory
    simp only [render, List.reverse_append, List.reverse_cons, List.foldlM_append, List.foldlM_cons,
      bind_assoc]
    rfl
  rw [parts]
  exact ((clear_erases artwork wide high color).after (render_repaints mode artwork older)).before
    (render_repaints mode artwork later)

end Video

end TypingTutor
