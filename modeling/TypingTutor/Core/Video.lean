/-
Module: TypingTutor.Core.Video
Layer: Core
Purpose: The bytes of the frame buffers: `draw_pixel`, `draw_line` and `draw_rectangle` of `video.c`
  and `drawSpriteXPM` of `view.c`.  A write outside a buffer and a read outside a pixel map are
  faults.
Trusted boundary: human-reviewed spec
Main exports: Video.Mode, Video.drawPixel, Video.drawLine, Video.drawRectangle, Video.PixelMap,
  Video.drawSpriteXPM
-/
import TypingTutor.Core.Data
import TypingTutor.Lib.Raster
import Mathlib.Algebra.Ring.Nat

namespace TypingTutor.Video

/-- The fields of `mode_info` that drawing uses, of a mode with 1 to 4 bytes for a pixel and less
than 2^31 bytes for the screen. -/
structure Mode where
  xResolution : UInt16
  yResolution : UInt16
  bitsPerPixel : UInt8
  bits_pos : 0 < bitsPerPixel.toNat
  bits_le : bitsPerPixel.toNat ≤ 32
  size_lt : xResolution.toNat * yResolution.toNat * ((bitsPerPixel.toNat + 7) / 8) < 2 ^ 31

namespace Mode

variable (mode : Mode)

/-- `BytesPerPixel`. -/
def bytesPerPixel : Nat := (mode.bitsPerPixel.toNat + 7) / 8

/-- `frame_size`. -/
def frameSize : Nat := mode.xResolution.toNat * mode.yResolution.toNat * mode.bytesPerPixel

end Mode

/-- The bytes of a `uint32_t`, least significant byte first. -/
def colorBytes (color : UInt32) : List UInt8 :=
  [color.toUInt8, (color >>> 8).toUInt8, (color >>> 16).toUInt8, (color >>> 24).toUInt8]

/-- `memcpy(&frame_buffer[index], &color, count)`. -/
def copyColor (frameBuffer : List UInt8) (index : Nat) (color : UInt32) (count : Nat) :
    Except Fault (List UInt8) :=
  if (colorBytes color).length < count then .error .outOfBounds
  else
    match Raster.store frameBuffer index ((colorBytes color).take count) with
    | some written => .ok written
    | none => .error .outOfBounds

variable (mode : Mode)

/-- `draw_pixel`: the buffer and the return value.  The index is an `unsigned int`. -/
def drawPixel (x y : UInt16) (color : UInt32) (frameBuffer : List UInt8) :
    Except Fault (List UInt8 × Int) :=
  if mode.xResolution ≤ x ∨ mode.yResolution ≤ y then .ok (frameBuffer, 1)
  else do
    let index :=
      (mode.xResolution.toUInt32 * y.toUInt32 + x.toUInt32) * UInt32.ofNat mode.bytesPerPixel
    let written ← copyColor frameBuffer index.toNat color mode.bytesPerPixel
    return (written, 0)

/-- The loop of `draw_line`, from pixel `i` on with so many pixels left. -/
def drawLineLoop (x y : UInt16) (color : UInt32) :
    Nat → Nat → List UInt8 → Except Fault (List UInt8 × Int)
  | 0, _, frameBuffer => .ok (frameBuffer, 0)
  | left + 1, i, frameBuffer => do
      let drawn ← drawPixel mode (x + UInt16.ofNat i) y color frameBuffer
      if drawn.2 ≠ 0 then return (drawn.1, 1)
      else drawLineLoop x y color left (i + 1) drawn.1

/-- `draw_line`. -/
def drawLine (x y len : UInt16) (color : UInt32) (frameBuffer : List UInt8) :
    Except Fault (List UInt8 × Int) :=
  drawLineLoop mode x y color len.toNat 0 frameBuffer

/-- `draw_rectangle`; it always returns 0. -/
def drawRectangle (x y width height : UInt16) (color : UInt32) (frameBuffer : List UInt8) :
    Except Fault (List UInt8) :=
  (List.range height.toNat).foldlM
    (fun frameBuffer i => do
      let drawn ← drawLine mode x (y + UInt16.ofNat i) width color frameBuffer
      return drawn.1)
    frameBuffer

/-- `TRANSPARENT`. -/
def transparent : UInt32 := 0xFFFFFE

/-- The size and the colours of a sprite; `xpm_load` gives a colour for every pixel. -/
structure PixelMap where
  width : UInt16
  height : UInt16
  colors : List UInt32
  size : colors.length = width.toNat * height.toNat

/-- The buffers that `drawSpriteXPM` writes, and its variable `color`. -/
structure Canvas where
  color : UInt32
  secondaryFrameBuffer : List UInt8
  secondaryFrameBufferNoMouse : List UInt8

/-- The body of the loops of `drawSpriteXPM`. -/
def drawSpritePixel (sprite : PixelMap) (x y : Int) (singleColor moving : Bool) (row col : Nat)
    (canvas : Canvas) : Except Fault Canvas :=
  match sprite.colors[col + row * sprite.width.toNat]? with
  | none => .error .outOfBounds
  | some spriteColor =>
      if spriteColor ≠ transparent then do
        let canvas := if !singleColor then { canvas with color := spriteColor } else canvas
        if moving then
          let drawn ← drawPixel mode (UInt16.ofInt (x + col)) (UInt16.ofInt (y + row)) canvas.color
            canvas.secondaryFrameBuffer
          return { canvas with secondaryFrameBuffer := drawn.1 }
        else
          let drawn ← drawPixel mode (UInt16.ofInt (x + col)) (UInt16.ofInt (y + row)) canvas.color
            canvas.secondaryFrameBufferNoMouse
          return { canvas with secondaryFrameBufferNoMouse := drawn.1 }
      else return canvas

/-- `drawSpriteXPM`: the buffers and the return value. -/
def drawSpriteXPM (sprite : Option PixelMap) (x y : Int) (singleColor : Bool) (color : UInt32)
    (moving : Bool) (secondary noMouse : List UInt8) : Except Fault (Canvas × Int) :=
  let canvas : Canvas := ⟨color, secondary, noMouse⟩
  match sprite with
  | none => .ok (canvas, 1)
  | some sprite => do
      let drawn ← (List.range sprite.height.toNat).foldlM
        (fun canvas row => (List.range sprite.width.toNat).foldlM
          (fun canvas col => drawSpritePixel mode sprite x y singleColor moving row col canvas)
          canvas)
        canvas
      return (drawn, 0)

end TypingTutor.Video
