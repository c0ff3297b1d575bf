/-
Module: TypingTutor.Core.Rendering
Layer: Core
Purpose: What the drawing calls of the view are to the bytes of a frame buffer: `draw_rectangle` takes
  its arguments as 16-bit numbers, and a sprite is drawn from its pixel map.  A list of drawing calls is
  carried out on the memory that the buffer started with.
Trusted boundary: human-reviewed spec
Main exports: Video.Artwork, Video.renderOp, Video.render
-/
import TypingTutor.Core.Video
import TypingTutor.Core.View

namespace TypingTutor.Video

/-- The pixel maps that `xpm_load` gives for the sprites. -/
abbrev Artwork := SpriteName → PixelMap

variable (mode : Mode) (artwork : Artwork)

/-- One drawing call on the buffer that it draws into. -/
def renderOp (frameBuffer : List UInt8) : DrawOp → Except Fault (List UInt8)
  | .rectangle x y width height color =>
      drawRectangle mode (UInt16.ofInt x) (UInt16.ofInt y) (UInt16.ofInt width)
        (UInt16.ofInt height) color frameBuffer
  | .sprite name x y color => do
      let drawn ← drawSpriteXPM mode (some (artwork name)) x y color.isSome (color.getD 0) false
        frameBuffer frameBuffer
      return drawn.1.secondaryFrameBufferNoMouse

/-- The drawing calls of a buffer, which are kept newest first, on the memory it started with. -/
def render (strokes : List DrawOp) (memory : List UInt8) : Except Fault (List UInt8) :=
  strokes.reverse.foldlM (renderOp mode artwork) memory

end TypingTutor.Video
