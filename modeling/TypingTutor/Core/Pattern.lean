/-
Module: TypingTutor.Core.Pattern
Layer: Core
Purpose: The colour pattern of lab 5: `vg_draw_pattern` of `video.c` with the drawing functions under
  it, and the functions of `graphics.c` that compute the same colours.  A shift that C leaves
  undefined, a division by zero and a write outside the video memory are errors.  The calls to the
  kernel in `map_vram` are taken to succeed.
Trusted boundary: human-reviewed spec
Main exports: VbeModeInfo, Pattern.mapVram, Pattern.patternColor, Pattern.vgDrawRectangle,
  Pattern.vgDrawPattern, Graphics.directMode, Graphics.red, Graphics.green, Graphics.blue
-/
import TypingTutor.Lib.Raster

namespace TypingTutor

/-- The fields of `vbe_mode_info_t` that are used for drawing. -/
structure VbeModeInfo where
  xResolution : UInt16
  yResolution : UInt16
  bitsPerPixel : UInt8
  memoryModel : UInt8
  redMaskSize : UInt8
  redFieldPosition : UInt8
  greenMaskSize : UInt8
  greenFieldPosition : UInt8
  blueMaskSize : UInt8
  blueFieldPosition : UInt8
deriving Repr, DecidableEq

/-- What C leaves undefined. -/
inductive Undefined where
  | shift
  | division
  | write
deriving Repr, DecidableEq

/-- `1 << amount`.  The `1` is an `int`, so the sign bit must not be reached. -/
def oneShifted (amount : UInt32) : Except Undefined UInt32 :=
  if amount < 31 then .ok (1 <<< amount) else .error .shift

/-- `value >> amount` of a `uint32_t`. -/
def shiftRight (value amount : UInt32) : Except Undefined UInt32 :=
  if amount < 32 then .ok (value >>> amount) else .error .shift

/-- `value << amount` of a `uint32_t`. -/
def shiftLeft (value amount : UInt32) : Except Undefined UInt32 :=
  if amount < 32 then .ok (value <<< amount) else .error .shift

/-! ### `video.c` -/

namespace Pattern

/-- The globals of `video.c`, all `unsigned`. -/
structure Globals where
  hRes : UInt32
  vRes : UInt32
  bitsPerPixel : UInt32
  bytesPerPixel : UInt32
  memModel : UInt32
  redMaskSize : UInt32
  greenMaskSize : UInt32
  blueMaskSize : UInt32
  redFieldPosition : UInt32
  greenFieldPosition : UInt32
  blueFieldPosition : UInt32
deriving Repr, DecidableEq

/-- The globals after `map_vram`. -/
def mapVram (info : VbeModeInfo) : Globals :=
  { hRes := info.xResolution.toUInt32
    vRes := info.yResolution.toUInt32
    bitsPerPixel := info.bitsPerPixel.toUInt32
    bytesPerPixel := (info.bitsPerPixel.toUInt32 + 7) / 8
    memModel := info.memoryModel.toUInt32
    redMaskSize := info.redMaskSize.toUInt32
    greenMaskSize := info.greenMaskSize.toUInt32
    blueMaskSize := info.blueMaskSize.toUInt32
    redFieldPosition := info.redFieldPosition.toUInt32
    greenFieldPosition := info.greenFieldPosition.toUInt32
    blueFieldPosition := info.blueFieldPosition.toUInt32 }

variable (globals : Globals)

/-- The body of the loop of `vg_draw_pixel` over the bytes of a pixel. -/
def writeByte (pos color : UInt32) (videoMem : List UInt8) (i : Nat) :
    Except Undefined (List UInt8) := do
  let byte ← shiftRight color (UInt32.ofNat i * 8)
  match Raster.store videoMem (pos + UInt32.ofNat i).toNat [(byte &&& 0xFF).toUInt8] with
  | some written => return written
  | none => .error .write

/-- `vg_draw_pixel`: the video memory and the return value. -/
def vgDrawPixel (x y : UInt16) (color : UInt32) (videoMem : List UInt8) :
    Except Undefined (List UInt8 × Int) :=
  if globals.hRes ≤ x.toUInt32 ∨ globals.vRes ≤ y.toUInt32 then .ok (videoMem, 1)
  else do
    let pos := (y.toUInt32 * globals.hRes + x.toUInt32) * globals.bytesPerPixel
    let written ← (List.range globals.bytesPerPixel.toNat).foldlM (writeByte pos color) videoMem
    return (written, 0)

/-- The loop of `vg_draw_hline`, from `j` on with so many pixels left. -/
def hlineLoop (y : UInt16) (color : UInt32) :
    Nat → Nat → List UInt8 → Except Undefined (List UInt8 × Int)
  | 0, _, videoMem => .ok (videoMem, 0)
  | left + 1, j, videoMem => do
      let drawn ← vgDrawPixel globals (UInt16.ofNat j) y color videoMem
      if drawn.2 ≠ 0 then return (drawn.1, 1)
      else hlineLoop y color left (j + 1) drawn.1

/-- `vg_draw_hline`. -/
def vgDrawHline (x y len : UInt16) (color : UInt32) (videoMem : List UInt8) :
    Except Undefined (List UInt8 × Int) :=
  hlineLoop globals y color len.toNat x.toNat videoMem

/-- The loop of `vg_draw_rectangle`, from row `i` on with so many rows left. -/
def rectangleLoop (x width : UInt16) (color : UInt32) :
    Nat → Nat → List UInt8 → Except Undefined (List UInt8 × Int)
  | 0, _, videoMem => .ok (videoMem, 0)
  | left + 1, i, videoMem => do
      let drawn ← vgDrawHline globals x (UInt16.ofNat i) width color videoMem
      if drawn.2 ≠ 0 then return (drawn.1, 1)
      else rectangleLoop x width color left (i + 1) drawn.1

/-- The arguments of `vg_draw_rectangle`. -/
structure RectangleCall where
  x : UInt16
  y : UInt16
  width : UInt16
  height : UInt16
  color : UInt32
deriving Repr, DecidableEq

/-- The colour that `vg_draw_rectangle` really draws. -/
def normalizedColor (color : UInt32) : Except Undefined UInt32 :=
  if globals.bitsPerPixel ≠ 32 then do
    return color &&& ((← oneShifted globals.bitsPerPixel) - 1)
  else .ok color

/-- `vg_draw_rectangle`. -/
def vgDrawRectangle (call : RectangleCall) (videoMem : List UInt8) :
    Except Undefined (List UInt8 × Int) := do
  let color ← normalizedColor globals call.color
  rectangleLoop globals call.x call.width color call.height.toNat call.y.toNat videoMem

/-- A component as `vg_draw_pattern` computes it: `red_first` and `red`, and the same for green and
blue. -/
def patternComponent (maskSize fieldPosition first offset : UInt32) : Except Undefined UInt32 := do
  let componentFirst := (← shiftRight first fieldPosition) &&& ((← oneShifted maskSize) - 1)
  return ((← shiftRight componentFirst fieldPosition) + offset) % (← oneShifted maskSize)

variable (noRectangles : UInt8) (first : UInt32) (step : UInt8)

/-- The variable `color` in round `j` of round `i` of the loops of `vg_draw_pattern`. -/
def patternColor (i j : Nat) : Except Undefined UInt32 :=
  if globals.memModel = 0x04 then do
    let offset := UInt32.ofNat ((i * noRectangles.toNat + j) * step.toNat)
    return (first + offset) % (← oneShifted globals.bitsPerPixel)
  else if globals.memModel = 0x06 then do
    let red ← patternComponent globals.redMaskSize globals.redFieldPosition first
      (UInt32.ofNat (j * step.toNat))
    let green ← patternComponent globals.greenMaskSize globals.greenFieldPosition first
      (UInt32.ofNat (i * step.toNat))
    let blue ← patternComponent globals.blueMaskSize globals.blueFieldPosition first
      (UInt32.ofNat ((i + j) * step.toNat))
    return (← shiftLeft red globals.redFieldPosition) |||
      (← shiftLeft green globals.greenFieldPosition) |||
      (← shiftLeft blue globals.blueFieldPosition)
  else .ok first

/-- `width` and `height` of `vg_draw_pattern`; the quotients lose their high bits. -/
def rectangleWidth : UInt16 := (globals.hRes / noRectangles.toUInt32).toUInt16
def rectangleHeight : UInt16 := (globals.vRes / noRectangles.toUInt32).toUInt16

/-- The call of `vg_draw_rectangle` in round `j` of round `i`. -/
def patternCall (i j : Nat) : Except Undefined RectangleCall := do
  let width := rectangleWidth globals noRectangles
  let height := rectangleHeight globals noRectangles
  let color ← patternColor globals noRectangles first step i j
  return {
    x := UInt16.ofNat (j * width.toNat)
    y := UInt16.ofNat (i * height.toNat)
    width := width
    height := height
    color := color }

/-- `vg_draw_pattern`.  What `vg_draw_rectangle` returns is ignored. -/
def vgDrawPattern (videoMem : List UInt8) : Except Undefined (List UInt8 × Int) :=
  if noRectangles = 0 then .error .division
  else do
    let drawn ← (List.range noRectangles.toNat).foldlM
      (fun videoMem i => (List.range noRectangles.toNat).foldlM
        (fun videoMem j => do
          let call ← patternCall globals noRectangles first step i j
          let drawn ← vgDrawRectangle globals call videoMem
          return drawn.1)
        videoMem)
      videoMem
    return (drawn, 0)

end Pattern

/-! ### `graphics.c` -/

namespace Graphics

variable (modeInfo : VbeModeInfo)

/-- `direct_mode`. -/
def directMode (R G B : UInt32) : Except Undefined UInt32 := do
  return (← shiftLeft R modeInfo.redFieldPosition.toUInt32) |||
    (← shiftLeft G modeInfo.greenFieldPosition.toUInt32) |||
    (← shiftLeft B modeInfo.blueFieldPosition.toUInt32)

/-- The bodies of `R`, `G` and `B`. -/
def component (maskSize fieldPosition : UInt8) (first : UInt32) : Except Undefined UInt32 := do
  return ((← oneShifted maskSize.toUInt32) - 1) &&& (← shiftRight first fieldPosition.toUInt32)

def R (first : UInt32) : Except Undefined UInt32 :=
  component modeInfo.redMaskSize modeInfo.redFieldPosition first

def G (first : UInt32) : Except Undefined UInt32 :=
  component modeInfo.greenMaskSize modeInfo.greenFieldPosition first

def B (first : UInt32) : Except Undefined UInt32 :=
  component modeInfo.blueMaskSize modeInfo.blueFieldPosition first

/-- `Red`. -/
def red (j : UInt32) (step : UInt8) (first : UInt32) : Except Undefined UInt32 := do
  return ((← R modeInfo first) + j * step.toUInt32) % (← oneShifted modeInfo.redMaskSize.toUInt32)

/-- `Green`. -/
def green (i : UInt32) (step : UInt8) (first : UInt32) : Except Undefined UInt32 := do
  return ((← G modeInfo first) + i * step.toUInt32) % (← oneShifted modeInfo.greenMaskSize.toUInt32)

/-- `Blue`. -/
def blue (j i : UInt32) (step : UInt8) (first : UInt32) : Except Undefined UInt32 := do
  return ((← B modeInfo first) + (i + j) * step.toUInt32) %
    (← oneShifted modeInfo.blueMaskSize.toUInt32)

/-- `direct_mode(Red(j, step, first), Green(i, step, first), Blue(j, i, step, first))`. -/
def directColor (i j : UInt32) (step : UInt8) (first : UInt32) : Except Undefined UInt32 := do
  directMode modeInfo (← red modeInfo j step first) (← green modeInfo i step first)
    (← blue modeInfo j i step first)

end Graphics

end TypingTutor
