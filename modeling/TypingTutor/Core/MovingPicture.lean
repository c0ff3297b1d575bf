/-
Module: TypingTutor.Core.MovingPicture
Layer: Core
Purpose: `video_test_move` of lab 5 with the video memory, which `vg_draw_img` and `vg_clear` of
  `video.c` write pixel by pixel.
Trusted boundary: human-reviewed spec
Main exports: LoadedImage, Pattern.vgDrawImg, Pattern.vgClear, iterateTurn, MoveVideo, redrawVideo,
  iterateVideo, videoTestMoveVideo
-/
import TypingTutor.Core.MovingImage
import TypingTutor.Core.Pattern

namespace TypingTutor

/-- An image that `xpm_load` has loaded: a byte for each pixel, row by row. -/
structure LoadedImage extends ImageSize where
  bytes : List UInt8
  count : bytes.length = width.toNat * height.toNat

/-- `*sprite` when the pointer has passed so many rows and, in this row, so many pixels. -/
def LoadedImage.byte (image : LoadedImage) (row column : ℕ) : UInt8 :=
  image.bytes.getD (row * image.width.toNat + column) 0

/-! ### `video.c` -/

namespace Pattern

/-- A `for` loop that returns 1 at the first step that does not return 0. -/
def rounds (step : ℕ → List UInt8 → Except Undefined (List UInt8 × Int)) :
    ℕ → ℕ → List UInt8 → Except Undefined (List UInt8 × Int)
  | 0, _, videoMem => .ok (videoMem, 0)
  | left + 1, i, videoMem => do
      let drawn ← step i videoMem
      if drawn.2 ≠ 0 then return (drawn.1, 1)
      else rounds step left (i + 1) drawn.1

variable (globals : Globals) (image : LoadedImage) (x y : UInt16)

/-- The body of the loops of `vg_draw_img`. -/
def drawImgPixel (i j : ℕ) (videoMem : List UInt8) : Except Undefined (List UInt8 × Int) := do
  let color ← normalizedColor globals (image.byte (i - y.toNat) (j - x.toNat)).toUInt32
  vgDrawPixel globals (UInt16.ofNat j) (UInt16.ofNat i) color videoMem

/-- `vg_draw_img`. -/
def vgDrawImg (videoMem : List UInt8) : Except Undefined (List UInt8 × Int) :=
  rounds (fun i => rounds (drawImgPixel globals image x y i) image.width.toNat x.toNat)
    image.height.toNat y.toNat videoMem

/-- `vg_clear`. -/
def vgClear (videoMem : List UInt8) : Except Undefined (List UInt8 × Int) :=
  rounds (fun i => rounds (fun j => vgDrawPixel globals (UInt16.ofNat i) (UInt16.ofNat j) 0)
    globals.vRes.toNat 0) globals.hRes.toNat 0 videoMem

end Pattern

/-! ### `video_test_move` -/

section Turns

variable (request : MoveRequest)

/-- What is done when the counter has reached the interval, up to the drawing: the state, and whether
the screen is drawn again. -/
def updateTurn (state : MoveState) : MoveState × Bool :=
  let state := { state with counter := 0, updates := state.updates + 1 }
  if 0 ≤ request.speed.toInt then
    (moveAlong request (clamped request.isPositiveDirection request.speed.toInt) state, true)
  else
    let state := { state with frames := state.frames + 1 }
    if state.frames = request.speed.toInt.natAbs then
      (moveAlong request (fun _ => onePixel request.isPositiveDirection) { state with frames := 0 },
        true)
    else (state, false)

def timerTurn (state : MoveState) : MoveState × Bool :=
  let state := { state with counter := state.counter + 1 }
  if state.moveComplete then (state, false)
  else if request.interval.toNat ≤ state.counter then updateTurn request state
  else (state, false)

/-- An iteration of the loop up to the drawing. -/
def iterateTurn (state : MoveState) (message : MoveNotification) : MoveState × Bool :=
  if state.returned || state.data == 0x81 then (state, false)
  else
    match message.keyboard with
    | none => if message.timer then timerTurn request state else (state, false)
    | some ports =>
        let state := { state with data := kbcIh ports state.data }
        if state.data == 0x81 || state.data == 0xE0 then (state, false)
        else if message.timer then timerTurn request state
        else (state, false)

end Turns

/-- The variables of the loop and the video memory. -/
structure MoveVideo where
  state : MoveState
  videoMem : List UInt8

variable (globals : Pattern.Globals) (image : LoadedImage) (request : MoveRequest)

/-- Clear the screen and draw the image at its position. -/
def redrawVideo (video : MoveVideo) : Except Undefined MoveVideo := do
  let cleared ← Pattern.vgClear globals video.videoMem
  if cleared.2 ≠ 0 then
    return { state := { video.state with returned := true }, videoMem := cleared.1 }
  else
    let state := { video.state with drawn := video.state.drawn ++ [(video.state.x, video.state.y)] }
    let drawn ← Pattern.vgDrawImg globals image state.x state.y cleared.1
    if drawn.2 ≠ 0 then return { state := { state with returned := true }, videoMem := drawn.1 }
    else if state.x = request.xf ∧ state.y = request.yf then
      return { state := { state with moveComplete := true }, videoMem := drawn.1 }
    else return { state := state, videoMem := drawn.1 }

/-- An iteration of the loop. -/
def iterateVideo (video : MoveVideo) (message : MoveNotification) : Except Undefined MoveVideo :=
  let turn := iterateTurn request video.state message
  if turn.2 then redrawVideo globals image request { video with state := turn.1 }
  else .ok { video with state := turn.1 }

/-- `video_test_move` over the messages that it receives, on this video memory. -/
def videoTestMoveVideo (videoMem : List UInt8) (messages : List MoveNotification) :
    Except Undefined MoveVideo := do
  let drawn ← Pattern.vgDrawImg globals image request.xi request.yi videoMem
  let start : MoveState :=
    { data := 0
      counter := 0
      x := request.xi
      y := request.yi
      frames := 0
      moveComplete := false
      returned := drawn.2 != 0
      drawn := [(request.xi, request.yi)]
      updates := 0 }
  messages.foldlM (iterateVideo globals image request) { state := start, videoMem := drawn.1 }

end TypingTutor
