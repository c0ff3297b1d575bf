/-
Module: TypingTutor.Core.MovingImage
Layer: Core
Purpose: `video_test_move` of lab 5: an image that moves from one point to another, a step at every
  so many timer interrupts, until the ESC key is released.  The calls that load the image and set up
  the mode and the interrupts are taken to succeed.  Of the video memory only the results of the
  drawing calls are kept; the model records the positions drawn and the number of updates.
Trusted boundary: human-reviewed spec
Main exports: MoveRequest, MoveState, iterate, videoTestMove
-/
import TypingTutor.Core.Drivers

namespace TypingTutor

/-- `h_res` and `v_res`, which `map_vram` takes from 16-bit fields. -/
structure Resolution where
  hRes : UInt16
  vRes : UInt16
deriving Repr, DecidableEq

/-- `width` and `height` of an `xpm_image_t`. -/
structure ImageSize where
  width : UInt16
  height : UInt16
deriving Repr, DecidableEq

/-- `vg_draw_pixel` returns 0. -/
def vgDrawPixel (screen : Resolution) (x y : UInt16) : Bool :=
  !(decide (screen.hRes ≤ x) || decide (screen.vRes ≤ y))

/-- `vg_draw_img` returns 0.  It gives up at the first pixel that is not drawn. -/
def vgDrawImg (screen : Resolution) (x y : UInt16) (img : ImageSize) : Bool :=
  (List.range img.height.toNat).all fun i =>
    (List.range img.width.toNat).all fun j =>
      vgDrawPixel screen (UInt16.ofNat (x.toNat + j)) (UInt16.ofNat (y.toNat + i))

/-- `vg_clear` returns 0. -/
def vgClear (screen : Resolution) : Bool :=
  (List.range screen.hRes.toNat).all fun i =>
    (List.range screen.vRes.toNat).all fun j =>
      vgDrawPixel screen (UInt16.ofNat i) (UInt16.ofNat j)

/-- The arguments of `video_test_move` that say where and how fast the image moves.  With a frame
rate of zero the program would divide by zero before its loop. -/
structure MoveRequest where
  xi : UInt16
  yi : UInt16
  xf : UInt16
  yf : UInt16
  speed : Int16
  frRate : UInt8
  paced : frRate ≠ 0
deriving DecidableEq

namespace MoveRequest

variable (request : MoveRequest)

def isHorizontal : Bool := decide (request.yi = request.yf)

def isPositiveDirection : Bool :=
  decide (request.xi < request.xf) || decide (request.yi < request.yf)

def interval : UInt8 := 60 / request.frRate

end MoveRequest

/-- The variables of the loop, with the globals `data` and `counter`; `returned` says that a drawing
call failed.  `drawn` and `updates` are the history. -/
structure MoveState where
  data : UInt8
  counter : Nat
  x : UInt16
  y : UInt16
  frames : Nat
  moveComplete : Bool
  returned : Bool
  drawn : List (UInt16 × UInt16)
  updates : Nat
deriving Repr, DecidableEq

/-- One of the interrupts of a message: the reads of `kbc_ih` for a keyboard interrupt, and whether
the timer bit is set.  A failed `driver_receive` and any other message is one without interrupts. -/
structure MoveNotification where
  keyboard : Option PortReads
  timer : Bool
deriving Repr, DecidableEq

/-- The four clamped branches: `c + speed` or `c - speed`, but not past the target. -/
def clamped (positive : Bool) (speed : Int) (target c : UInt16) : UInt16 :=
  if positive then
    if (target.toNat : Int) ≤ c.toNat + speed then target else UInt16.ofInt (c.toNat + speed)
  else
    if (c.toNat : Int) - speed ≤ target.toNat then target else UInt16.ofInt (c.toNat - speed)

/-- The two branches without a clamp. -/
def onePixel (positive : Bool) (c : UInt16) : UInt16 := if positive then c + 1 else c - 1

variable (screen : Resolution) (img : ImageSize) (request : MoveRequest)

/-- The coordinate that moves, changed by a function. -/
def moveAlong (change : UInt16 → UInt16 → UInt16) (state : MoveState) : MoveState :=
  if request.isHorizontal then { state with x := change request.xf state.x }
  else { state with y := change request.yf state.y }

/-- Clear the screen and draw the image at its position. -/
def redraw (state : MoveState) : MoveState :=
  if vgClear screen then
    let state := { state with drawn := state.drawn ++ [(state.x, state.y)] }
    if vgDrawImg screen state.x state.y img then
      if state.x = request.xf ∧ state.y = request.yf then { state with moveComplete := true }
      else state
    else { state with returned := true }
  else { state with returned := true }

/-- What is done when the counter has reached the interval. -/
def update (state : MoveState) : MoveState :=
  let state := { state with counter := 0, updates := state.updates + 1 }
  if 0 ≤ request.speed.toInt then
    redraw screen img request
      (moveAlong request (clamped request.isPositiveDirection request.speed.toInt) state)
  else
    let state := { state with frames := state.frames + 1 }
    if state.frames = request.speed.toInt.natAbs then
      redraw screen img request
        (moveAlong request (fun _ => onePixel request.isPositiveDirection)
          { state with frames := 0 })
    else state

/-- The timer part of an iteration. -/
def timerPart (state : MoveState) : MoveState :=
  let state := { state with counter := state.counter + 1 }
  if state.moveComplete then state
  else if request.interval.toNat ≤ state.counter then update screen img request state
  else state

/-- One iteration of the loop, if the function has not left it. -/
def iterate (state : MoveState) (message : MoveNotification) : MoveState :=
  if state.returned || state.data == 0x81 then state
  else
    match message.keyboard with
    | none => if message.timer then timerPart screen img request state else state
    | some ports =>
        let state := { state with data := kbcIh ports state.data }
        if state.data == 0x81 || state.data == 0xE0 then state
        else if message.timer then timerPart screen img request state
        else state

/-- The state before the loop, after the first drawing. -/
def beforeLoop : MoveState :=
  { data := 0
    counter := 0
    x := request.xi
    y := request.yi
    frames := 0
    moveComplete := false
    returned := !vgDrawImg screen request.xi request.yi img
    drawn := [(request.xi, request.yi)]
    updates := 0 }

/-- `video_test_move` over the messages that it receives. -/
def videoTestMove (messages : List MoveNotification) : MoveState :=
  messages.foldl (iterate screen img request) (beforeLoop screen img request)

end TypingTutor
