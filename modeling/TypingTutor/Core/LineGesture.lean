/-
Module: TypingTutor.Core.LineGesture
Layer: Core
Purpose: `process_packet` of `mouse.c`, the recogniser of the inverted-V gesture: a line up with the
  left button, a vertex, and a line down with the right button.
Trusted boundary: human-reviewed spec
Main exports: LineState, LineGesture, processPacket
-/
import TypingTutor.Core.Data

namespace TypingTutor

/-- `enum state`. -/
inductive LineState where
  | stateZero | stateInit | stateFirstLine | stateEndFirstLine | stateVertex | stateSecondLine
  | stateEndSecondLine | stateEnd
deriving Repr, DecidableEq, Inhabited

/-- The globals `state`, `abs_x_len` and `abs_y_len`. -/
structure LineGesture where
  state : LineState
  absXLen : UInt8
  absYLen : UInt8
deriving Repr, DecidableEq, Inhabited

namespace LineGesture

/-- The initial values of the globals. -/
def start : LineGesture := { state := .stateZero, absXLen := 0, absYLen := 0 }

end LineGesture

/-- `delta & BIT(15)` of a 16-bit displacement. -/
def signBit (delta : Int) : Bool := decide (delta < 0)

/-- `abs(delta) <= tolerance`. -/
def withinTolerance (tolerance : UInt8) (delta : Int) : Bool :=
  decide (delta.natAbs ≤ tolerance.toNat)

/-- `!(delta & BIT(15)) || (delta & BIT(15) && abs(delta) <= tolerance)`. -/
def goesForward (tolerance : UInt8) (delta : Int) : Bool :=
  !signBit delta || (signBit delta && withinTolerance tolerance delta)

/-- `!delta & BIT(15)`: the negation binds first, so this is bit 15 of 0 or 1. -/
def signBitOfNot (delta : Int) : Bool := (if delta = 0 then 1 else 0 : Nat).testBit 15

/-- `(delta & BIT(15)) || (!delta & BIT(15) && delta <= tolerance)`. -/
def goesDown (tolerance : UInt8) (delta : Int) : Bool :=
  signBit delta || (signBitOfNot delta && decide (delta ≤ tolerance.toNat))

/-- No button is pressed. -/
def released (pp : Packet) : Bool := !pp.lb && !pp.rb && !pp.mb

/-- `abs_x_len += delta_x; abs_y_len += delta_y`. -/
def addDeltas (pp : Packet) (gesture : LineGesture) : LineGesture :=
  { gesture with
    absXLen := gesture.absXLen + UInt8.ofInt pp.deltaX
    absYLen := gesture.absYLen + UInt8.ofInt pp.deltaY }

/-- `abs_x_len >= x_len && abs_y_len > abs_x_len + 1`; the sum is an `int`. -/
def lineDrawn (xLen : UInt8) (gesture : LineGesture) : Bool :=
  decide (xLen ≤ gesture.absXLen) &&
    decide (gesture.absXLen.toNat + 1 < gesture.absYLen.toNat)

/-- `process_packet`. -/
def processPacket (xLen tolerance : UInt8) (pp : Packet) (gesture : LineGesture) : LineGesture :=
  match gesture.state with
  | .stateZero =>
      if released pp then { gesture with state := .stateInit } else gesture
  | .stateInit =>
      let gesture := { gesture with absXLen := 0, absYLen := 0 }
      if pp.lb && !pp.rb && !pp.mb then { gesture with state := .stateFirstLine } else gesture
  | .stateFirstLine =>
      if (goesForward tolerance pp.deltaX && pp.lb && !pp.rb && !pp.mb) &&
          goesForward tolerance pp.deltaY then
        let gesture := addDeltas pp gesture
        if lineDrawn xLen gesture then { gesture with state := .stateEndFirstLine } else gesture
      else if released pp then { gesture with state := .stateInit }
      else { gesture with state := .stateZero }
  | .stateEndFirstLine =>
      if released pp then { gesture with state := .stateVertex }
      else if pp.rb || pp.mb then { gesture with state := .stateZero }
      else gesture
  | .stateVertex =>
      let gesture := { gesture with absXLen := 0, absYLen := 0 }
      if pp.rb && !pp.lb && !pp.mb then { gesture with state := .stateSecondLine }
      else if pp.lb && !pp.rb && !pp.mb then { gesture with state := .stateFirstLine }
      else if withinTolerance tolerance pp.deltaX && withinTolerance tolerance pp.deltaY &&
          released pp then gesture
      else { gesture with state := .stateZero }
  | .stateSecondLine =>
      if (goesForward tolerance pp.deltaX && pp.rb && !pp.lb && !pp.mb) &&
          goesDown tolerance pp.deltaY then
        let gesture := addDeltas pp gesture
        if lineDrawn xLen gesture then { gesture with state := .stateEndSecondLine } else gesture
      else if released pp then { gesture with state := .stateInit }
      else { gesture with state := .stateZero }
  | .stateEndSecondLine =>
      if released pp then { gesture with state := .stateEnd }
      else if pp.lb || pp.mb then { gesture with state := .stateZero }
      else gesture
  | .stateEnd => gesture

end TypingTutor
