/-
Module: TypingTutor.Core.KeyboardPolling
Layer: Core
Purpose: `kbc_polling` of `keyboard.c`, the same text in the project and in lab 3, for any sequence of
  answers of the ports.  `tickdelay` only waits and is left out.
Trusted boundary: human-reviewed spec
Main exports: Polling, PollReturn, pollBody, kbcPolling
-/
import TypingTutor.Core.Drivers
import TypingTutor.Lib.Loop

namespace TypingTutor

open Loop

/-- The local variable `tries` and the global `data`. -/
structure Polling where
  tries : Nat
  data : UInt8
deriving Repr, DecidableEq

/-- The return value, and `data` at the return. -/
structure PollReturn where
  value : Int
  data : UInt8
deriving Repr, DecidableEq

/-- The body of the loop.  Every `continue` goes round it without `tries--`. -/
def pollBody (ports : PortReads) (poll : Polling) : Round Polling PollReturn :=
  match ports.status with
  | none => .again poll
  | some st =>
      if bit 7 st then .again poll        -- parity error
      else if bit 6 st then .again poll   -- timeout error
      else if bit 0 st then
        match ports.output with
        | none => .again poll
        | some byte => .returned { value := 0, data := byte }
      else .again { poll with tries := poll.tries - 1 }

/-- `while (tries > 0) {...} return 1;` -/
def pollLoop : While PortReads Polling PollReturn where
  condition poll := decide (0 < poll.tries)
  body := pollBody
  after poll := { value := 1, data := poll.data }

/-- `kbc_polling`: what it returns, with the number of status reads, if it returns within as many
rounds as there is fuel. -/
def kbcPolling (outcomes : Nat → PortReads) (fuel : Nat) (data : UInt8) :
    Option (PollReturn × Nat) :=
  pollLoop.run outcomes fuel 0 { tries := 10, data := data }

end TypingTutor
