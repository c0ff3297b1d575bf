/-
Module: TypingTutor.Core.MouseCommand
Layer: Core
Purpose: `ibf_empty` and `mouse_command` of `mouse.c` as programs on the ports of the i8042
  controller.  Every port operation may fail, and a read may give any byte.  `tickdelay` only waits
  and is left out.
Trusted boundary: human-reviewed spec
Main exports: PortRequest, PortProgram, ibfEmpty, commandAttempt, mouseCommand
-/
import TypingTutor.Core.Data
import TypingTutor.Lib.Device

namespace TypingTutor

open Device

/-- `util_sys_inb(port, &value)` and `sys_outb(port, value)`. -/
inductive PortRequest where
  | inb (port : UInt8)
  | outb (port : UInt8) (value : UInt32)
deriving Repr, DecidableEq

/-- A read gives a byte or fails, a write succeeds or fails. -/
def PortRequest.Answer : PortRequest → Type
  | .inb _ => Option UInt8
  | .outb _ _ => Bool

abbrev PortProgram (α : Type) := Program PortRequest PortRequest.Answer α

abbrev PortExchange := Exchange PortRequest PortRequest.Answer

def utilSysInb (port : UInt8) : PortProgram (Option UInt8) :=
  Program.request (PortRequest.inb port)

def sysOutb (port : UInt8) (value : UInt32) : PortProgram Bool :=
  Program.request (PortRequest.outb port value)

/-- The body of the loop of `ibf_empty`; `none` continues the loop. -/
def statusAttempt : PortProgram (Option Unit) := do
  match ← utilSysInb 0x64 with
  | none => return none
  | some st =>
      if bit 7 st then return none        -- parity error
      else if bit 6 st then return none   -- timeout error
      else if !bit 1 st then return some ()
      else return none

/-- `ibf_empty`. -/
def ibfEmpty : PortProgram Bool := do
  return (← retry statusAttempt 10).isSome

/-- The body of the loop of `mouse_command`; `none` continues the loop. -/
def commandAttempt (cmd : UInt32) : PortProgram (Option Unit) := do
  if !(← ibfEmpty) then return none
  else if !(← sysOutb 0x64 0xD4) then return none
  else if !(← ibfEmpty) then return none
  else if !(← sysOutb 0x60 cmd) then return none
  else
    match ← utilSysInb 0x60 with
    | none => return none
    | some response => if response == 0xFA then return some () else return none

/-- `mouse_command`. -/
def mouseCommand (cmd : UInt32) : PortProgram Int := do
  match ← retry (commandAttempt cmd) 10 with
  | some _ => return 0
  | none => return 1

end TypingTutor
