/-
Module: TypingTutor.Core.Timer
Layer: Core
Purpose: `timer_get_conf`, `timer_set_frequency` and `timer_display_conf` of `timer.c`, as programs on
  the ports of the i8254, and the counters behind these ports.  A counter takes its count as its control
  word says, and gives its status once after a read-back command.
Trusted boundary: human-reviewed spec
Main exports: timerGetConf, timerSetFrequency, StatusValue, timerDisplayConf, TimerChannel, TimerDevice,
  timerMachine
-/
import TypingTutor.Core.MouseCommand
import TypingTutor.Lib.DeviceLogic

namespace TypingTutor

open Device

/-! ### The driver -/

/-- `TIMER_FREQ`. -/
def timerFreq : UInt32 := 1193182

/-- `TIMER_CTRL`. -/
def timerCtrl : UInt8 := 0x43

/-- `TIMER_0 + timer`. -/
def timerPort (timer : UInt8) : UInt8 := 0x40 + timer

/-- `TIMER_RB_CMD | TIMER_RB_COUNT_ | TIMER_RB_SEL(timer)`. -/
def readBackCommand (timer : UInt8) : UInt8 :=
  (0xC0 : UInt8) ||| 0x20 ||| ((1 : UInt8) <<< (timer + 1))

/-- `util_get_LSB`. -/
def utilGetLSB (val : UInt16) : UInt8 := (val &&& 0xFF).toUInt8

/-- `util_get_MSB`. -/
def utilGetMSB (val : UInt16) : UInt8 := (val >>> 8).toUInt8

/-- `timer_get_conf` on a pointer that is not null; `none` is the return value 1. -/
def timerGetConf (timer : UInt8) : PortProgram (Option UInt8) := do
  if timer > 2 then return none
  else if !(← sysOutb timerCtrl (readBackCommand timer).toUInt32) then return none
  else utilSysInb (timerPort timer)

/-- The switch over the timers, `TIMER_SEL0` to `TIMER_SEL2`. -/
def timerSel (timer : UInt8) : Option UInt8 :=
  if timer = 0 then some 0x00
  else if timer = 1 then some 0x40
  else if timer = 2 then some 0x80
  else none

/-- The new control word: `TIMER_LSB_MSB` with the mode and the base of the old status. -/
def controlWord (st sel : UInt8) : UInt8 := (st &&& 0x0F) ||| 0x30 ||| sel

/-- `timer_set_frequency`.  The result of writing the control word is not looked at. -/
def timerSetFrequency (timer : UInt8) (freq : UInt32) : PortProgram Int := do
  if freq > timerFreq ∨ freq < 19 ∨ timer > 2 then return 1
  else
    match ← timerGetConf timer with
    | none => return 1
    | some st =>
        match timerSel timer with
        | none => return 1
        | some sel =>
            let _ ← sysOutb timerCtrl (controlWord st sel).toUInt32
            let counterValue := (timerFreq / freq).toUInt16
            if !(← sysOutb (timerPort timer) (utilGetLSB counterValue).toUInt32) then return 1
            else if !(← sysOutb (timerPort timer) (utilGetMSB counterValue).toUInt32) then return 1
            else return 0

/-- `enum timer_status_field`. -/
inductive TimerStatusField where
  | all | initial | mode | base
deriving Repr, DecidableEq

/-- `union timer_status_field_val`; `inMode` is an `enum timer_init`. -/
inductive StatusValue where
  | byte (st : UInt8)
  | inMode (mode : UInt8)
  | countMode (mode : UInt8)
  | bcd (bcd : Bool)
deriving Repr, DecidableEq

/-- What `timer_display_conf` gives to `timer_print_config`.  The mask of the counting mode is
`TIMER_SQR_WAVE`. -/
def timerDisplayConf (st : UInt8) : TimerStatusField → StatusValue
  | .all => .byte st
  | .initial => .inMode ((st &&& ((0x10 : UInt8) ||| 0x20)) >>> 4)
  | .mode =>
      let countMode := (st &&& ((0x04 : UInt8) ||| 0x02)) >>> 1
      .countMode (if countMode > 5 then countMode &&& 0x3 else countMode)
  | .base => .bcd (st &&& 0x01 != 0)

/-- `timer_test_read_config` up to the printing. -/
def timerTestReadConfig (timer : UInt8) (field : TimerStatusField) :
    PortProgram (Option StatusValue) := do
  match ← timerGetConf timer with
  | none => return none
  | some st => return some (timerDisplayConf st field)

/-! ### The device -/

/-- A counter: the low six bits of its control word, the count it is reloaded with, the low byte of a
count whose high byte is awaited, and a latched status. -/
structure TimerChannel where
  control : UInt8
  count : UInt16
  half : Option UInt8
  status : Option UInt8
deriving Repr, DecidableEq

namespace TimerChannel

/-- How the count is written: 1 for the low byte, 2 for the high byte, 3 for both. -/
def access (channel : TimerChannel) : UInt8 := (channel.control >>> 4) &&& 0x3

/-- The counting mode as the control word has it, 0 to 7. -/
def mode (channel : TimerChannel) : UInt8 := (channel.control >>> 1) &&& 0x7

/-- A byte of the count. -/
def load (value : UInt8) (channel : TimerChannel) : TimerChannel :=
  if channel.access = 1 then { channel with count := value.toUInt16 }
  else if channel.access = 2 then { channel with count := value.toUInt16 <<< 8 }
  else
    match channel.half with
    | none => { channel with half := some value }
    | some low => { channel with count := low.toUInt16 + (value.toUInt16 <<< 8), half := none }

/-- A control word. -/
def program (word : UInt8) (channel : TimerChannel) : TimerChannel :=
  { channel with control := word &&& 0x3F, half := none }

/-- A read-back command latches the status: the output and the null count flag in the upper two bits,
below them the control word.  A status that is latched already stays. -/
def latch (flags : UInt8) (channel : TimerChannel) : TimerChannel :=
  { channel with
    status := some (channel.status.getD ((flags &&& 0xC0) ||| (channel.control &&& 0x3F))) }

end TimerChannel

/-- The three counters. -/
abbrev TimerDevice : Type := Fin 3 → TimerChannel

/-- A byte written to the control register: a read-back command of statuses, a counter latch command,
which concerns only reads of the count, or a control word. -/
def TimerDevice.command (flags : UInt8) (value : UInt8) (device : TimerDevice) : TimerDevice :=
  if value >>> 6 = 3 then
    fun n =>
      if bit (UInt8.ofNat (n.val + 1)) value && !bit 4 value then (device n).latch flags
      else device n
  else if (value >>> 4) &&& 0x3 = 0 then device
  else fun n => if value >>> 6 = UInt8.ofNat n.val then (device n).program value else device n

/-- A byte written to a port; a call that fails does not reach the device. -/
def timerWritten (before : TimerDevice) (port : UInt8) (value : UInt32) : Bool → TimerDevice → Prop
  | false, after => after = before
  | true, after =>
      (port = timerCtrl ∧ ∃ flags, after = before.command flags value.toUInt8) ∨
        ∃ n : Fin 3, port = timerPort (UInt8.ofNat n.val) ∧
          after = Function.update before n ((before n).load value.toUInt8)

/-- A byte read from the port of a counter: its status if one is latched, else some byte of its
count. -/
def timerRead (before : TimerDevice) (port : UInt8) : Option UInt8 → TimerDevice → Prop
  | none, after => after = before
  | some value, after =>
      ∃ n : Fin 3, port = timerPort (UInt8.ofNat n.val) ∧
        ((before n).status = some value ∧
            after = Function.update before n { before n with status := none } ∨
          (before n).status = none ∧ after = before)

/-- The i8254 behind its ports, where only the requests of the given kind may fail. -/
def timerMachine (fails : PortRequest → Prop) : Machine PortRequest PortRequest.Answer TimerDevice
  | before, .outb port value, ok, after =>
      (ok = false → fails (.outb port value)) ∧ timerWritten before port value ok after
  | before, .inb port, answer, after => (answer = none → fails (.inb port)) ∧
    timerRead before port answer after

end TypingTutor
