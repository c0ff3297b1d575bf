/-
Module: TypingTutor.Core.Uart
Layer: Core
Purpose: `uart.c` of lab 7 as programs on the registers of the first serial port, with the start of
  `video_test_controller`, and the UART behind the registers.  While the upper bit of the line control
  register is set, the first two registers are the divisor latch; the third one is written as FIFO
  control and read as interrupt identification.
Trusted boundary: human-reviewed spec
Main exports: UartRequest, UartConfig, readUartConfig, enableUartFifoCapabilities, resetUartFifoData,
  enableReceiveDataInterrupts, uartSubscribeInt, videoTestControllerStart, UartDevice, uartMachine
-/
import TypingTutor.Core.Data
import TypingTutor.Core.Pattern
import TypingTutor.Lib.DeviceLogic

namespace TypingTutor

open Device

/-! ### The driver -/

/-- A call of `util_sys_inb` or `sys_outb` on `COM1` and an offset, or of `sys_irqsetpolicy`. -/
inductive UartRequest where
  | inb (offset : UInt8)
  | outb (offset : UInt8) (value : UInt8)
  | irqSetPolicy
deriving Repr, DecidableEq

/-- A byte or a failure; whether the call has returned `OK`. -/
abbrev UartRequest.Answer : UartRequest → Type
  | .inb _ => Option UInt8
  | .outb _ _ => Bool
  | .irqSetPolicy => Bool

abbrev UartProgram (α : Type) : Type := Program UartRequest UartRequest.Answer α

def uartInb (offset : UInt8) : UartProgram (Option UInt8) := Program.request (UartRequest.inb offset)

def uartOutb (offset value : UInt8) : UartProgram Bool :=
  Program.request (UartRequest.outb offset value)

/-- `enum parity_t`. -/
inductive Parity where
  | no | odd | even | always1 | always0
deriving Repr, DecidableEq

/-- `struct uart_config_t`. -/
structure UartConfig where
  bitrate : UInt64
  noBitsPerChar : UInt8
  noStopBits : UInt8
  parity : Parity
deriving Repr, DecidableEq

/-- The struct after `bzero`. -/
def zeroUartConfig : UartConfig := { bitrate := 0, noBitsPerChar := 0, noStopBits := 0, parity := .no }

/-- The switch over the parity bits, which leaves the field alone when there is no parity. -/
def parityField (config : UInt8) (parity : Parity) : Parity :=
  let parityMsk := (config >>> 3) &&& 0x7
  if parityMsk = 0x1 then .odd
  else if parityMsk = 0x3 then .even
  else if parityMsk = 0x5 then .always1
  else if parityMsk = 0x7 then .always0
  else parity

/-- The fields of the line control register. -/
def UartConfig.withLine (config : UInt8) (uartConfig : UartConfig) : UartConfig :=
  { uartConfig with
    noBitsPerChar := (config &&& 0x3) + 5
    noStopBits := ((config >>> 2) &&& 0x1) + 1
    parity := parityField config uartConfig.parity }

/-- `(((uint16_t)msb_bitrate) << 8) | lsb_bitrate`. -/
def bitrateDivisor (msb lsb : UInt8) : UInt32 := (msb.toUInt32 <<< 8) ||| lsb.toUInt32

/-- `LCR_DLAB`. -/
def lcrDlab : UInt8 := 0x80

/-- `read_uart_config`: the return value and the struct. -/
def readUartConfig (uartConfig : UartConfig) : UartProgram (Except Undefined (Int × UartConfig)) := do
  match ← uartInb 3 with
  | none => return .ok (1, uartConfig)
  | some config =>
      let uartConfig := uartConfig.withLine config
      if !(← uartOutb 3 (config ||| lcrDlab)) then return .ok (1, uartConfig)
      else
        match ← uartInb 0 with
        | none => return .ok (1, uartConfig)
        | some lsb =>
            match ← uartInb 1 with
            | none => return .ok (1, uartConfig)
            | some msb =>
                if bitrateDivisor msb lsb = 0 then return .error .division
                else
                  let uartConfig :=
                    { uartConfig with bitrate := (115200 / bitrateDivisor msb lsb).toUInt64 }
                  if !(← uartOutb 3 ((config ||| lcrDlab) &&& ~~~lcrDlab)) then
                    return .ok (1, uartConfig)
                  else return .ok (0, uartConfig)

/-- The three functions that read a register, change some of its bits and write it. -/
def changeRegister (offset : UInt8) (change : UInt8 → UInt8) : UartProgram Int := do
  match ← uartInb offset with
  | none => return 1
  | some value => if !(← uartOutb offset (change value)) then return 1 else return 0

/-- `enable_uart_fifo_capabilities`. -/
def enableUartFifoCapabilities : UartProgram Int :=
  changeRegister 2 fun fifoConfig => (fifoConfig ||| 0x01 ||| 0x80) &&& ~~~0x40

/-- `reset_uart_fifo_data`. -/
def resetUartFifoData : UartProgram Int :=
  changeRegister 2 fun fifoConfig => fifoConfig ||| (0x02 ||| 0x04)

/-- `enable_receive_data_interrupts`. -/
def enableReceiveDataInterrupts : UartProgram Int :=
  changeRegister 1 fun ier => (ier ||| 0x01) &&& ~~~0x02 &&& ~~~0x04 &&& ~~~0x08

/-- `uart_subscribe_int`, which ignores what the first three functions return. -/
def uartSubscribeInt : UartProgram Int := do
  let _ ← enableUartFifoCapabilities
  let _ ← resetUartFifoData
  let _ ← enableReceiveDataInterrupts
  if !(← (Program.request UartRequest.irqSetPolicy : UartProgram Bool)) then return 1 else return 0

/-- `video_test_controller` up to its loop, with the configuration that it prints.  It ignores what
the two functions return. -/
def videoTestControllerStart : UartProgram (Except Undefined UartConfig) := do
  match ← readUartConfig zeroUartConfig with
  | .error undefined => return .error undefined
  | .ok (_, uartConfig) =>
      let _ ← uartSubscribeInt
      return .ok uartConfig

/-! ### The device -/

/-- The registers of a UART: line control, interrupt enable, whether the FIFOs are on and their trigger
level, and the divisor latch; and whether its interrupts are subscribed. -/
structure UartDevice where
  lcr : UInt8
  ier : UInt8
  fifo : Bool
  trigger : UInt8
  dll : UInt8
  dlm : UInt8
  subscribed : Bool
deriving Repr, DecidableEq

namespace UartDevice

/-- The divisor latch is where the first two registers are. -/
def latched (device : UartDevice) : Bool := bit 7 device.lcr

/-- A byte written to a register.  The trigger level is only taken together with the bit that turns the
FIFOs on. -/
def write (offset value : UInt8) (device : UartDevice) : UartDevice :=
  if offset = 0 then if device.latched then { device with dll := value } else device
  else if offset = 1 then
    if device.latched then { device with dlm := value } else { device with ier := value &&& 0x0F }
  else if offset = 2 then
    if bit 0 value then { device with fifo := true, trigger := value >>> 6 }
    else { device with fifo := false }
  else if offset = 3 then { device with lcr := value }
  else device

/-- What a register may read as.  The lowest bit of the interrupt identification is set when no
interrupt is pending, and none is when none is enabled; its upper bits tell that the FIFOs are on.
-/
def Reads (device : UartDevice) (offset value : UInt8) : Prop :=
  if offset = 0 then device.latched = true → value = device.dll
  else if offset = 1 then value = if device.latched then device.dlm else device.ier
  else if offset = 2 then
    (value &&& 0xF0 = if device.fifo then 0xC0 else 0x00) ∧
      (device.ier &&& 0x0F = 0 → value &&& 0x0F = 0x01)
  else if offset = 3 then value = device.lcr
  else True

end UartDevice

/-- The UART and the kernel, where only the requests of the given kind may fail. -/
def uartMachine (fails : UartRequest → Prop) : Machine UartRequest UartRequest.Answer UartDevice
  | before, .inb offset, answer, after =>
      after = before ∧ (answer = none → fails (.inb offset)) ∧ ∀ value, answer = some value →
        before.Reads offset value
  | before, .outb offset value, ok, after =>
      (ok = false → fails (.outb offset value)) ∧
        after = if ok then before.write offset value else before
  | before, .irqSetPolicy, ok, after =>
      (ok = false → fails .irqSetPolicy) ∧ after = { before with subscribed := ok || before.subscribed }

end TypingTutor
