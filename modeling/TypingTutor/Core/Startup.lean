/-
Module: TypingTutor.Core.Startup
Layer: Core
Purpose: `setup`, `end` and `proj_main_loop` of `proj.c` with the calls that they make to the ports
  and to the operating system, and what these calls act on: the timers, the mouse behind the
  keyboard controller, the interrupt lines that are subscribed and the graphic mode.
Trusted boundary: human-reviewed spec
Main exports: SystemRequest, setupCalls, endCalls, projMainLoop, Controller, Kernel, System,
  systemMachine
-/
import TypingTutor.Core.Timer

namespace TypingTutor

open Device

/-! ### The calls -/

/-- The lines `TIMER0_IRQ`, `KEYBOARD_IRQ`, `IRQ_RTC` and 12. -/
inductive IrqLine where
  | timer | keyboard | rtc | mouse
deriving Repr, DecidableEq

/-- Calls of the operating system.  A hook is named by its line. -/
inductive KernelRequest where
  | irqSetPolicy (line : IrqLine)
  | irqRmPolicy (line : IrqLine)
  | vbeGetModeInfo (mode : UInt16)
  | privCtl
  | mapPhys
  | int86 (bx : UInt16)
  | vgExit
deriving Repr, DecidableEq

inductive SystemRequest where
  | port (request : PortRequest)
  | kernel (request : KernelRequest)
deriving Repr, DecidableEq

/-- The return value of a call of the operating system; that of `vm_map_phys` is an address. -/
def SystemRequest.Answer : SystemRequest → Type
  | .port request => request.Answer
  | .kernel _ => Int

abbrev SystemProgram (α : Type) := Program SystemRequest SystemRequest.Answer α

def kernelCall (request : KernelRequest) : SystemProgram Int :=
  Program.request (SystemRequest.kernel request)

/-- A driver that only uses the ports. -/
def onPorts {α : Type} (program : PortProgram α) : SystemProgram α :=
  embed SystemRequest.port (fun _ answer => answer) program

/-! ### The drivers -/

/-- `if (sys_irqsetpolicy(...) != OK) return 1; return 0;` -/
def subscribe (line : IrqLine) : SystemProgram Int := do
  if (← kernelCall (.irqSetPolicy line)) ≠ 0 then return 1
  else return 0

/-- `if (sys_irqrmpolicy(...) != OK) return 1; return 0;` -/
def unsubscribe (line : IrqLine) : SystemProgram Int := do
  if (← kernelCall (.irqRmPolicy line)) ≠ 0 then return 1
  else return 0

def mouseSubscribeInt : SystemProgram Int := subscribe .mouse
def keyboardSubscribeInt : SystemProgram Int := subscribe .keyboard
def timerSubscribe : SystemProgram Int := subscribe .timer

/-- `rtc_subscribe_interrupts`, which returns what the call returns. -/
def rtcSubscribeInterrupts : SystemProgram Int := kernelCall (.irqSetPolicy .rtc)

def mouseUnsubscribeInt : SystemProgram Int := unsubscribe .mouse
def keyboardUnsubscribeInt : SystemProgram Int := unsubscribe .keyboard
def timerUnsubscribeInt : SystemProgram Int := unsubscribe .timer

/-- `rtc_unsubscribe_interrupts`. -/
def rtcUnsubscribeInterrupts : SystemProgram Int := kernelCall (.irqRmPolicy .rtc)

/-- `set_graphic_mode`. -/
def setGraphicMode (mode : UInt16) : SystemProgram Int := do
  if (← kernelCall (.int86 (mode ||| 0x4000))) ≠ 0 then return 1
  else return 0

/-- `set_frame_buffer`; the null pointer is 0. -/
def setFrameBuffer (mode : UInt16) : SystemProgram Int := do
  if (← kernelCall (.vbeGetModeInfo mode)) ≠ 0 then return 1
  else if (← kernelCall .privCtl) ≠ 0 then return 1
  else if (← kernelCall .mapPhys) = 0 then return 1
  else return 0

/-- `setUpFrameBuffer`.  What its two calls of `malloc` return is not looked at. -/
def setUpFrameBuffer : SystemProgram Int := do
  if (← setFrameBuffer 0x14C) ≠ 0 then return 1
  else return 0

/-- `vg_exit`. -/
def vgExit : SystemProgram Int := kernelCall .vgExit

/-! ### The program -/

/-- The calls of `setup`.  After them it only initialises the sprites and the key maps and goes to the
menu. -/
def setupCalls : SystemProgram Int :=
  allOf [onPorts (mouseCommand 0xF4), mouseSubscribeInt, onPorts (timerSetFrequency 0 60),
    setUpFrameBuffer,
    setGraphicMode 0x14C, keyboardSubscribeInt, timerSubscribe, rtcSubscribeInterrupts]

/-- The calls of `end`, which destroys the sprites before them. -/
def endCalls : SystemProgram Int :=
  allOf [keyboardUnsubscribeInt, timerUnsubscribeInt, vgExit, rtcUnsubscribeInterrupts,
    mouseUnsubscribeInt, onPorts (mouseCommand 0xF5)]

/-- The mouse behind the keyboard controller: whether it gets the next byte that is written to port
0x60, and whether it reports its movements. -/
structure Controller where
  toMouse : Bool
  reporting : Bool
deriving Repr, DecidableEq

/-- A byte for the mouse, which knows the commands 0xF4 and 0xF5. -/
def Controller.command (cmd : UInt32) (controller : Controller) : Controller :=
  { toMouse := false
    reporting := if cmd = 0xF4 then true else if cmd = 0xF5 then false else controller.reporting }

/-- A byte written to one of the two ports of the keyboard controller; a call that fails does not reach
it. -/
def Controller.write (port : UInt8) (value : UInt32) (ok : Bool) (controller : Controller) :
    Controller :=
  if !ok then controller
  else if port = 0x64 then { controller with toMouse := value == 0xD4 }
  else if controller.toMouse then controller.command value
  else controller

/-- The keyboard controller behind its ports.  A read may give any byte. -/
def controllerMachine : Machine PortRequest PortRequest.Answer Controller
  | before, .outb port value, ok, after => after = before.write port value ok
  | before, .inb _, _, after => after = before

/-- The lines that the program has subscribed, and the graphic mode. -/
structure Kernel where
  subscribed : IrqLine → Bool
  mode : Option UInt16

/-- The operating system: a line can only be given up by who has subscribed it. -/
def kernelMachine (before : Kernel) (request : KernelRequest) (code : Int) (after : Kernel) : Prop :=
  match request with
  | .irqSetPolicy line =>
      if code = 0 then after = { before with subscribed := Function.update before.subscribed line true }
      else after = before
  | .irqRmPolicy line =>
      if code = 0 then
        before.subscribed line = true ∧
          after = { before with subscribed := Function.update before.subscribed line false }
      else after = before
  | .int86 bx => after = if code = 0 then { before with mode := some bx } else before
  | .vgExit => after = if code = 0 then { before with mode := none } else before
  | .vbeGetModeInfo _ | .privCtl | .mapPhys => after = before

structure System where
  timers : TimerDevice
  controller : Controller
  kernel : Kernel

/-- The port of a request. -/
def PortRequest.address : PortRequest → UInt8
  | .inb port => port
  | .outb port _ => port

/-- The ports of the timers and those of the keyboard controller. -/
def isTimerPort (request : PortRequest) : Bool := 0x40 ≤ request.address && request.address ≤ 0x43

def isControllerPort (request : PortRequest) : Bool :=
  request.address == 0x60 || request.address == 0x64

/-- A port call, which reaches the device that has the port. -/
structure PortStep (fails : PortRequest → Prop) (before : System) (request : PortRequest)
    (answer : request.Answer) (after : System) : Prop where
  kernel : after.kernel = before.kernel
  atTimers : isTimerPort request = true → timerMachine fails before.timers request answer after.timers
  timers : isTimerPort request = false → after.timers = before.timers
  atController : isControllerPort request = true →
    controllerMachine before.controller request answer after.controller
  controller : isControllerPort request = false → after.controller = before.controller

/-- A call of the operating system. -/
structure KernelStep (before : System) (request : KernelRequest) (code : Int) (after : System) :
    Prop where
  kernel : kernelMachine before.kernel request code after.kernel
  timers : after.timers = before.timers
  controller : after.controller = before.controller

/-- The devices and the operating system, where only the port calls of the given kind may fail. -/
def systemMachine (fails : PortRequest → Prop) : Machine SystemRequest SystemRequest.Answer System
  | before, .port request, answer, after => PortStep fails before request answer after
  | before, .kernel request, code, after => KernelStep before request code after

end TypingTutor
