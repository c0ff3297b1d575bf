/-
Module: TypingTutor.Core.TestPrograms
Layer: Core
Purpose: The test programs of labs 2 to 4 that wait for interrupts: `timer_test_int`,
  `kbd_test_scan`, `kbd_test_timed_scan`, `mouse_test_packet` and `mouse_test_async`, with
  `kbd_test_poll`, which does not wait.  Each makes some calls, loops, and makes some calls to clean
  up.
Trusted boundary: human-reviewed spec
Main exports: Message, testProgram, timerTestInt, Scanner, kbdTestScan, kbdTestTimedScan,
  kbdTestPoll, MouseTest, mouseTestPacket, mouseTestAsync
-/
import TypingTutor.Core.KeyboardPolling

namespace TypingTutor

open Loop

/-- What `driver_receive` gives: an interrupt of the device that the program has subscribed, with
the answers of the ports to its handler, and an interrupt of the timer.  A failed call, and any
other message, has neither. -/
structure Message where
  device : Option PortReads
  timer : Bool
deriving Repr, DecidableEq, Inhabited

/-- A test program: calls of which any failure ends it, the loop, and calls to clean up, with their
return values.  The result comes with the state after the loop and the number of rounds. -/
def testProgram {ι σ : Type} (opening closing : List Int) (loop : While ι σ σ) (inputs : ℕ → ι)
    (fuel : ℕ) (start : σ) : Option (Int × σ × ℕ) :=
  if opening.any (· != 0) then some (1, start, 0)
  else
    (loop.run inputs fuel 0 start).map fun answer =>
      (if closing.any (· != 0) then 1 else 0, answer)

/-! ### Lab 2 -/

/-- The global `counter`, the parameter `time`, and the calls of `timer_print_elapsed_time`.  The
counter is an `int` in the source, which more than a year of ticks would overflow; so are those of
the programs below. -/
structure TimerTest where
  counter : ℕ
  time : UInt8
  elapsed : ℕ
deriving Repr, DecidableEq

/-- A round of `timer_test_int`, with `timer_int_handler`. -/
def timerTestStep (message : Message) (s : TimerTest) : TimerTest :=
  if message.timer then
    let counter := s.counter + 1
    if counter % 60 = 0 then { counter := counter, time := s.time - 1, elapsed := s.elapsed + 1 }
    else { s with counter := counter }
  else s

/-- `timer_test_int`, after and before these calls. -/
def timerTestInt (opening closing : List Int) (inputs : ℕ → Message) (fuel : ℕ) (start : TimerTest) :
    Option (Int × TimerTest × ℕ) :=
  testProgram opening closing (.steps (fun s => s.time > 0) timerTestStep) inputs fuel start

/-! ### Lab 3 -/

/-- A call of `kbd_print_scancode`. -/
structure Scancode where
  make : Bool
  bytes : List UInt8
deriving Repr, DecidableEq

/-- The global `data`, the local variables `is_2bytes` and `temp`, and what has been printed. -/
structure Scanner where
  data : UInt8
  is2bytes : Bool
  temp : UInt8
  printed : List Scancode
deriving Repr, DecidableEq

/-- What `kbd_test_scan` does after `kbc_ih`. -/
def scanData (s : Scanner) : Scanner :=
  if s.data = 0xE0 then { s with is2bytes := true, temp := s.data }
  else if s.is2bytes then
    { s with
      is2bytes := false
      printed := s.printed ++ [{ make := !bit 7 s.data, bytes := [s.temp, s.data] }] }
  else { s with printed := s.printed ++ [{ make := !bit 7 s.data, bytes := [s.data] }] }

/-- The keyboard's part of a round. -/
def scanInterrupt (device : Option PortReads) (s : Scanner) : Scanner :=
  match device with
  | none => s
  | some ports => scanData { s with data := kbcIh ports s.data }

/-- `kbd_test_scan`. -/
def kbdTestScan (opening closing : List Int) (inputs : ℕ → Message) (fuel : ℕ) (start : Scanner) :
    Option (Int × Scanner × ℕ) :=
  testProgram opening closing
    (.steps (fun s => s.data != 0x81) fun message s => scanInterrupt message.device s) inputs fuel start

/-- `kbd_test_timed_scan` also has the global `counter`. -/
structure TimedScanner where
  scanner : Scanner
  counter : ℕ
  elapsed : ℕ
deriving Repr, DecidableEq

/-- A tick of the timer: `timer_int_handler`, and a line every second. -/
def TimedScanner.tick (s : TimedScanner) : TimedScanner :=
  let counter := s.counter + 1
  { s with counter := counter, elapsed := if counter % 60 = 0 then s.elapsed + 1 else s.elapsed }

/-- A round of `kbd_test_timed_scan`.  The `break` after a first byte leaves the switch, so that the
rest of the message is not looked at. -/
def timedScanStep (message : Message) (s : TimedScanner) : TimedScanner :=
  let scanner := scanInterrupt message.device s.scanner
  if message.device.isSome && scanner.data == 0xE0 then { s with scanner := scanner }
  else
    let s := { s with scanner := scanner, counter := if message.device.isSome then 0 else s.counter }
    if message.timer then s.tick else s

/-- `kbd_test_timed_scan`. -/
def kbdTestTimedScan (opening closing : List Int) (idle : UInt8) (inputs : ℕ → Message) (fuel : ℕ)
    (start : TimedScanner) : Option (Int × TimedScanner × ℕ) :=
  testProgram opening closing
    (.steps (fun s => decide (s.counter < idle.toNat * 60) && s.scanner.data != 0x81) timedScanStep)
    inputs fuel start

/-- What `kbd_test_poll` does after a successful `kbc_polling`. -/
def pollData (s : Scanner) : Scanner :=
  if s.data = 0xE0 then { s with is2bytes := true }
  else if s.is2bytes then
    { s with
      is2bytes := false
      printed := s.printed ++ [{ make := !bit 7 s.data, bytes := [0xE0, s.data] }] }
  else { s with printed := s.printed ++ [{ make := !bit 7 s.data, bytes := [s.data] }] }

/-- The scanner after `kbc_polling`. -/
def Scanner.polled (answer : PollReturn) (s : Scanner) : Scanner :=
  if answer.value = 0 then pollData { s with data := answer.data } else { s with data := answer.data }

/-- The loop of `kbd_test_poll`, after so many status reads. -/
def pollScan (outcomes : ℕ → PortReads) : ℕ → ℕ → Scanner → Option (Scanner × ℕ)
  | 0, reads, s => if s.data != 0x81 then none else some (s, reads)
  | fuel + 1, reads, s =>
      if s.data != 0x81 then
        match kbcPolling (fun i => outcomes (reads + i)) (fuel + 1) s.data with
        | none => none
        | some (answer, more) => pollScan outcomes fuel (reads + more) (s.polled answer)
      else some (s, reads)

/-- `kbd_test_poll`. -/
def kbdTestPoll (closing : List Int) (outcomes : ℕ → PortReads) (fuel : ℕ) (start : Scanner) :
    Option (Int × Scanner × ℕ) :=
  (pollScan outcomes fuel 0 start).map fun answer => (if closing.any (· != 0) then 1 else 0, answer)

/-! ### Lab 4 -/

/-- The globals of `mouse.c`, `counter`, and what has been printed; `packets_read` is the number of
packets printed. -/
structure MouseTest where
  mouse : Mouse
  counter : ℕ
  printed : List Packet
  elapsed : ℕ
deriving Repr, DecidableEq

/-- `parse` of lab 4, which moves no cursor. -/
def parseOnly (mouse : Mouse) : Mouse := { mouse with pp := decodePacket mouse.ppBytes }

/-- The mouse's part of a round, and whether a packet is complete. -/
def mouseTestInterrupt (ports : PortReads) (s : MouseTest) : MouseTest × Bool :=
  let mouse := sync (mouseIh ports s.mouse)
  if mouse.bytesRead = 3 then
    let mouse := parseOnly mouse
    ({ s with mouse := { mouse with bytesRead := 0 }, printed := s.printed ++ [mouse.pp] }, true)
  else ({ s with mouse := mouse }, false)

/-- A round of `mouse_test_packet`. -/
def mousePacketStep (message : Message) (s : MouseTest) : MouseTest :=
  match message.device with
  | none => s
  | some ports => (mouseTestInterrupt ports s).1

/-- `mouse_test_packet`. -/
def mouseTestPacket (opening closing : List Int) (cnt : UInt32) (inputs : ℕ → Message) (fuel : ℕ)
    (start : MouseTest) : Option (Int × MouseTest × ℕ) :=
  testProgram opening closing (.steps (fun s => decide (s.printed.length < cnt.toNat)) mousePacketStep)
    inputs fuel start

/-- A tick of the timer in `mouse_test_async`. -/
def MouseTest.tick (s : MouseTest) : MouseTest :=
  let counter := s.counter + 1
  { s with counter := counter, elapsed := if counter % 60 = 0 then s.elapsed + 1 else s.elapsed }

/-- A round of `mouse_test_async`. -/
def mouseAsyncStep (message : Message) (s : MouseTest) : MouseTest :=
  let s :=
    match message.device with
    | none => s
    | some ports =>
        let handled := mouseTestInterrupt ports s
        if handled.2 then { handled.1 with counter := 0 } else handled.1
  if message.timer then s.tick else s

/-- `mouse_test_async`. -/
def mouseTestAsync (opening closing : List Int) (idleTime : UInt8) (inputs : ℕ → Message) (fuel : ℕ)
    (start : MouseTest) : Option (Int × MouseTest × ℕ) :=
  testProgram opening closing
    (.steps (fun s => decide (s.counter < idleTime.toNat * 60)) mouseAsyncStep) inputs fuel start

end TypingTutor
