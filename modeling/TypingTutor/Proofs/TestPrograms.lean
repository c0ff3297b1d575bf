/-
Module: TypingTutor.Proofs.TestPrograms
Layer: Proofs
Purpose: `mouse_test_packet` prints the first packets that it is sent and stops, `mouse_test_async`
  stops when no packet has come for long enough, and `timer_test_int` counts seconds.
Trusted boundary: none
Main exports: sync_feeds, Receives, received, HearsMouse, packet_test_prints_first, packetTurns,
  async_test_ends_iff, Ticked, timer_test_counts_seconds
-/
import TypingTutor.Proofs.MouseFraming
import TypingTutor.Proofs.ScanPrograms

namespace TypingTutor

open Framing Loop Stopwatch

/-! ### Packets -/

/-- A byte that `sync` is given is a byte that the receiver is fed. -/
theorem sync_feeds {mouse : Mouse} {receiver : Receiver UInt8} (counted : mouse.bytesRead ≤ 2)
    (held : heldBytes mouse = receiver.held) :
    ((sync mouse).bytesRead = 3 ∧ feed (bit 3) 3 receiver mouse.byteReceived =
        { held := [], frames := receiver.frames ++ [heldBytes (sync mouse)] }) ∨
      ((sync mouse).bytesRead ≤ 2 ∧ feed (bit 3) 3 receiver mouse.byteReceived =
        { receiver with held := heldBytes (sync mouse) }) := by
  have size := length_heldBytes counted
  rw [held] at size
  by_cases skipped : mouse.bytesRead = 0 ∧ bit 3 mouse.byteReceived = false
  · obtain ⟨empty, closed⟩ := skipped
    have nothing : receiver.held = [] := List.length_eq_zero_iff.mp (size.trans empty)
    rw [sync_skips empty closed, feed_skips nothing closed, held]
    exact .inr ⟨counted, rfl⟩
  · obtain ⟨advanced, longer⟩ := sync_stores counted skipped
    have taken : receiver.held = [] → bit 3 mouse.byteReceived = true := by
      intro nothing
      by_contra closed
      rw [nothing, List.length_nil] at size
      exact skipped ⟨size.symm, eq_false_of_ne_true closed⟩
    rw [longer, held]
    by_cases complete : (sync mouse).bytesRead = 3
    · exact .inl ⟨complete, feed_completes taken (by omega)⟩
    · exact .inr ⟨by omega, feed_takes taken (by omega)⟩

/-- The program holds the bytes that the receiver holds, and has printed the packets received. -/
structure Receives (receiver : Receiver UInt8) (s : MouseTest) : Prop where
  held : heldBytes s.mouse = receiver.held
  count : s.mouse.bytesRead ≤ 2
  printed : s.printed = receiver.frames.map decodeFrame

/-- The receiver after bytes. -/
def received (bytes : List UInt8) : Receiver UInt8 := bytes.foldl (feed (bit 3) 3) ⟨[], []⟩

theorem sync_byteReceived (mouse : Mouse) : (sync mouse).byteReceived = mouse.byteReceived := by
  rw [sync]
  split_ifs
  · rfl
  · rfl
  · rfl
  · rfl
  · rfl

section Interrupts

variable {receiver : Receiver UInt8} {s : MouseTest}

/-- An interrupt feeds the receiver with the byte that the program then holds, and tells whether
this has completed a frame. -/
theorem mouseTestInterrupt_receives (receives : Receives receiver s) (ports : PortReads) :
    Receives (feed (bit 3) 3 receiver (mouseIh ports s.mouse).byteReceived)
      (mouseTestInterrupt ports s).1 ∧
      (mouseTestInterrupt ports s).1.mouse.byteReceived = (mouseIh ports s.mouse).byteReceived ∧
      (mouseTestInterrupt ports s).1.counter = s.counter ∧
      ((mouseTestInterrupt ports s).2 = decide (receiver.frames.length <
        (feed (bit 3) 3 receiver (mouseIh ports s.mouse).byteReceived).frames.length)) := by
  obtain ⟨held, count, printed⟩ := receives
  have heldNow : heldBytes (mouseIh ports s.mouse) = receiver.held := held
  have counted : (mouseIh ports s.mouse).bytesRead ≤ 2 := count
  rw [mouseTestInterrupt]
  generalize mouseIh ports s.mouse = mouse at heldNow counted
  rcases sync_feeds counted heldNow with ⟨complete, fed⟩ | ⟨inside, fed⟩
  · rw [if_pos complete, fed]
    refine ⟨⟨rfl, Nat.zero_le 2, ?_⟩, sync_byteReceived mouse, rfl, (decide_eq_true (by simp)).symm⟩
    rw [List.map_append, List.map_singleton, heldBytes_complete complete, ← printed]
    rfl
  · rw [if_neg (by omega), fed]
    exact ⟨⟨rfl, inside, printed⟩, sync_byteReceived mouse, rfl,
      (decide_eq_false (Nat.lt_irrefl _)).symm⟩

end Interrupts

/-! ### Streams of messages -/

/-- The program before the first byte of a packet. -/
structure FreshMouse (s : MouseTest) : Prop where
  empty : s.mouse.bytesRead = 0
  counter : s.counter = 0
  printed : s.printed = []

/-- The program has received what it has heard. -/
structure HearsMouse (bytes : List UInt8) (byte : UInt8) (s : MouseTest) : Prop where
  receives : Receives (received bytes) s
  byte : s.mouse.byteReceived = bytes.getLastD byte

theorem received_concat (bytes : List UInt8) (byte : UInt8) :
    received (bytes ++ [byte]) = feed (bit 3) 3 (received bytes) byte := by
  rw [received, List.foldl_append]
  rfl

theorem feed_grows (receiver : Receiver UInt8) (byte : UInt8) :
    receiver.frames <+: (feed (bit 3) 3 receiver byte).frames ∧
      (feed (bit 3) 3 receiver byte).frames.length ≤ receiver.frames.length + 1 := by
  rw [feed]
  split_ifs
  · exact ⟨List.prefix_refl _, Nat.le_succ _⟩
  · exact ⟨List.prefix_append _ _, by simp⟩
  · exact ⟨List.prefix_refl _, Nat.le_succ _⟩

section Streams

variable {inputs : ℕ → Message} {byte : UInt8} {n : ℕ}

/-- A message brings at most one frame. -/
theorem received_succ (n : ℕ) :
    (received (heard mouseRead inputs byte n)).frames <+:
        (received (heard mouseRead inputs byte (n + 1))).frames ∧
      (received (heard mouseRead inputs byte (n + 1))).frames.length ≤
        (received (heard mouseRead inputs byte n)).frames.length + 1 := by
  rw [heard]
  cases (inputs n).device with
  | none =>
      rw [Option.toList_none, List.map_nil, List.append_nil]
      exact ⟨List.prefix_refl _, Nat.le_succ _⟩
  | some ports =>
      rw [Option.toList_some, List.map_singleton, received_concat]
      exact feed_grows _ _

theorem received_grows {m : ℕ} (before : n ≤ m) :
    (received (heard mouseRead inputs byte n)).frames <+:
      (received (heard mouseRead inputs byte m)).frames := by
  induction before with
  | refl => exact List.prefix_refl _
  | step _ inductionHypothesis => exact inductionHypothesis.trans (received_succ _).1

/-- What an interrupt of the mouse does to a program that has received what it has heard. -/
theorem interrupt_hears {s : MouseTest} {ports : PortReads} (device : (inputs n).device = some ports)
    (hears : HearsMouse (heard mouseRead inputs byte n) byte s) :
    HearsMouse (heard mouseRead inputs byte (n + 1)) byte (mouseTestInterrupt ports s).1 ∧
      (mouseTestInterrupt ports s).1.counter = s.counter ∧
      ((mouseTestInterrupt ports s).2 =
        decide ((received (heard mouseRead inputs byte n)).frames.length <
          (received (heard mouseRead inputs byte (n + 1))).frames.length)) := by
  obtain ⟨receives, last⟩ := hears
  obtain ⟨receivesNext, kept, still, complete⟩ := mouseTestInterrupt_receives receives ports
  have fed : heard mouseRead inputs byte (n + 1) =
      heard mouseRead inputs byte n ++ [(mouseIh ports s.mouse).byteReceived] := by
    rw [heard, device, Option.toList_some, List.map_singleton, ← last]
    rfl
  rw [← received_concat, ← fed] at receivesNext complete
  refine ⟨⟨receivesNext, kept.trans ?_⟩, still, complete⟩
  rw [fed, List.getLastD_concat]

theorem fresh_hears {s : MouseTest} (fresh : FreshMouse s) : HearsMouse [] s.mouse.byteReceived s := by
  obtain ⟨empty, -, printed⟩ := fresh
  refine ⟨⟨?_, by omega, printed⟩, rfl⟩
  rw [heldBytes, empty]
  rfl

/-! ### `mouse_test_packet` -/

theorem mousePacketStep_hears {s : MouseTest}
    (hears : HearsMouse (heard mouseRead inputs byte n) byte s) :
    HearsMouse (heard mouseRead inputs byte (n + 1)) byte (mousePacketStep (inputs n) s) := by
  rw [mousePacketStep]
  cases device : (inputs n).device with
  | none =>
      rw [heard, device, Option.toList_none, List.map_nil, List.append_nil]
      exact hears
  | some ports => exact (interrupt_hears device hears).1

theorem packets_heard {start : MouseTest} (fresh : FreshMouse start) :
    HearsMouse (heard mouseRead inputs start.mouse.byteReceived n) start.mouse.byteReceived
      (While.stateAt mousePacketStep inputs start n) := by
  induction n with
  | zero => exact fresh_hears fresh
  | succ n inductionHypothesis => exact mousePacketStep_hears inductionHypothesis

end Streams

theorem received_transmissions (transmissions : List MouseTransmission) :
    (received (transmissions.flatMap Transmission.bytes)).frames =
      transmissions.map Transmission.frame := by
  rw [received, feed_transmissions]
  rfl

/-- `mouse_test_packet` has ended after so many messages if and only if it has received as many
packets as it was asked for, and has printed the first so many.  The packets received are those
sent, whatever bytes that begin no packet stand before each of them. -/
theorem packet_test_prints_first {opening : List Int} (closing : List Int)
    (opened : opening.any (· != 0) = false) (cnt : UInt32) (inputs : ℕ → Message) {start : MouseTest}
    (fresh : FreshMouse start) (m : ℕ) :
    ((∃ fuel s n, mouseTestPacket opening closing cnt inputs fuel start =
        some (cleanupResult closing, s, n) ∧ n ≤ m) ↔
      cnt.toNat ≤ (received (heard mouseRead inputs start.mouse.byteReceived m)).frames.length) ∧
    (∀ fuel value s n, mouseTestPacket opening closing cnt inputs fuel start = some (value, s, n) →
      n ≤ m → value = cleanupResult closing ∧
        s.printed = ((received (heard mouseRead inputs start.mouse.byteReceived m)).frames.take
          cnt.toNat).map decodeFrame) ∧
    ∀ transmissions : List MouseTransmission,
      heard mouseRead inputs start.mouse.byteReceived m = transmissions.flatMap Transmission.bytes →
        (received (heard mouseRead inputs start.mouse.byteReceived m)).frames =
          transmissions.map Transmission.frame := by
  let bytes := heard mouseRead inputs start.mouse.byteReceived
  let condition : MouseTest → Bool := fun s => decide (s.printed.length < cnt.toNat)
  let state := While.stateAt mousePacketStep inputs start
  have printed : ∀ n, (state n).printed = (received (bytes n)).frames.map decodeFrame :=
    fun n => (packets_heard fresh).receives.printed
  have count : ∀ n, condition (state n) = false ↔ cnt.toNat ≤ (received (bytes n)).frames.length := by
    intro n
    rw [decide_eq_false_iff_not, Nat.not_lt, printed, List.length_map]
  refine ⟨?_, ?_, ?_⟩
  · have reached : (∃ i ≤ m, condition (state i) = false) ↔
        cnt.toNat ≤ (received (bytes m)).frames.length := by
      constructor
      · rintro ⟨i, early, stopped⟩
        exact ((count i).mp stopped).trans (received_grows early).length_le
      · exact fun enough => ⟨m, Nat.le_refl m, (count m).mpr enough⟩
    exact (testProgram_ends_iff closing opened m).trans reached
  · intro fuel value s n returned early
    obtain ⟨same, reached, stopped, goes⟩ := testProgram_returned opened returned
    have enough := (count n).mp stopped
    -- a message brings one packet at most, so the loop does not overshoot
    have exactly : (received (bytes n)).frames.length = cnt.toNat := by
      cases n with
      | zero => exact Nat.le_antisymm (Nat.zero_le _) enough
      | succ n =>
          have before : ¬ cnt.toNat ≤ (received (bytes n)).frames.length := by
            intro already
            have going : condition (state n) = true := goes n (Nat.lt_succ_self n)
            rw [(count n).mpr already] at going
            cases going
          have grown : (received (bytes (n + 1))).frames.length ≤
              (received (bytes n)).frames.length + 1 := (received_succ n).2
          omega
    obtain ⟨later, whole⟩ : (received (bytes n)).frames <+: (received (bytes m)).frames :=
      received_grows early
    have taken : (received (bytes m)).frames.take cnt.toNat = (received (bytes n)).frames := by
      rw [← whole, ← exactly, List.take_left]
    refine ⟨same, ?_⟩
    rw [reached, printed, ← taken]
  · intro transmissions delivered
    rw [delivered]
    exact received_transmissions transmissions

/-- `mouse_test_packet` and `mouse_test_async` before the first byte. -/
def freshMouseTest : MouseTest := { mouse := default, counter := 0, printed := [], elapsed := 0 }

/-- The ports of a controller that gives the next of the bytes of a packet to the left and up. -/
def leftAndUpPorts (i : ℕ) : PortReads :=
  { status := some 0x21, output := some (leftAndUp.bytes.getD i 0) }

/-- An interrupt of the mouse for each byte. -/
def leftAndUpMessages (i : ℕ) : Message := { device := some (leftAndUpPorts i), timer := false }

theorem left_and_up_is_printed : ∃ fuel s n,
    mouseTestPacket [0, 0] [0, 0] 1 leftAndUpMessages fuel freshMouseTest = some (0, s, n) ∧ n ≤ 4 ∧
      s.printed = [decodePacket (0x19, 0xFB, 0x06)] := by
  have opened : ([0, 0] : List Int).any (· != 0) = false := rfl
  have fresh : FreshMouse freshMouseTest := ⟨rfl, rfl, rfl⟩
  obtain ⟨ends, prints, packets⟩ := packet_test_prints_first [0, 0] opened 1 leftAndUpMessages fresh 4
  rw [packets [leftAndUp] (by decide)] at ends prints
  obtain ⟨fuel, s, n, returned, early⟩ := ends.mpr (by decide)
  exact ⟨fuel, s, n, returned, early, (prints fuel 0 s n returned early).2⟩

/-! ### `mouse_test_async` -/

/-- What a message is to the idle counter: a packet starts it again, and after that a tick counts. -/
def packetTurns (inputs : ℕ → Message) (byte : UInt8) (i : ℕ) : Turn where
  start := decide ((received (heard mouseRead inputs byte i)).frames.length <
    (received (heard mouseRead inputs byte (i + 1))).frames.length)
  tick := (inputs i).timer

/-- The program counts the ticks since the last packet. -/
structure Awaits (inputs : ℕ → Message) (byte : UInt8) (n : ℕ) (s : MouseTest) : Prop where
  hears : HearsMouse (heard mouseRead inputs byte n) byte s
  counter : s.counter = elapsed (eventsOf (packetTurns inputs byte) n)

section Async

variable {inputs : ℕ → Message} {byte : UInt8} {n : ℕ}

/-- A tick of the timer only counts. -/
theorem tick_hears {s : MouseTest} {bytes : List UInt8} (hears : HearsMouse bytes byte s)
    (timer : Bool) :
    HearsMouse bytes byte (if timer then s.tick else s) ∧
      (if timer then s.tick else s).counter = s.counter + if timer then 1 else 0 := by
  obtain ⟨⟨held, count, printed⟩, last⟩ := hears
  cases timer with
  | true => exact ⟨⟨⟨held, count, printed⟩, last⟩, rfl⟩
  | false => exact ⟨⟨⟨held, count, printed⟩, last⟩, rfl⟩

theorem mouseAsyncStep_awaits {s : MouseTest} (awaits : Awaits inputs byte n s) :
    Awaits inputs byte (n + 1) (mouseAsyncStep (inputs n) s) := by
  obtain ⟨hears, counter⟩ := awaits
  have counted := elapsed_turn (eventsOf (packetTurns inputs byte) n) (packetTurns inputs byte n)
  rw [← eventsOf_succ, ← counter, packetTurns] at counted
  have moved : ∀ next : MouseTest, HearsMouse (heard mouseRead inputs byte (n + 1)) byte next →
      next.counter = (if decide ((received (heard mouseRead inputs byte n)).frames.length <
        (received (heard mouseRead inputs byte (n + 1))).frames.length) = true then 0 else s.counter) →
      Awaits inputs byte (n + 1) (if (inputs n).timer then next.tick else next) := by
    intro next hearsNext started
    obtain ⟨kept, ticked⟩ := tick_hears hearsNext (inputs n).timer
    exact ⟨kept, by rw [ticked, started, counted]⟩
  rw [mouseAsyncStep]
  cases device : (inputs n).device with
  | none =>
      have same : heard mouseRead inputs byte (n + 1) = heard mouseRead inputs byte n := by
        rw [heard, device, Option.toList_none, List.map_nil, List.append_nil]
      refine moved s (same ▸ hears) ?_
      rw [same, decide_eq_false (Nat.lt_irrefl _), if_neg Bool.false_ne_true]
  | some ports =>
      obtain ⟨hearsNext, still, complete⟩ := interrupt_hears device hears
      refine moved _ ?_ ?_
      · dsimp only
        split_ifs
        · exact ⟨⟨hearsNext.receives.held, hearsNext.receives.count, hearsNext.receives.printed⟩,
            hearsNext.byte⟩
        · exact hearsNext
      · rw [← complete]
        dsimp only
        split_ifs
        · rfl
        · exact still

theorem async_awaits {start : MouseTest} (fresh : FreshMouse start) :
    Awaits inputs start.mouse.byteReceived n (While.stateAt mouseAsyncStep inputs start n) := by
  induction n with
  | zero => exact ⟨fresh_hears fresh, fresh.counter⟩
  | succ n inductionHypothesis => exact mouseAsyncStep_awaits inductionHypothesis

end Async

/-- `mouse_test_async` has ended after so many messages if and only if 60 ticks for each second of
`idle_time` have come in a row without a packet in between; it has printed the packets received. -/
theorem async_test_ends_iff {opening : List Int} (closing : List Int)
    (opened : opening.any (· != 0) = false)
    (idleTime : UInt8) (inputs : ℕ → Message) {start : MouseTest} (fresh : FreshMouse start) (m : ℕ) :
    ((∃ fuel s n, mouseTestAsync opening closing idleTime inputs fuel start =
        some (cleanupResult closing, s, n) ∧ n ≤ m) ↔
      List.replicate (idleTime.toNat * 60) .tick <:+:
        eventsOf (packetTurns inputs start.mouse.byteReceived) m) ∧
    ∀ fuel value s n, mouseTestAsync opening closing idleTime inputs fuel start = some (value, s, n) →
      value = cleanupResult closing ∧
        s.printed =
          (received (heard mouseRead inputs start.mouse.byteReceived n)).frames.map decodeFrame := by
  let condition : MouseTest → Bool := fun s => decide (s.counter < idleTime.toNat * 60)
  let state := While.stateAt mouseAsyncStep inputs start
  have awaits : ∀ n, Awaits inputs start.mouse.byteReceived n (state n) := fun n => async_awaits fresh
  have stops : ∀ i, condition (state i) = false ↔
      idleTime.toNat * 60 ≤ elapsed (eventsOf (packetTurns inputs start.mouse.byteReceived) i) := by
    intro i
    rw [← (awaits i).counter, decide_eq_false_iff_not, Nat.not_lt]
  constructor
  · rw [← timeout_iff]
    refine (testProgram_ends_iff closing opened m).trans ?_
    exact exists_congr fun i => and_congr_right fun _ => stops i
  · intro fuel value s n returned
    obtain ⟨same, reached, -, -⟩ := testProgram_returned opened returned
    rw [reached]
    exact ⟨same, (awaits n).hears.receives.printed⟩

/-- Half a second of ticks, a packet, and ticks from then on. -/
def packetThenQuiet (i : ℕ) : Message where
  device := if 30 ≤ i ∧ i < 34 then some (leftAndUpPorts (i - 30)) else none
  timer := decide (i < 30 ∨ 34 ≤ i)

/-- The packet has the test wait sixty ticks again. -/
theorem quiet_second_ends :
    (∃ fuel s n, mouseTestAsync [0, 0, 0] [0, 0, 0] 1 packetThenQuiet fuel freshMouseTest =
      some (0, s, n) ∧ n ≤ 94) ∧
    ¬ ∃ fuel s n, mouseTestAsync [0, 0, 0] [0, 0, 0] 1 packetThenQuiet fuel freshMouseTest =
      some (0, s, n) ∧ n ≤ 93 := by
  have opened : ([0, 0, 0] : List Int).any (· != 0) = false := rfl
  have fresh : FreshMouse freshMouseTest := ⟨rfl, rfl, rfl⟩
  have ends := fun m => (async_test_ends_iff [0, 0, 0] opened 1 packetThenQuiet fresh m).1
  refine ⟨(ends 94).mpr ?_, fun early => ?_⟩
  · decide +kernel
  · have never : ¬ List.replicate (1 * 60) .tick <:+: eventsOf (packetTurns packetThenQuiet 0) 93 := by
      decide +kernel
    exact never ((ends 93).mp early)

/-! ### `timer_test_int` -/

/-- The interrupts of the timer among the first messages. -/
def timerTicks (inputs : ℕ → Message) (n : ℕ) : ℕ := (List.range n).countP fun i => (inputs i).timer

/-- The seconds that end within so many ticks after the counter. -/
def secondsFrom (counter ticks : ℕ) : ℕ := (counter % 60 + ticks) / 60

/-- The program has seen the ticks. -/
structure Ticked (ticks : ℕ) (start s : TimerTest) : Prop where
  counter : s.counter = start.counter + ticks
  elapsed : s.elapsed = start.elapsed + secondsFrom start.counter ticks
  time : (s.time.toNat + secondsFrom start.counter ticks) % 256 = start.time.toNat

theorem secondsFrom_succ (counter ticks : ℕ) :
    secondsFrom counter (ticks + 1) =
      secondsFrom counter ticks + if (counter + ticks + 1) % 60 = 0 then 1 else 0 := by
  rw [secondsFrom, secondsFrom]
  split_ifs with full
  · omega
  · omega

section Seconds

variable {inputs : ℕ → Message} {start s : TimerTest} {ticks n : ℕ}

theorem timerTicks_succ (n : ℕ) :
    timerTicks inputs (n + 1) = timerTicks inputs n + if (inputs n).timer then 1 else 0 := by
  rw [timerTicks, List.range_succ, List.countP_append, List.countP_singleton]
  rfl

theorem tick_ticked {message : Message} (ticked : Ticked ticks start s) :
    Ticked (ticks + if message.timer then 1 else 0) start (timerTestStep message s) := by
  obtain ⟨counter, elapsed, time⟩ := ticked
  rw [timerTestStep]
  cases message.timer with
  | false => exact ⟨counter, elapsed, time⟩
  | true =>
      have counted := secondsFrom_succ start.counter ticks
      rw [← counter] at counted
      rw [if_pos rfl, if_pos rfl]
      by_cases full : (s.counter + 1) % 60 = 0
      · rw [if_pos full] at counted
        dsimp only
        rw [if_pos full]
        refine ⟨by rw [counter, Nat.add_assoc], by rw [elapsed, counted, Nat.add_assoc], ?_⟩
        have less : (s.time - 1).toNat = (s.time.toNat + 255) % 256 := by
          rw [UInt8.toNat_sub]
          exact congrArg (· % 256) (Nat.add_comm _ _)
        rw [less, counted]
        omega
      · rw [if_neg full, Nat.add_zero] at counted
        dsimp only
        rw [if_neg full, counter, Nat.add_assoc]
        refine ⟨rfl, ?_, ?_⟩
        · rw [counted]
          exact elapsed
        · rw [counted]
          exact time

theorem timer_ticked : Ticked (timerTicks inputs n) start
    (While.stateAt timerTestStep inputs start n) := by
  induction n with
  | zero =>
      have short := Nat.mod_lt start.counter (by decide : 0 < 60)
      have small := start.time.toNat_lt
      have none : secondsFrom start.counter (timerTicks inputs 0) = 0 := Nat.div_eq_of_lt short
      exact ⟨rfl, by rw [none]; rfl, by rw [none]; exact Nat.mod_eq_of_lt small⟩
  | succ n inductionHypothesis =>
      rw [timerTicks_succ]
      exact tick_ticked inductionHypothesis

theorem seconds_grow (n : ℕ) :
    secondsFrom start.counter (timerTicks inputs (n + 1)) ≤
      secondsFrom start.counter (timerTicks inputs n) + 1 := by
  rw [timerTicks_succ]
  cases (inputs n).timer with
  | false => exact Nat.le_succ _
  | true =>
      rw [if_pos rfl, secondsFrom_succ]
      split_ifs
      · exact Nat.le_refl _
      · exact Nat.le_succ _

theorem seconds_mono {m : ℕ} (before : n ≤ m) :
    secondsFrom start.counter (timerTicks inputs n) ≤
      secondsFrom start.counter (timerTicks inputs m) := by
  have more : timerTicks inputs n ≤ timerTicks inputs m := by
    induction before with
    | refl => exact Nat.le_refl _
    | step _ inductionHypothesis =>
        rw [timerTicks_succ]
        exact inductionHypothesis.trans (Nat.le_add_right _ _)
  exact Nat.div_le_div_right (Nat.add_le_add_left more _)

end Seconds

/-- `timer_test_int` has ended after so many messages if and only if `time` seconds have ended by
then, where the first second is what the counter has left of it; and it has printed a line for each
of these seconds. -/
theorem timer_test_counts_seconds {opening : List Int} (closing : List Int)
    (opened : opening.any (· != 0) = false) (inputs : ℕ → Message) (start : TimerTest) (m : ℕ) :
    ((∃ fuel s n, timerTestInt opening closing inputs fuel start =
      some (cleanupResult closing, s, n) ∧ n ≤ m) ↔
      60 * start.time.toNat ≤ start.counter % 60 + timerTicks inputs m) ∧
    ∀ fuel value s n, timerTestInt opening closing inputs fuel start = some (value, s, n) →
      value = cleanupResult closing ∧ s.counter = start.counter + timerTicks inputs n ∧
        s.elapsed = start.elapsed + start.time.toNat := by
  let condition : TimerTest → Bool := fun s => s.time > 0
  let state := While.stateAt timerTestStep inputs start
  let seconds := fun n => secondsFrom start.counter (timerTicks inputs n)
  have ticked : ∀ n, Ticked (timerTicks inputs n) start (state n) := fun n => timer_ticked
  have stops : ∀ i, condition (state i) = false ↔ seconds i % 256 = start.time.toNat := by
    intro i
    have time : ((state i).time.toNat + seconds i) % 256 = start.time.toNat := (ticked i).time
    have small := (state i).time.toNat_lt
    rw [decide_eq_false_iff_not, gt_iff_lt, UInt8.lt_iff_toNat_lt, UInt8.toNat_zero]
    omega
  have first : seconds 0 = 0 := Nat.div_eq_of_lt (Nat.mod_lt _ (by decide))
  have grows : ∀ i, seconds (i + 1) ≤ seconds i + 1 := fun i => seconds_grow i
  have small := start.time.toNat_lt
  constructor
  · have counted : 60 * start.time.toNat ≤ start.counter % 60 + timerTicks inputs m ↔
        start.time.toNat ≤ seconds m := by
      rw [Nat.mul_comm]
      exact (Nat.le_div_iff_mul_le (by decide : 0 < 60)).symm
    rw [counted]
    refine (testProgram_ends_iff closing opened m).trans ⟨?_, ?_⟩
    · rintro ⟨i, early, stopped⟩
      have met := (stops i).mp stopped
      rw [← met]
      exact (Nat.mod_le _ _).trans (seconds_mono early)
    · intro enough
      obtain ⟨i, early, met⟩ := exists_count_eq grows (first.trans_le (Nat.zero_le _)) enough
      refine ⟨i, early, (stops i).mpr ?_⟩
      rw [met]
      exact Nat.mod_eq_of_lt small
  · intro fuel value s n returned
    obtain ⟨same, reached, stopped, goes⟩ := testProgram_returned opened returned
    have met := (stops n).mp stopped
    -- the time has been met on the way, and the loop would have ended there
    have exactly : seconds n = start.time.toNat := by
      have enough : start.time.toNat ≤ seconds n := by
        rw [← met]
        exact Nat.mod_le _ _
      obtain ⟨i, early, reachedThere⟩ := exists_count_eq grows (first.trans_le (Nat.zero_le _)) enough
      rcases Nat.eq_or_lt_of_le early with rfl | before
      · exact reachedThere
      · have ended : condition (state i) = false := by
          rw [stops, reachedThere]
          exact Nat.mod_eq_of_lt small
        have going : condition (state i) = true := goes i before
        rw [ended] at going
        cases going
    obtain ⟨counter, elapsed, -⟩ := ticked n
    rw [reached]
    refine ⟨same, counter, elapsed.trans ?_⟩
    rw [← exactly]

/-- Nothing happens but ticks. -/
def onlyTicks (_ : ℕ) : Message := { device := none, timer := true }

/-- A second that has begun fifty ticks ago. -/
theorem one_second_passes : ∃ fuel s n,
    timerTestInt [0] [0] onlyTicks fuel { counter := 50, time := 1, elapsed := 0 } =
      some (0, s, n) ∧ n ≤ 10 ∧ s.elapsed = 1 := by
  have opened : ([0] : List Int).any (· != 0) = false := rfl
  obtain ⟨ends, counts⟩ :=
    timer_test_counts_seconds [0] opened onlyTicks { counter := 50, time := 1, elapsed := 0 } 10
  obtain ⟨fuel, s, n, returned, early⟩ := ends.mpr (by decide)
  exact ⟨fuel, s, n, returned, early, (counts fuel 0 s n returned).2.2⟩

end TypingTutor
