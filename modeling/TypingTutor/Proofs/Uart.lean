/-
Module: TypingTutor.Proofs.Uart
Layer: Proofs
Purpose: What the start of the serial test leaves in the UART, whichever of its calls fail: what it
  prints, whether it has enabled the interrupts, and what has become of the bit rate.
Trusted boundary: none
Main exports: UartDevice.divisor, Describes, ConfigurationShown, UartStarted, uart_start_sets_up
-/
import TypingTutor.Core.Uart
import TypingTutor.Proofs.TimerFrequency

namespace TypingTutor

open Device

/-! ### The configuration -/

/-- The divisor of the bit rate. -/
def UartDevice.divisor (device : UartDevice) : ℕ := device.dlm.toNat * 256 + device.dll.toNat

/-- The parity that a line control register stands for: enabled, even, and fixed, one bit each. -/
def lineParity (lcr : UInt8) : Parity :=
  if bit 3 lcr then
    if bit 5 lcr then if bit 4 lcr then .always0 else .always1
    else if bit 4 lcr then .even else .odd
  else .no

/-- The line of the configuration is that of the device. -/
structure DescribesLine (device : UartDevice) (config : UartConfig) : Prop where
  bits : config.noBitsPerChar.toNat = 5 + device.lcr.toNat % 4
  stops : config.noStopBits = if bit 2 device.lcr then 2 else 1
  parity : config.parity = lineParity device.lcr

/-- The configuration is that of the device. -/
structure Describes (device : UartDevice) (config : UartConfig) : Prop where
  line : DescribesLine device config
  rate : config.bitrate.toNat = 115200 / device.divisor

/-- What is shown of the configuration after a failure is right as far as it goes. -/
def DescribesPart (device : UartDevice) (config : UartConfig) : Prop :=
  config = zeroUartConfig ∨
    DescribesLine device config ∧ (config.bitrate = 0 ∨ config.bitrate.toNat = 115200 / device.divisor)

theorem line_fields : ∀ lcr : UInt8, ((lcr &&& 0x3) + 5).toNat = 5 + lcr.toNat % 4 ∧
    (((lcr >>> 2) &&& 0x1) + 1 = if bit 2 lcr then 2 else 1) ∧
      parityField lcr .no = lineParity lcr := by
  apply forall_byte
  decide +kernel

theorem withLine_describes (device : UartDevice) :
    DescribesLine device (zeroUartConfig.withLine device.lcr) := by
  obtain ⟨bits, stops, parity⟩ := line_fields device.lcr
  exact ⟨bits, stops, parity⟩

theorem toNat_bitrateDivisor (msb lsb : UInt8) :
    (bitrateDivisor msb lsb).toNat = msb.toNat * 256 + lsb.toNat := by
  have high := msb.toNat_lt
  have low := lsb.toNat_lt
  have shifted : (msb.toUInt32 <<< 8).toNat = msb.toNat <<< 8 := by
    rw [UInt32.toNat_shiftLeft, UInt8.toNat_toUInt32]
    have amount : (8 : UInt32).toNat % 32 = 8 := rfl
    rw [amount, Nat.shiftLeft_eq, Nat.mod_eq_of_lt (by omega)]
  rw [bitrateDivisor, UInt32.toNat_or, shifted, UInt8.toNat_toUInt32,
    ← Nat.shiftLeft_add_eq_or_of_lt low, Nat.shiftLeft_eq]

theorem divisor_eq_zero_iff (device : UartDevice) :
    bitrateDivisor device.dlm device.dll = 0 ↔ device.divisor = 0 := by
  rw [← UInt32.toNat_inj, toNat_bitrateDivisor]
  rfl

theorem rate_describes (device : UartDevice) :
    ((115200 / bitrateDivisor device.dlm device.dll).toUInt64).toNat = 115200 / device.divisor := by
  rw [UInt32.toNat_toUInt64, UInt32.toNat_div, toNat_bitrateDivisor]
  rfl

theorem lcr_bits : ∀ lcr : UInt8, bit 7 (lcr ||| lcrDlab) = true ∧
    (lcr ||| lcrDlab) &&& ~~~lcrDlab = lcr &&& 0x7F ∧ bit 7 (lcr &&& 0x7F) = false := by
  apply forall_byte
  decide +kernel

/-! ### Registers -/

section Registers

variable {device : UartDevice} {value : UInt8}

theorem reads_lcr (read : device.Reads 3 value) : value = device.lcr := by
  rw [UartDevice.Reads, if_neg (by decide), if_neg (by decide), if_neg (by decide), if_pos rfl] at read
  exact read

theorem reads_latch (opened : device.latched = true) :
    (device.Reads 0 value → value = device.dll) ∧ (device.Reads 1 value → value = device.dlm) := by
  constructor
  · intro read
    rw [UartDevice.Reads, if_pos rfl] at read
    exact read opened
  · intro read
    rw [UartDevice.Reads, if_neg (by decide), if_pos rfl, if_pos opened] at read
    exact read

theorem reads_ier (closed : device.latched = false) (read : device.Reads 1 value) :
    value = device.ier := by
  rw [UartDevice.Reads, if_neg (by decide), if_pos rfl, closed, if_neg Bool.false_ne_true] at read
  exact read

theorem reads_iir (quiet : device.ier &&& 0x0F = 0) (read : device.Reads 2 value) :
    value = if device.fifo then 0xC1 else 0x01 := by
  rw [UartDevice.Reads, if_neg (by decide), if_neg (by decide), if_pos rfl] at read
  obtain ⟨high, low⟩ := read
  have halves : ∀ value : UInt8, (value &&& 0xF0) ||| (value &&& 0x0F) = value := by
    apply forall_byte
    decide +kernel
  rw [← halves value, high, low quiet]
  cases device.fifo with
  | true => rfl
  | false => rfl

theorem write_lcr : device.write 3 value = { device with lcr := value } := by
  rw [UartDevice.write, if_neg (by decide), if_neg (by decide), if_neg (by decide), if_pos rfl]

theorem write_fcr : device.write 2 value =
    if bit 0 value then { device with fifo := true, trigger := value >>> 6 }
    else { device with fifo := false } := by
  rw [UartDevice.write, if_neg (by decide), if_neg (by decide), if_pos rfl]

theorem write_ier : device.write 1 value =
    if device.latched then { device with dlm := value } else { device with ier := value &&& 0x0F } := by
  rw [UartDevice.write, if_neg (by decide), if_pos rfl]

end Registers

/-! ### Calls -/

section Calls

variable {fails : UartRequest → Prop}

theorem uartInb_spec (device : UartDevice) (offset : UInt8) :
    Ensures (uartMachine fails) (· = device) (uartInb offset) fun answer after =>
      after = device ∧ (answer = none → ∃ request, fails request) ∧
        ∀ value, answer = some value → device.Reads offset value := by
  apply ensures_request
  rintro _ answer after rfl ⟨rfl, failed, reads⟩
  exact ⟨rfl, fun nothing => ⟨_, failed nothing⟩, reads⟩

theorem uartOutb_spec (device : UartDevice) (offset value : UInt8) :
    Ensures (uartMachine fails) (· = device) (uartOutb offset value) fun ok after =>
      (ok = false → ∃ request, fails request) ∧
        after = if ok then device.write offset value else device := by
  apply ensures_request
  rintro _ ok after rfl ⟨failed, written⟩
  exact ⟨fun not => ⟨_, failed not⟩, written⟩

/-- A register that is changed, or a call that has failed. -/
theorem changeRegister_spec (device : UartDevice) (offset : UInt8) (change : UInt8 → UInt8) :
    Ensures (uartMachine fails) (· = device) (changeRegister offset change) fun _ after =>
      (after = device ∧ ∃ request, fails request) ∨
        ∃ value, device.Reads offset value ∧ after = device.write offset (change value) := by
  refine ensures_bind (uartInb_spec device offset) fun answer => ensures_each ?_
  rintro _ ⟨rfl, failed, reads⟩
  cases answer with
  | none => exact ensures_pure fun after same => .inl ⟨same, failed rfl⟩
  | some value =>
      refine ensures_bind (uartOutb_spec _ offset (change value)) fun ok => ?_
      cases ok with
      | false =>
          apply ensures_pure
          rintro after ⟨failed, written⟩
          exact .inl ⟨written, failed rfl⟩
      | true =>
          apply ensures_pure
          rintro after ⟨-, written⟩
          exact .inr ⟨value, reads value rfl, written⟩

/-! ### Reading the configuration -/

/-- What `read_uart_config` returns, and the line control register afterwards. -/
inductive ConfigurationShown (fails : UartRequest → Prop) (before : UartDevice) :
    Except Undefined (Int × UartConfig) → UartDevice → Prop where
  | crashed (zero : before.divisor = 0) :
      ConfigurationShown fails before (.error .division) { before with lcr := before.lcr ||| lcrDlab }
  | failed {lcr : UInt8} {config : UartConfig} (line : lcr = before.lcr ∨ lcr = before.lcr ||| lcrDlab)
      (partly : DescribesPart before config) (failure : ∃ request, fails request) :
      ConfigurationShown fails before (.ok (1, config)) { before with lcr := lcr }
  | shown {config : UartConfig} (nonzero : before.divisor ≠ 0) (describes : Describes before config) :
      ConfigurationShown fails before (.ok (0, config)) { before with lcr := before.lcr &&& 0x7F }

theorem readUartConfig_spec (before : UartDevice) :
    Ensures (uartMachine fails) (· = before) (readUartConfig zeroUartConfig)
      (ConfigurationShown fails before) := by
  obtain ⟨opened, restored, -⟩ := lcr_bits before.lcr
  refine ensures_bind (uartInb_spec before 3) fun answer => ensures_each ?_
  intro state asked
  obtain rfl : before = state := asked.1.symm
  cases answer with
  | none =>
      apply ensures_pure
      rintro after rfl
      exact .failed (.inl rfl) (.inl rfl) (asked.2.1 rfl)
  | some config =>
      obtain rfl := reads_lcr (asked.2.2 config rfl)
      have line := withLine_describes before
      have partly : DescribesPart before (zeroUartConfig.withLine before.lcr) := .inr ⟨line, .inl rfl⟩
      let latch : UartDevice := { before with lcr := before.lcr ||| lcrDlab }
      have latched : latch.latched = true := opened
      refine ensures_bind (uartOutb_spec before 3 _) fun ok => ensures_each ?_
      rintro state ⟨unwritten, rfl⟩
      cases ok with
      | false =>
          apply ensures_pure
          rintro after rfl
          exact .failed (.inl rfl) partly (unwritten rfl)
      | true =>
          rw [if_pos rfl, write_lcr]
          refine ensures_bind (uartInb_spec latch 0) fun answer => ensures_each ?_
          rintro state ⟨rfl, unread, readsLow⟩
          cases answer with
          | none =>
              apply ensures_pure
              rintro after rfl
              exact .failed (.inr rfl) partly (unread rfl)
          | some lsb =>
              obtain rfl := (reads_latch latched).1 (readsLow lsb rfl)
              refine ensures_bind (uartInb_spec latch 1) fun answer => ensures_each ?_
              rintro state ⟨rfl, unread, readsHigh⟩
              cases answer with
              | none =>
                  apply ensures_pure
                  rintro after rfl
                  exact .failed (.inr rfl) partly (unread rfl)
              | some msb =>
                  obtain rfl := (reads_latch latched).2 (readsHigh msb rfl)
                  dsimp only
                  by_cases zero : bitrateDivisor latch.dlm latch.dll = 0
                  · rw [if_pos zero]
                    apply ensures_pure
                    rintro after rfl
                    exact .crashed ((divisor_eq_zero_iff before).mp zero)
                  · rw [if_neg zero]
                    refine ensures_bind (uartOutb_spec latch 3 _) fun ok => ensures_each ?_
                    rintro state ⟨unwritten, rfl⟩
                    cases ok with
                    | false =>
                        apply ensures_pure
                        rintro after rfl
                        exact .failed (.inr rfl) (.inr ⟨⟨line.bits, line.stops, line.parity⟩,
                          .inr (rate_describes before)⟩) (unwritten rfl)
                    | true =>
                        apply ensures_pure
                        rintro after rfl
                        rw [if_pos rfl, write_lcr, restored]
                        exact .shown (fun none => zero ((divisor_eq_zero_iff before).mpr none))
                          ⟨⟨line.bits, line.stops, line.parity⟩, rate_describes before⟩

/-! ### The start -/

/-- The UART after the start of the test. -/
structure UartStarted (fails : UartRequest → Prop) (before : UartDevice)
    (result : Except Undefined UartConfig) (after : UartDevice) : Prop where
  /-- The low byte of the divisor stays, and the high byte too unless the latch is left open. -/
  rate : after.dll = before.dll ∧ (after.latched = false → after.dlm = before.dlm)
  /-- Interrupts are not enabled while the latch is open. -/
  silent : after.latched = true → after.ier = before.ier
  /-- Only a failed call or a crash leaves the latch open. -/
  opened : after.latched = true → result = .error .division ∨ ∃ request, fails request
  /-- What it shows is right, but may be incomplete. -/
  shows : ∀ config, result = .ok config → DescribesPart before config
  /-- Only a divisor of zero crashes it. -/
  crashed : ∀ undefined, result = .error undefined → undefined = .division ∧ before.divisor = 0
  /-- A divisor of zero crashes it where no call fails. -/
  crashes : (∀ request, ¬ fails request) → before.divisor = 0 → result = .error .division
  /-- Where no call fails and no interrupts were enabled, any other divisor lets it work; but the
  trigger level is 14 bytes, not 8. -/
  works : (∀ request, ¬ fails request) → before.ier &&& 0x0F = 0 → before.divisor ≠ 0 →
    ∃ config, result = .ok config ∧ Describes before config ∧
      after = { before with
        lcr := before.lcr &&& 0x7F, ier := 0x01, fifo := true, trigger := 3, subscribed := true }

/-- A change of the FIFO control only concerns the FIFOs. -/
theorem fifo_spec (device : UartDevice) (change : UInt8 → UInt8) :
    Ensures (uartMachine fails) (· = device) (changeRegister 2 change) fun _ after =>
      (∃ fifo trigger, after = { device with fifo := fifo, trigger := trigger }) ∧
        ((∀ request, ¬ fails request) → ∃ value, device.Reads 2 value ∧
          after = device.write 2 (change value)) := by
  refine (changeRegister_spec device 2 change).weaken ?_
  rintro result after (⟨rfl, request, failure⟩ | ⟨value, read, rfl⟩)
  · exact ⟨⟨after.fifo, after.trigger, rfl⟩, fun never => absurd failure (never request)⟩
  · refine ⟨?_, fun _ => ⟨value, read, rfl⟩⟩
    rw [write_fcr]
    split_ifs
    · exact ⟨_, _, rfl⟩
    · exact ⟨_, _, rfl⟩

/-- A change of the second register concerns the interrupts, or the divisor when the latch is open. -/
theorem second_spec (device : UartDevice) (change : UInt8 → UInt8) :
    Ensures (uartMachine fails) (· = device) (changeRegister 1 change) fun _ after =>
      (∃ ier dlm, after = { device with ier := ier, dlm := dlm } ∧
        (device.latched = false → dlm = device.dlm) ∧
          (device.latched = true → ier = device.ier)) ∧
        ((∀ request, ¬ fails request) → ∃ value, device.Reads 1 value ∧
          after = device.write 1 (change value)) := by
  refine (changeRegister_spec device 1 change).weaken ?_
  rintro result after (⟨rfl, request, failure⟩ | ⟨value, read, rfl⟩)
  · exact ⟨⟨after.ier, after.dlm, rfl, fun _ => rfl, fun _ => rfl⟩,
      fun never => absurd failure (never request)⟩
  · refine ⟨?_, fun _ => ⟨value, read, rfl⟩⟩
    rw [write_ier]
    cases latched : device.latched with
    | true => exact ⟨_, _, rfl, nofun, fun _ => rfl⟩
    | false => exact ⟨_, _, rfl, fun _ => rfl, nofun⟩

theorem receive_bits : ∀ ier : UInt8, ier &&& 0x0F = 0 →
    ((ier ||| 0x01) &&& ~~~0x02 &&& ~~~0x04 &&& ~~~0x08) &&& 0x0F = 0x01 := by
  apply forall_byte
  decide +kernel

section Successes

variable {device : UartDevice} {value : UInt8} (quiet : device.ier &&& 0x0F = 0)

include quiet

theorem fifo_enabled (read : device.Reads 2 value) :
    device.write 2 ((value ||| 0x01 ||| 0x80) &&& ~~~0x40) =
      { device with fifo := true, trigger := 2 } := by
  rw [reads_iir quiet read, write_fcr]
  cases device.fifo with
  | true => rfl
  | false => rfl

/-- The identification has both of its upper bits set, and so the trigger level too. -/
theorem fifo_reset (enabled : device.fifo = true) (read : device.Reads 2 value) :
    device.write 2 (value ||| (0x02 ||| 0x04)) = { device with fifo := true, trigger := 3 } := by
  rw [reads_iir quiet read, write_fcr, enabled]
  rfl

theorem receive_enabled (closed : device.latched = false) (read : device.Reads 1 value) :
    device.write 1 ((value ||| 0x01) &&& ~~~0x02 &&& ~~~0x04 &&& ~~~0x08) =
      { device with ier := 0x01 } := by
  rw [reads_ier closed read, write_ier, closed, if_neg Bool.false_ne_true, receive_bits _ quiet]

end Successes

/-- `uart_subscribe_int`; for the FIFOs it matters whether interrupts were enabled before. -/
theorem uartSubscribeInt_spec (device : UartDevice) :
    Ensures (uartMachine fails) (· = device) uartSubscribeInt fun _ after =>
      (∃ ier dlm fifo trigger subscribed, after = { device with
          ier := ier, dlm := dlm, fifo := fifo, trigger := trigger, subscribed := subscribed } ∧
        (device.latched = false → dlm = device.dlm) ∧ (device.latched = true → ier = device.ier)) ∧
      ((∀ request, ¬ fails request) → device.ier &&& 0x0F = 0 → device.latched = false →
        after = { device with ier := 0x01, fifo := true, trigger := 3, subscribed := true }) := by
  refine ensures_bind (fifo_spec device _) fun _ => ensures_each ?_
  rintro state ⟨⟨fifo, trigger, rfl⟩, enabled⟩
  refine ensures_bind (fifo_spec _ _) fun _ => ensures_each ?_
  rintro state ⟨⟨fifo', trigger', rfl⟩, reset⟩
  refine ensures_bind (second_spec _ _) fun _ => ensures_each ?_
  rintro state ⟨⟨ier, dlm, rfl, closed, opened⟩, receives⟩
  have subscribed : Ensures (uartMachine fails)
      (· = { device with fifo := fifo', trigger := trigger', ier := ier, dlm := dlm })
      (Program.request UartRequest.irqSetPolicy) fun ok after =>
        (ok = false → ∃ request, fails request) ∧ after = { device with
          fifo := fifo', trigger := trigger', ier := ier, dlm := dlm,
          subscribed := ok || device.subscribed } := by
    apply ensures_request
    rintro _ ok after rfl ⟨failed, policy⟩
    exact ⟨fun not => ⟨_, failed not⟩, policy⟩
  have worked : (∀ request, ¬ fails request) → device.ier &&& 0x0F = 0 → device.latched = false →
      fifo' = true ∧ trigger' = 3 ∧ ier = 0x01 ∧ dlm = device.dlm := by
    intro never quiet latch
    obtain ⟨value, read, wrote⟩ := enabled never
    rw [fifo_enabled quiet read] at wrote
    obtain rfl : fifo = true := congrArg UartDevice.fifo wrote
    let second : UartDevice := { device with fifo := true, trigger := trigger }
    have secondQuiet : second.ier &&& 0x0F = 0 := quiet
    obtain ⟨value, read, wroteReset⟩ := reset never
    have resets := wroteReset.trans (fifo_reset secondQuiet rfl read)
    let third : UartDevice := { device with fifo := fifo', trigger := trigger' }
    have thirdQuiet : third.ier &&& 0x0F = 0 := quiet
    have thirdClosed : third.latched = false := latch
    obtain ⟨value, readIer, wroteIer⟩ := receives never
    have enables := wroteIer.trans (receive_enabled thirdQuiet thirdClosed readIer)
    exact ⟨congrArg UartDevice.fifo resets, congrArg UartDevice.trigger resets,
      congrArg UartDevice.ier enables, closed latch⟩
  refine ensures_bind subscribed fun ok => ?_
  cases ok with
  | false =>
      apply ensures_pure
      rintro after ⟨failed, rfl⟩
      obtain ⟨request, failure⟩ := failed rfl
      exact ⟨⟨_, _, _, _, _, rfl, closed, opened⟩, fun never => absurd failure (never request)⟩
  | true =>
      apply ensures_pure
      rintro after ⟨-, rfl⟩
      refine ⟨⟨_, _, _, _, _, rfl, closed, opened⟩, fun never quiet latch => ?_⟩
      obtain ⟨rfl, rfl, rfl, rfl⟩ := worked never quiet latch
      rfl

end Calls

/-- The start of the serial test: whichever calls fail, the bit rate stays unless the latch has been
left open, and no interrupt is enabled while it is. -/
theorem uart_start_sets_up (fails : UartRequest → Prop) (before : UartDevice) :
    Ensures (uartMachine fails) (· = before) videoTestControllerStart (UartStarted fails before) := by
  refine ensures_bind (readUartConfig_spec before) fun result => ensures_each ?_
  intro state shown
  cases shown with
  | crashed zero =>
      apply ensures_pure
      rintro after rfl
      refine ⟨⟨rfl, fun _ => rfl⟩, fun _ => rfl, fun _ => .inl rfl, nofun, ?_, fun _ _ => rfl,
        fun _ _ nonzero => absurd zero nonzero⟩
      intro undefined same
      exact ⟨(Except.error.inj same).symm, zero⟩
  | @failed lcr config line partly failure =>
      refine ensures_bind (uartSubscribeInt_spec { before with lcr := lcr }) fun _ => ensures_pure ?_
      rintro after ⟨⟨ier, dlm, fifo, trigger, subscribed, rfl, closed, opened⟩, -⟩
      obtain ⟨request, failed⟩ := failure
      refine ⟨⟨rfl, closed⟩, opened, fun _ => .inr ⟨request, failed⟩, ?_, nofun,
        fun never => absurd failed (never request), fun never => absurd failed (never request)⟩
      intro config same
      exact Except.ok.inj same ▸ partly
  | @shown config nonzero describes =>
      let device : UartDevice := { before with lcr := before.lcr &&& 0x7F }
      have shut : device.latched = false := (lcr_bits before.lcr).2.2
      refine ensures_bind (uartSubscribeInt_spec device) fun _ => ensures_pure ?_
      rintro after ⟨⟨ier, dlm, fifo, trigger, subscribed, rfl, closed, opened⟩, works⟩
      refine ⟨⟨rfl, closed⟩, opened, fun latch => ?_, fun config same => ?_, nofun,
        fun _ zero => absurd zero nonzero,
        fun never quiet _ => ⟨config, rfl, describes, works never quiet shut⟩⟩
      · rw [UartDevice.latched] at shut latch
        rw [shut] at latch
        cases latch
      · exact Except.ok.inj same ▸ .inr ⟨describes.line, .inr describes.rate⟩

/-- A UART that answers everything, without interrupts to identify. -/
def obligingUart (device : UartDevice) : (request : UartRequest) → request.Answer × UartDevice
  | .inb offset =>
      (some (if offset = 0 then device.dll
        else if offset = 1 then if device.latched then device.dlm else device.ier
        else if offset = 2 then if device.fifo then 0xC1 else 0x01
        else device.lcr), device)
  | .outb offset value => (true, device.write offset value)
  | .irqSetPolicy => (true, { device with subscribed := true })

theorem obligingUart_legal (device : UartDevice) (request : UartRequest) :
    uartMachine (fun _ => False) device request
      (obligingUart device request).1 (obligingUart device request).2 := by
  cases request with
  | inb offset =>
      refine ⟨rfl, nofun, fun value same => ?_⟩
      obtain rfl := Option.some.inj same
      rw [UartDevice.Reads]
      split_ifs with first second opened identification enabled
      · exact fun _ => rfl
      · rfl
      · rfl
      · exact ⟨rfl, fun _ => rfl⟩
      · exact ⟨rfl, fun _ => rfl⟩
      · rfl
  | outb offset value => exact ⟨nofun, rfl⟩
  | irqSetPolicy => exact ⟨nofun, rfl⟩

/-- 9600 bits each second, 8 bits, no parity. -/
def idleUart : UartDevice :=
  { lcr := 0x03, ier := 0, fifo := false, trigger := 0, dll := 12, dlm := 0, subscribed := false }

theorem idle_uart_starts : ∃ config after,
    UartStarted (fun _ => False) idleUart (.ok config) after ∧ config.bitrate = 9600 ∧
      after.trigger = 3 := by
  obtain ⟨exchanges, path, served⟩ :=
    simulate_served obligingUart_legal videoTestControllerStart idleUart
  have started := uart_start_sets_up (fun _ => False) idleUart _ _ _ _ rfl path served
  exact ⟨_, _, started, by decide, by decide⟩

end TypingTutor
