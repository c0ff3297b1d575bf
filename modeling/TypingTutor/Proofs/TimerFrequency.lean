/-
Module: TypingTutor.Proofs.TimerFrequency
Layer: Proofs
Purpose: What `timer_set_frequency` does to the counters of the i8254, whichever of its port calls fail,
  and what `timer_display_conf` makes of their statuses.
Trusted boundary: none
Main exports: Coherent, Armed, FrequencySet, FrequencyCalls, frequencies_follow_calls, Shows,
  timer_shows_configuration
-/
import TypingTutor.Core.Timer

namespace TypingTutor

open Device

/-! ### Bytes -/

/-- A property of all bytes, checked byte by byte. -/
theorem forall_byte {P : UInt8 → Prop} (checked : ∀ value < 256, P (UInt8.ofNat value)) (byte : UInt8) :
    P byte := by
  have here := checked byte.toNat byte.toNat_lt
  rw [UInt8.ofNat_toNat] at here
  exact here

theorem controlWord_bits (n : Fin 3) : ∀ st : UInt8, ∃ sel,
    timerSel (UInt8.ofNat n.val) = some sel ∧ controlWord st sel >>> 6 = UInt8.ofNat n.val ∧
      (controlWord st sel >>> 4) &&& 0x3 = 3 ∧
        controlWord st sel &&& 0x3F = (st &&& 0x3F) &&& 0x0F ||| 0x30 := by
  apply forall_byte
  revert n
  decide +kernel

theorem readBackCommand_bits (n m : Fin 3) :
    readBackCommand (UInt8.ofNat n.val) >>> 6 = 3 ∧
      bit 4 (readBackCommand (UInt8.ofNat n.val)) = false ∧
      bit (UInt8.ofNat (m.val + 1)) (readBackCommand (UInt8.ofNat n.val)) = decide (m = n) := by
  revert n m
  decide +kernel

theorem or_and_byte (a b c : UInt8) : (a ||| b) &&& c = (a &&& c) ||| (b &&& c) := by
  apply UInt8.toBitVec_inj.1
  ext i
  simp [Bool.and_or_distrib_right]

/-- The lower bits of a status are the control word. -/
theorem status_bits (flags control : UInt8) :
    ((flags &&& 0xC0) ||| (control &&& 0x3F)) &&& 0x3F = control &&& 0x3F := by
  have apart : (0xC0 : UInt8) &&& 0x3F = 0 := by decide
  have same : (0x3F : UInt8) &&& 0x3F = 0x3F := by decide
  rw [or_and_byte, UInt8.and_assoc, UInt8.and_assoc, apart, same, UInt8.and_zero, UInt8.zero_or]

theorem index_eq_iff (n m : Fin 3) : UInt8.ofNat n.val = UInt8.ofNat m.val ↔ n = m := by
  revert n m
  decide

theorem timerPort_eq_iff (n m : Fin 3) :
    timerPort (UInt8.ofNat n.val) = timerPort (UInt8.ofNat m.val) ↔ n = m := by
  revert n m
  decide

theorem timerPort_ne_ctrl (n : Fin 3) : timerCtrl ≠ timerPort (UInt8.ofNat n.val) := by
  revert n
  decide

/-! ### The device -/

/-- Control words have six bits, and a latched status has them in its lower bits. -/
def Coherent (device : TimerDevice) : Prop :=
  ∀ n, (device n).control &&& 0x3F = (device n).control ∧
    ∀ st, (device n).status = some st → st &&& 0x3F = (device n).control

/-- The counter awaits both bytes of a count, the low one first. -/
structure Armed (channel : TimerChannel) : Prop where
  access : channel.access = 3
  half : channel.half = none

section Commands

variable (device : TimerDevice) (n : Fin 3) (flags : UInt8)

theorem command_readBack :
    device.command flags (readBackCommand (UInt8.ofNat n.val)).toUInt32.toUInt8 =
      Function.update device n ((device n).latch flags) := by
  rw [UInt8.toUInt8_toUInt32]
  funext m
  obtain ⟨high, status, selected⟩ := readBackCommand_bits n m
  rw [TimerDevice.command, if_pos high, status, selected]
  by_cases same : m = n
  · subst same
    rw [Function.update_self]
    simp
  · rw [Function.update_of_ne same]
    simp [same]

theorem command_controlWord (st sel : UInt8) (selected : timerSel (UInt8.ofNat n.val) = some sel) :
    device.command flags (controlWord st sel).toUInt32.toUInt8 =
      Function.update device n ((device n).program (controlWord st sel)) := by
  obtain ⟨sel', selects, high, access, -⟩ := controlWord_bits n st
  obtain rfl : sel' = sel := Option.some.inj (selects.symm.trans selected)
  have plain : ∀ n : Fin 3, UInt8.ofNat n.val ≠ 3 := by decide
  rw [UInt8.toUInt8_toUInt32, TimerDevice.command, high, access, if_neg (plain n), if_neg (by decide)]
  funext m
  by_cases same : m = n
  · subst same
    rw [Function.update_self, if_pos rfl]
  · rw [Function.update_of_ne same, if_neg (fun equal => same ((index_eq_iff n m).mp equal).symm)]

end Commands

section Ports

variable {before after : TimerDevice} {n : Fin 3} {value : UInt32} {ok : Bool} {answer : Option UInt8}

theorem timerWritten_ctrl (written : timerWritten before timerCtrl value ok after) :
    (ok = false ∧ after = before) ∨
      ok = true ∧ ∃ flags, after = before.command flags value.toUInt8 := by
  cases ok with
  | false => exact .inl ⟨rfl, written⟩
  | true =>
      rcases written with ⟨-, commanded⟩ | ⟨m, port, -⟩
      · exact .inr ⟨rfl, commanded⟩
      · exact absurd port (timerPort_ne_ctrl m)

theorem timerWritten_count
    (written : timerWritten before (timerPort (UInt8.ofNat n.val)) value ok after) :
    (ok = false ∧ after = before) ∨
      ok = true ∧ after = Function.update before n ((before n).load value.toUInt8) := by
  cases ok with
  | false => exact .inl ⟨rfl, written⟩
  | true =>
      rcases written with ⟨port, -⟩ | ⟨m, port, loaded⟩
      · exact absurd port.symm (timerPort_ne_ctrl n)
      · obtain rfl := (timerPort_eq_iff n m).mp port
        exact .inr ⟨rfl, loaded⟩

/-- A status that is latched is read, and no longer latched. -/
theorem timerRead_status {st : UInt8} (latched : (before n).status = some st)
    (read : timerRead before (timerPort (UInt8.ofNat n.val)) answer after) :
    (answer = none ∧ after = before) ∨
      answer = some st ∧ after = Function.update before n { before n with status := none } := by
  cases answer with
  | none => exact .inl ⟨rfl, read⟩
  | some value =>
      obtain ⟨m, port, status | ⟨unlatched, -⟩⟩ := read
      · obtain rfl := (timerPort_eq_iff n m).mp port
        obtain rfl : st = value := Option.some.inj (latched.symm.trans status.1)
        exact .inr ⟨rfl, status.2⟩
      · obtain rfl := (timerPort_eq_iff n m).mp port
        rw [latched] at unlatched
        cases unlatched

end Ports

section Channels

variable {channel : TimerChannel}


/-- The status that is latched after a read-back command. -/
theorem latch_status (flags : UInt8) (control : channel.control &&& 0x3F = channel.control)
    (status : ∀ st, channel.status = some st → st &&& 0x3F = channel.control) :
    ∃ st, (channel.latch flags).status = some st ∧ st &&& 0x3F = channel.control := by
  refine ⟨_, rfl, ?_⟩
  cases latched : channel.status with
  | none =>
      rw [Option.getD_none, status_bits, control]
  | some st => exact status st latched

end Channels

/-! ### Reading the configuration -/

/-- A counter in whose place nothing has changed but the latched status. -/
structure SameSetting (channel next : TimerChannel) : Prop where
  control : next.control = channel.control
  count : next.count = channel.count
  half : next.half = channel.half

/-- The device after `timer_get_conf`. -/
structure ConfigurationRead (fails : PortRequest → Prop) (n : Fin 3) (before : TimerDevice)
    (result : Option UInt8) (after : TimerDevice) : Prop where
  others : ∀ m, m ≠ n → after m = before m
  same : SameSetting (before n) (after n)
  coherent : Coherent after
  status : ∀ st, result = some st → st &&& 0x3F = (before n).control
  read : result.isSome = true → (after n).status = none
  failed : result = none → ∃ request, fails request

theorem Coherent.update {device : TimerDevice} (coherent : Coherent device) {n : Fin 3}
    {channel : TimerChannel} (control : channel.control &&& 0x3F = channel.control)
    (status : ∀ st, channel.status = some st → st &&& 0x3F = channel.control) :
    Coherent (Function.update device n channel) := by
  intro m
  by_cases same : m = n
  · subst same
    rw [Function.update_self]
    exact ⟨control, status⟩
  · rw [Function.update_of_ne same]
    exact coherent m

section Drivers

variable {fails : PortRequest → Prop} {n : Fin 3} {before : TimerDevice}

theorem not_out_of_range (n : Fin 3) : ¬ UInt8.ofNat n.val > 2 := by
  revert n
  decide

/-- `timer_get_conf` leaves the setting of every counter alone, and what it reads has the control word
of its counter. -/
theorem timerGetConf_spec (coherent : Coherent before) :
    Ensures (timerMachine fails) (· = before) (timerGetConf (UInt8.ofNat n.val))
      (ConfigurationRead fails n before) := by
  rw [timerGetConf, if_neg (not_out_of_range n)]
  have asked : Ensures (timerMachine fails) (· = before)
      (sysOutb timerCtrl (readBackCommand (UInt8.ofNat n.val)).toUInt32)
      (fun ok middle => (ok = false ∧ middle = before ∧ ∃ request, fails request) ∨
        ok = true ∧ ∃ flags, middle = Function.update before n ((before n).latch flags)) := by
    apply ensures_request
    rintro device ok middle rfl ⟨failed, written⟩
    rcases timerWritten_ctrl written with ⟨rfl, same⟩ | ⟨rfl, flags, commanded⟩
    · exact .inl ⟨rfl, same, _, failed rfl⟩
    · rw [command_readBack] at commanded
      exact .inr ⟨rfl, flags, commanded⟩
  refine ensures_bind asked fun ok => ?_
  cases ok with
  | false =>
      apply ensures_pure
      rintro device (⟨-, rfl, failed⟩ | ⟨impossible, -⟩)
      · exact ⟨fun _ _ => rfl, ⟨rfl, rfl, rfl⟩, coherent, fun _ same => (by cases same),
          fun same => (by cases same), fun _ => failed⟩
      · cases impossible
  | true =>
      apply ensures_request
      rintro device answer after (⟨impossible, -⟩ | ⟨-, flags, rfl⟩) ⟨failed, read⟩
      · cases impossible
      obtain ⟨st, latched, bits⟩ := latch_status flags (coherent n).1 (coherent n).2
      have here : (Function.update before n ((before n).latch flags) n).status = some st := by
        rw [Function.update_self]
        exact latched
      rcases timerRead_status here read with ⟨rfl, rfl⟩ | ⟨rfl, rfl⟩
      · refine ⟨fun m other => Function.update_of_ne other _ _, ?_, ?_, fun _ same => (by cases same),
          fun same => (by cases same), fun _ => ⟨_, failed rfl⟩⟩
        · rw [Function.update_self]
          exact ⟨rfl, rfl, rfl⟩
        · refine coherent.update ?_ ?_
          · exact (coherent n).1
          intro other same
          obtain rfl : st = other := Option.some.inj (latched.symm.trans same)
          exact bits
      · rw [Function.update_idem, Function.update_self]
        refine ⟨fun m other => Function.update_of_ne other _ _, ?_, ?_, ?_, fun _ => ?_,
          fun same => (by cases same)⟩
        · rw [Function.update_self]
          exact ⟨rfl, rfl, rfl⟩
        · refine coherent.update ?_ fun _ same => (by cases same)
          exact (coherent n).1
        · intro other same
          obtain rfl := Option.some.inj same
          exact bits
        · rw [Function.update_self]

/-! ### Setting the frequency -/

/-- The count for a frequency. -/
def divisor (freq : UInt32) : UInt16 := (timerFreq / freq).toUInt16

/-- The control word for a frequency: both bytes of the count, with the old mode and base. -/
def frequencyControl (control : UInt8) : UInt8 := control &&& 0x0F ||| 0x30

theorem bytes_of_word (word : UInt16) :
    (utilGetLSB word).toUInt16 + ((utilGetMSB word).toUInt16 <<< 8) = word := by
  have bound := word.toNat_lt
  have low : ∀ value : Nat, value &&& 255 = value % 256 :=
    fun value => Nat.and_two_pow_sub_one_eq_mod value 8
  have high : word.toNat >>> 8 = word.toNat / 256 := Nat.shiftRight_eq_div_pow _ 8
  apply UInt16.toNat_inj.mp
  simp [utilGetLSB, utilGetMSB, low, high, Nat.shiftLeft_eq]
  omega

theorem frequencyControl_bits : ∀ control : UInt8, (frequencyControl control >>> 4) &&& 0x3 = 3 ∧
    frequencyControl control &&& 0x3F = frequencyControl control ∧
      frequencyControl control &&& 0x0F = control &&& 0x0F := by
  apply forall_byte
  decide +kernel

/-- Both bytes of a count, to a counter that awaits them. -/
theorem load_both {channel : TimerChannel} (armed : Armed channel) (word : UInt16) :
    (channel.load (utilGetLSB word)).count = channel.count ∧
      (channel.load (utilGetLSB word)).load (utilGetMSB word) = { channel with count := word } := by
  obtain ⟨access, half⟩ := armed
  have first : channel.load (utilGetLSB word) = { channel with half := some (utilGetLSB word) } := by
    rw [TimerChannel.load, access, if_neg (by decide), if_neg (by decide), half]
  rw [first]
  refine ⟨rfl, ?_⟩
  have still : TimerChannel.access { channel with half := some (utilGetLSB word) } = 3 := access
  rw [TimerChannel.load, still, if_neg (by decide), if_neg (by decide)]
  simp only [bytes_of_word, ← half]

@[simp] theorem load_control (channel : TimerChannel) (value : UInt8) :
    (channel.load value).control = channel.control := by
  unfold TimerChannel.load
  split_ifs
  · rfl
  · rfl
  · split
    · rfl
    · rfl

@[simp] theorem load_status (channel : TimerChannel) (value : UInt8) :
    (channel.load value).status = channel.status := by
  unfold TimerChannel.load
  split_ifs
  · rfl
  · rfl
  · split
    · rfl
    · rfl

/-- The device after the control word, which may have been lost. -/
structure ControlWritten (fails : PortRequest → Prop) (n : Fin 3) (before : TimerDevice) (ok : Bool)
    (after : TimerDevice) : Prop where
  others : ∀ m, m ≠ n → after m = before m
  coherent : Coherent after
  count : (after n).count = (before n).count
  lost : ok = false → SameSetting (before n) (after n)
  written : ok = true → (after n).control = frequencyControl (before n).control ∧ (after n).half = none
  failed : ok = false → ∃ value, fails (.outb timerCtrl value)

/-- Either the counter awaits both bytes of a count, or it hears every command. -/
def ReadyCounter (fails : PortRequest → Prop) (channel : TimerChannel) : Prop :=
  Armed channel ∨ ∀ value, ¬ fails (.outb timerCtrl value)

theorem ControlWritten.armed {ok : Bool} {middle : TimerDevice}
    (written : ControlWritten fails n before ok middle) (ready : ReadyCounter fails (before n)) :
    Armed (middle n) := by
  cases ok with
  | true =>
      obtain ⟨control, half⟩ := written.written rfl
      refine ⟨?_, half⟩
      rw [TimerChannel.access, control]
      exact (frequencyControl_bits _).1
  | false =>
      obtain ⟨control, -, half⟩ := written.lost rfl
      obtain ⟨access, empty⟩ : Armed (before n) := by
        obtain ⟨value, lost⟩ := written.failed rfl
        exact ready.resolve_right fun heard => heard value lost
      refine ⟨?_, half.trans empty⟩
      rw [TimerChannel.access, control]
      exact access

theorem ControlWritten.settings {ok : Bool} {middle : TimerDevice}
    (written : ControlWritten fails n before ok middle) :
    (middle n).control &&& 0x0F = (before n).control &&& 0x0F := by
  cases ok with
  | true =>
      rw [(written.written rfl).1]
      exact (frequencyControl_bits _).2.2
  | false => rw [(written.lost rfl).control]

/-- Writing the control word after the configuration has been read. -/
theorem controlWord_spec {st sel : UInt8} (selected : timerSel (UInt8.ofNat n.val) = some sel) :
    Ensures (timerMachine fails) (ConfigurationRead fails n before (some st))
      (sysOutb timerCtrl (controlWord st sel).toUInt32) (ControlWritten fails n before) := by
  apply ensures_request
  intro middle ok after read ⟨failed, written⟩
  rcases timerWritten_ctrl written with ⟨rfl, rfl⟩ | ⟨rfl, flags, commanded⟩
  · exact ⟨read.others, read.coherent, read.same.count, fun _ => read.same, fun same => (by cases same),
      fun _ => ⟨_, failed rfl⟩⟩
  · rw [command_controlWord _ n flags st sel selected] at commanded
    subst commanded
    obtain ⟨sel', selects, -, -, bits⟩ := controlWord_bits n st
    obtain rfl : sel' = sel := Option.some.inj (selects.symm.trans selected)
    rw [read.status st rfl] at bits
    have control : ((middle n).program (controlWord st sel')).control =
        frequencyControl (before n).control := bits
    refine ⟨?_, ?_, ?_, fun same => (by cases same), fun _ => ?_, fun same => (by cases same)⟩
    · intro m other
      rw [Function.update_of_ne other]
      exact read.others m other
    · apply read.coherent.update
      · rw [control]
        exact (frequencyControl_bits _).2.1
      · have unlatched : ((middle n).program (controlWord st sel')).status = none := read.read rfl
        rw [unlatched]
        exact fun _ same => (by cases same)
    · rw [Function.update_self]
      exact read.same.count
    · rw [Function.update_self]
      exact ⟨control, rfl⟩

/-- A byte of the count. -/
theorem load_spec (given : TimerDevice → Prop) (value : UInt8) :
    Ensures (timerMachine fails) given (sysOutb (timerPort (UInt8.ofNat n.val)) value.toUInt32)
      (fun ok after => (ok = false ∧ given after ∧ ∃ request, fails request) ∨
        ok = true ∧ ∃ middle, given middle ∧
          after = Function.update middle n ((middle n).load value)) := by
  apply ensures_request
  intro middle ok after held ⟨failed, written⟩
  rcases timerWritten_count written with ⟨rfl, rfl⟩ | ⟨rfl, rfl⟩
  · exact .inl ⟨rfl, held, _, failed rfl⟩
  · rw [UInt8.toUInt8_toUInt32]
    exact .inr ⟨rfl, middle, held, rfl⟩

/-- The device after `timer_set_frequency`.  A counter that is ready is loaded with the divisor when
0 is returned, and keeps its count when 1 is returned. -/
structure FrequencySet (fails : PortRequest → Prop) (n : Fin 3) (freq : UInt32) (before : TimerDevice)
    (result : Int) (after : TimerDevice) : Prop where
  value : result = 0 ∨ result = 1
  others : ∀ m, m ≠ n → after m = before m
  coherent : Coherent after
  settings : (after n).control &&& 0x0F = (before n).control &&& 0x0F
  loaded : result = 0 → ReadyCounter fails (before n) → Armed (after n) ∧ (after n).count = divisor freq
  kept : result = 1 → ReadyCounter fails (before n) → (after n).count = (before n).count
  failed : result = 1 → ∃ request, fails request

/-- Bytes of the count change no control word and no status. -/
theorem ControlWritten.store {ok : Bool} {middle : TimerDevice} {channel : TimerChannel}
    (written : ControlWritten fails n before ok middle) (control : channel.control = (middle n).control)
    (status : channel.status = (middle n).status) :
    (∀ m, m ≠ n → Function.update middle n channel m = before m) ∧
      Coherent (Function.update middle n channel) ∧
        (Function.update middle n channel n).control &&& 0x0F = (before n).control &&& 0x0F := by
  refine ⟨?_, ?_, ?_⟩
  · intro m other
    rw [Function.update_of_ne other]
    exact written.others m other
  · apply written.coherent.update
    · rw [control]
      exact (written.coherent n).1
    · rw [control, status]
      exact (written.coherent n).2
  · rw [Function.update_self, control]
    exact written.settings

theorem not_rejected {freq : UInt32} (accepted : 19 ≤ freq ∧ freq ≤ timerFreq) (n : Fin 3) :
    ¬ (freq > timerFreq ∨ freq < 19 ∨ UInt8.ofNat n.val > 2) := by
  rintro (high | low | index)
  · exact absurd high (UInt32.not_lt.mpr accepted.2)
  · exact absurd low (UInt32.not_lt.mpr accepted.1)
  · exact not_out_of_range n index

/-- `timer_set_frequency` on a frequency that it accepts. -/
theorem timerSetFrequency_spec {freq : UInt32} (accepted : 19 ≤ freq ∧ freq ≤ timerFreq)
    (coherent : Coherent before) :
    Ensures (timerMachine fails) (· = before) (timerSetFrequency (UInt8.ofNat n.val) freq)
      (FrequencySet fails n freq before) := by
  rw [timerSetFrequency, if_neg (not_rejected accepted n)]
  refine ensures_bind (timerGetConf_spec coherent) fun read => ?_
  cases read with
  | none =>
      apply ensures_pure
      intro after read
      exact ⟨.inr rfl, read.others, read.coherent, by rw [read.same.control],
        fun zero => absurd zero (by decide), fun _ _ => read.same.count, fun _ => read.failed rfl⟩
  | some st =>
      obtain ⟨sel, selected, -⟩ := controlWord_bits n st
      rw [selected]
      refine ensures_bind (controlWord_spec selected) fun ok => ?_
      refine ensures_bind (load_spec (n := n) _ _) fun okLow => ?_
      cases okLow with
      | false =>
          apply ensures_pure
          rintro after (⟨-, written, failed⟩ | ⟨impossible, -⟩)
          · exact ⟨.inr rfl, written.others, written.coherent, written.settings,
              fun zero => absurd zero (by decide), fun _ _ => written.count, fun _ => failed⟩
          · cases impossible
      | true =>
          refine ensures_bind (load_spec (n := n) _ _) fun okHigh => ?_
          cases okHigh with
          | false =>
              apply ensures_pure
              rintro after (⟨-, ⟨impossible, -⟩ | ⟨-, middle, written, rfl⟩, failed⟩ | ⟨impossible, -⟩)
              · cases impossible
              · obtain ⟨others, stays, settings⟩ := written.store (load_control _ _) (load_status _ _)
                refine ⟨.inr rfl, others, stays, settings, fun zero => absurd zero (by decide),
                  fun _ ready => ?_, fun _ => failed⟩
                rw [Function.update_self, (load_both (written.armed ready) _).1]
                exact written.count
              · cases impossible
          | true =>
              apply ensures_pure
              rintro after (⟨impossible, -⟩ | ⟨-, _, ⟨impossible, -⟩ | ⟨-, middle, written, rfl⟩, rfl⟩)
              · cases impossible
              · cases impossible
              · rw [Function.update_idem, Function.update_self]
                obtain ⟨others, stays, settings⟩ := written.store
                  ((load_control _ _).trans (load_control _ _))
                  ((load_status _ _).trans (load_status _ _))
                refine ⟨.inl rfl, others, stays, settings, fun _ ready => ?_,
                  fun one => absurd one (by decide), fun one => absurd one (by decide)⟩
                have armed := written.armed ready
                rw [Function.update_self, (load_both armed _).2]
                exact ⟨⟨armed.access, armed.half⟩, rfl⟩

end Drivers

/-! ### The divisor -/

/-- The count for an accepted frequency is rounded down, and not cut off to 16 bits. -/
theorem divisor_rounds {freq : UInt32} (accepted : 19 ≤ freq ∧ freq ≤ timerFreq) :
    (divisor freq).toNat * freq.toNat ≤ timerFreq.toNat ∧
      timerFreq.toNat < ((divisor freq).toNat + 1) * freq.toNat := by
  have low : 19 ≤ freq.toNat := UInt32.le_iff_toNat_le.mp accepted.1
  have quotient : (divisor freq).toNat = timerFreq.toNat / freq.toNat := by
    have small : timerFreq.toNat / freq.toNat ≤ timerFreq.toNat / 19 :=
      Nat.div_le_div_left low (by decide)
    have fits : timerFreq.toNat / 19 < 65536 := by decide
    rw [divisor, UInt32.toNat_toUInt16, UInt32.toNat_div, Nat.mod_eq_of_lt (by omega)]
  rw [quotient]
  exact ⟨Nat.div_mul_le_self _ _, Nat.lt_mul_of_div_lt (Nat.lt_succ_self _) (by omega)⟩

/-! ### Series of calls -/

/-- A call of `timer_set_frequency` with its return value. -/
structure FrequencyCall where
  timer : UInt8
  freq : UInt32
  result : Int
deriving Repr, DecidableEq

/-- The arguments that `timer_set_frequency` does not turn down. -/
def FrequencyCall.Accepted (call : FrequencyCall) : Prop :=
  (19 ≤ call.freq ∧ call.freq ≤ timerFreq) ∧ ∃ n : Fin 3, call.timer = UInt8.ofNat n.val

/-- A series of calls on the device. -/
inductive FrequencyCalls (fails : PortRequest → Prop) :
    TimerDevice → List FrequencyCall → TimerDevice → Prop where
  | nil (device : TimerDevice) : FrequencyCalls fails device [] device
  | cons {before middle after : TimerDevice} {call : FrequencyCall} {later : List FrequencyCall}
      {exchanges : List PortExchange}
      (path : Path (timerSetFrequency call.timer call.freq) exchanges call.result)
      (served : Served (timerMachine fails) before exchanges middle)
      (rest : FrequencyCalls fails middle later after) :
      FrequencyCalls fails before (call :: later) after

/-- The count of a counter when only the calls that returned 0 for it have had an effect. -/
def countAfter (n : Fin 3) (count : UInt16) (calls : List FrequencyCall) : UInt16 :=
  calls.foldl
    (fun count call =>
      if call.result = 0 ∧ call.timer = UInt8.ofNat n.val then divisor call.freq else count)
    count

/-- What a call returns. -/
structure FrequencyCall.Answered (fails : PortRequest → Prop) (call : FrequencyCall) : Prop where
  value : call.result = 0 ∨ call.result = 1
  accepted : call.result = 0 → call.Accepted
  failed : call.result = 1 → call.Accepted → ∃ request, fails request

theorem timer_in_range {timer : UInt8} (small : ¬ timer > 2) :
    ∃ n : Fin 3, timer = UInt8.ofNat n.val := by
  revert small
  revert timer
  apply forall_byte
  decide +kernel

/-- A call whose arguments are turned down asks nothing. -/
theorem rejected_call {timer : UInt8} {freq : UInt32}
    (rejected : freq > timerFreq ∨ freq < 19 ∨ timer > 2) {exchanges : List PortExchange} {result : Int}
    (path : Path (timerSetFrequency timer freq) exchanges result) : exchanges = [] ∧ result = 1 := by
  rw [timerSetFrequency, if_pos rejected] at path
  exact path_pure.mp path

section Series

variable {fails : PortRequest → Prop} {before middle first last : TimerDevice}

/-- One call, on a device that hears every command. -/
theorem frequencyCall_step {call : FrequencyCall} {exchanges : List PortExchange}
    (coherent : Coherent before) (heard : ∀ value, ¬ fails (.outb timerCtrl value))
    (path : Path (timerSetFrequency call.timer call.freq) exchanges call.result)
    (served : Served (timerMachine fails) before exchanges middle) :
    Coherent middle ∧ call.Answered fails ∧
      ∀ n, (middle n).count = countAfter n (before n).count [call] ∧
        (middle n).control &&& 0x0F = (before n).control &&& 0x0F := by
  by_cases rejected : call.freq > timerFreq ∨ call.freq < 19 ∨ call.timer > 2
  · obtain ⟨rfl, result⟩ := rejected_call rejected path
    rw [served.of_nil]
    have unset : call.result ≠ 0 := by
      rw [result]
      decide
    refine ⟨coherent, ⟨.inr result, fun zero => absurd zero unset, ?_⟩, fun n => ⟨?_, rfl⟩⟩
    · rintro - ⟨⟨low, high⟩, n, timer⟩
      rw [timer] at rejected
      exact absurd rejected (not_rejected ⟨low, high⟩ n)
    · exact (if_neg (fun loaded => unset loaded.1)).symm
  · obtain ⟨high, low, small⟩ : ¬ call.freq > timerFreq ∧ ¬ call.freq < 19 ∧ ¬ call.timer > 2 :=
      ⟨fun above => rejected (.inl above), fun below => rejected (.inr (.inl below)),
        fun range => rejected (.inr (.inr range))⟩
    have accepted : 19 ≤ call.freq ∧ call.freq ≤ timerFreq :=
      ⟨UInt32.not_lt.mp low, UInt32.not_lt.mp high⟩
    obtain ⟨n, timer⟩ := timer_in_range small
    rw [timer] at path
    have set := timerSetFrequency_spec accepted coherent before exchanges call.result middle rfl path
      served
    refine ⟨set.coherent, ⟨set.value, fun _ => ⟨accepted, n, timer⟩, fun one _ => set.failed one⟩,
      fun m => ?_⟩
    by_cases same : m = n
    · subst same
      refine ⟨?_, set.settings⟩
      rcases set.value with zero | one
      · rw [(set.loaded zero (.inr heard)).2]
        exact (if_pos ⟨zero, timer⟩).symm
      · rw [set.kept one (.inr heard)]
        exact (if_neg (fun loaded => absurd (one.symm.trans loaded.1) (by decide))).symm
    · rw [set.others m same]
      refine ⟨(if_neg fun loaded => ?_).symm, rfl⟩
      exact same ((index_eq_iff n m).mp (timer.symm.trans loaded.2)).symm

/-- Over any series of calls of `timer_set_frequency` during which any reads, and any writes but
those of commands, may fail: each counter has the count of the last call that returned 0 for it, its
mode and base are never changed, 1 is returned only for bad arguments or when a port call failed,
and the count of an accepted frequency is the rounded quotient of the two frequencies. -/
theorem frequencies_follow_calls {calls : List FrequencyCall} (coherent : Coherent first)
    (heard : ∀ value, ¬ fails (.outb timerCtrl value))
    (series : FrequencyCalls fails first calls last) :
    (∀ n, (last n).count = countAfter n (first n).count calls ∧
      (last n).control &&& 0x0F = (first n).control &&& 0x0F) ∧
    ∀ call ∈ calls, call.Answered fails ∧
      (call.result = 0 → (divisor call.freq).toNat * call.freq.toNat ≤ 1193182 ∧
        1193182 < ((divisor call.freq).toNat + 1) * call.freq.toNat) := by
  induction series with
  | nil device => exact ⟨fun n => ⟨rfl, rfl⟩, fun call member => absurd member (by simp)⟩
  | @cons before middle after call later exchanges path served rest inductionHypothesis =>
      obtain ⟨stays, answered, counters⟩ := frequencyCall_step coherent heard path served
      obtain ⟨counts, others⟩ := inductionHypothesis stays
      refine ⟨fun n => ?_, fun other member => ?_⟩
      · obtain ⟨count, settings⟩ := counters n
        obtain ⟨total, kept⟩ := counts n
        rw [total, count]
        exact ⟨rfl, kept.trans settings⟩
      · rcases List.mem_cons.mp member with rfl | earlier
        · exact ⟨answered, fun zero => divisor_rounds (answered.accepted zero).1⟩
        · exact others other earlier

end Series

/-- Timers that count square waves and await both bytes of their counts. -/
def squareWaveTimers : TimerDevice := fun _ => ⟨0x36, 0, none, none⟩

/-- No call fails, and every read gives the status of such a timer. -/
def squareWaveAnswers (_ : Nat) (request : PortRequest) : request.Answer :=
  request.casesOn (fun _ => some 0x36) fun _ _ => true

theorem squareWave_coherent : Coherent squareWaveTimers :=
  fun _ => ⟨(by decide : (0x36 : UInt8) &&& 0x3F = 0x36), nofun⟩

/-- The exchanges of a call for 60 Hz that succeeds. -/
def sixtyHertz : List PortExchange :=
  [⟨.outb 0x43 0xE2, true⟩, ⟨.inb 0x40, some 0x36⟩, ⟨.outb 0x43 0x36, true⟩, ⟨.outb 0x40 0xAE, true⟩,
    ⟨.outb 0x40 0x4D, true⟩]

theorem sixtyHertz_path : Path (timerSetFrequency 0 60) sixtyHertz 0 :=
  path_run squareWaveAnswers (timerSetFrequency 0 60) 0

theorem sixtyHertz_served :
    ∃ last, Served (timerMachine fun _ => False) squareWaveTimers sixtyHertz last :=
  ⟨_, .cons ⟨nofun, .inl ⟨rfl, 0, rfl⟩⟩ (.cons ⟨nofun, 0, rfl, .inl ⟨rfl, rfl⟩⟩
    (.cons ⟨nofun, .inl ⟨rfl, 0, rfl⟩⟩ (.cons ⟨nofun, .inr ⟨0, rfl, rfl⟩⟩
      (.cons ⟨nofun, .inr ⟨0, rfl, rfl⟩⟩ (.nil _)))))⟩

/-- A call for 60 Hz and one for 18 Hz. -/
theorem sixtyHertz_stays : ∃ last, FrequencyCalls (fun _ => False) squareWaveTimers
    [⟨0, 60, 0⟩, ⟨0, 18, 1⟩] last ∧ (last 0).count = 19886 ∧ (last 1).count = 0 := by
  obtain ⟨last, served⟩ := sixtyHertz_served
  have series : FrequencyCalls (fun _ => False) squareWaveTimers [⟨0, 60, 0⟩, ⟨0, 18, 1⟩] last :=
    .cons sixtyHertz_path served (.cons (.done 1) (.nil last) (.nil last))
  have counts := (frequencies_follow_calls squareWave_coherent (fun _ => not_false) series).1
  exact ⟨last, series, (counts 0).1.trans (by decide), (counts 1).1.trans (by decide)⟩

/-! ### Showing the configuration -/

/-- The counting mode with 6 and 7 as the 2 and 3 that they mean. -/
def TimerChannel.countingMode (channel : TimerChannel) : UInt8 :=
  if channel.mode > 5 then channel.mode &&& 0x3 else channel.mode

/-- What there is to show of a counter. -/
def Shows (channel : TimerChannel) : TimerStatusField → StatusValue → Prop
  | .all, shown => ∃ st, shown = .byte st ∧ st &&& 0x3F = channel.control
  | .initial, shown => shown = .inMode channel.access
  | .mode, shown => ∃ mode, shown = .countMode mode ∧
      (mode = channel.countingMode ↔ channel.mode ≠ 4 ∧ channel.mode ≠ 5)
  | .base, shown => shown = .bcd (bit 0 channel.control)

theorem shown_bits : ∀ st : UInt8,
    (st &&& ((0x10 : UInt8) ||| 0x20)) >>> 4 = ((st &&& 0x3F) >>> 4) &&& 0x3 ∧
      (st &&& 0x01 != 0) = bit 0 (st &&& 0x3F) ∧
        (let shown := (st &&& ((0x04 : UInt8) ||| 0x02)) >>> 1
        let mode := ((st &&& 0x3F) >>> 1) &&& 0x7
        ((if shown > 5 then shown &&& 0x3 else shown) = (if mode > 5 then mode &&& 0x3 else mode) ↔
          mode ≠ 4 ∧ mode ≠ 5)) := by
  apply forall_byte
  decide +kernel

/-- `timer_test_read_config` changes the setting of no counter, and shows what the counter is set
to; the counting mode it gets right unless that is 4 or 5, whose upper bit is outside its mask. -/
theorem timer_shows_configuration {fails : PortRequest → Prop} {n : Fin 3} {before after : TimerDevice}
    {field : TimerStatusField} {exchanges : List PortExchange} {answer : Option StatusValue}
    (coherent : Coherent before)
    (path : Path (timerTestReadConfig (UInt8.ofNat n.val) field) exchanges answer)
    (served : Served (timerMachine fails) before exchanges after) :
    (∀ m, SameSetting (before m) (after m)) ∧ Coherent after ∧
      (answer = none → ∃ request, fails request) ∧
        ∀ shown, answer = some shown → Shows (before n) field shown := by
  obtain ⟨earlier, read, later, rfl, one, two⟩ := path_bind.mp path
  obtain ⟨middle, servedOne, servedTwo⟩ := served.split
  have spec := timerGetConf_spec coherent before earlier read middle rfl one servedOne
  have ended : after = middle ∧ answer = read.map fun st => timerDisplayConf st field := by
    cases read with
    | none =>
        obtain ⟨rfl, rfl⟩ := path_pure.mp two
        exact ⟨servedTwo.of_nil, rfl⟩
    | some st =>
        obtain ⟨rfl, rfl⟩ := path_pure.mp two
        exact ⟨servedTwo.of_nil, rfl⟩
  obtain ⟨rfl, rfl⟩ := ended
  refine ⟨fun m => ?_, spec.coherent,
    fun nothing => spec.failed (Option.map_eq_none_iff.mp nothing), ?_⟩
  · by_cases same : m = n
    · subst same
      exact spec.same
    · rw [spec.others m same]
      exact ⟨rfl, rfl, rfl⟩
  · intro shown displayed
    obtain ⟨st, rfl, rfl⟩ := Option.map_eq_some_iff.mp displayed
    have control := spec.status st rfl
    obtain ⟨initial, base, mode⟩ := shown_bits st
    rw [control] at initial base mode
    cases field with
    | all => exact ⟨st, rfl, control⟩
    | initial => exact congrArg StatusValue.inMode initial
    | mode => exact ⟨_, rfl, mode⟩
    | base => exact congrArg StatusValue.bcd base

/-- A successful call shows the mode of a timer that counts square waves. -/
theorem squareWave_shown : ∃ exchanges after,
    Path (timerTestReadConfig 0 .mode) exchanges (some (.countMode 3)) ∧
      Served (timerMachine fun _ => False) squareWaveTimers exchanges after ∧
      Shows (squareWaveTimers 0) .mode (.countMode 3) ∧
        ∀ m, SameSetting (squareWaveTimers m) (after m) := by
  have path : Path (timerTestReadConfig 0 .mode) [⟨.outb 0x43 0xE2, true⟩, ⟨.inb 0x40, some 0x36⟩]
      (some (.countMode 3)) := path_run squareWaveAnswers (timerTestReadConfig 0 .mode) 0
  have served : ∃ after, Served (timerMachine fun _ => False) squareWaveTimers
      [⟨.outb 0x43 0xE2, true⟩, ⟨.inb 0x40, some 0x36⟩] after :=
    ⟨_, .cons ⟨nofun, .inl ⟨rfl, 0, rfl⟩⟩ (.cons ⟨nofun, 0, rfl, .inl ⟨rfl, rfl⟩⟩ (.nil _))⟩
  obtain ⟨after, served⟩ := served
  obtain ⟨settings, -, -, shows⟩ := timer_shows_configuration (n := 0) squareWave_coherent path
    served
  exact ⟨_, after, path, served, shows _ rfl, settings⟩

end TypingTutor
