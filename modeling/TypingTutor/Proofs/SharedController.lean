/-
Module: TypingTutor.Proofs.SharedController
Layer: Proofs
Purpose: The keyboard controller as a queue that keyboard and mouse share.  Bytes are numbered as they
  arrive, the ports answer for the byte at the head, and a ghost trace records which byte each handler
  interprets.  Handlers get their own bytes, each at most once, exactly when every notification finds
  the bytes of its handlers at the head of the queue.
Trusted boundary: none
Main exports: QueuedByte, queuePorts, Trace, Bus, busStep, RightDevice, OwnBytesFirst,
  right_device_iff, busStep_held
-/
import TypingTutor.Proofs.Actions
import Mathlib.Data.List.Nodup

namespace TypingTutor

open Runs

/-! ### The queue -/

/-- The two devices behind the controller; each names its interrupt handler too. -/
inductive Device where
  | keyboard | mouse
deriving Repr, DecidableEq

/-- A byte in the output queue, with its number in the order of arrival. -/
structure QueuedByte where
  serial : Nat
  device : Device
  byte : UInt8
deriving Repr, DecidableEq

/-- The status register: OBF while the queue is nonempty, AUX when its head is a mouse byte. -/
def queueStatus : List QueuedByte → UInt8
  | [] => 0x00
  | head :: _ =>
      match head.device with
      | .keyboard => 0x01
      | .mouse => 0x21

/-- What the two ports answer. -/
def queuePorts (queue : List QueuedByte) : PortReads :=
  { status := some (queueStatus queue)
    output := queue.head?.map (·.byte) }

/-- The byte that the handler of a device reads. -/
def Device.read (handler : Device) (ports : PortReads) : Option UInt8 :=
  match handler with
  | .keyboard => kbcRead ports
  | .mouse => mouseRead ports

/-! ### The trace -/

/-- A handler went to work on a byte; without a source the byte was never queued. -/
structure Interpretation where
  handler : Device
  source : Option QueuedByte
deriving Repr, DecidableEq

/-- The queue, the byte behind `data` and behind `byte_received`, and what has been interpreted so far
(newest first). -/
structure Trace where
  queue : List QueuedByte
  arrived : Nat
  held : Device → Option QueuedByte
  interpreted : List Interpretation

namespace Trace

def empty : Trace := { queue := [], arrived := 0, held := fun _ => none, interpreted := [] }

/-- Bytes arrive at the end of the queue. -/
def arrive (trace : Trace) (bytes : List (Device × UInt8)) : Trace :=
  { trace with
    queue := trace.queue ++ bytes.mapIdx fun i byte =>
      { serial := trace.arrived + i, device := byte.1, byte := byte.2 }
    arrived := trace.arrived + bytes.length }

/-- One handler call: `update_keyboard` dispatches, and `sync` stores or skips, the byte that was read
or else the one that was held. -/
def call (trace : Trace) (handler : Device) : Trace :=
  if (handler.read (queuePorts trace.queue)).isSome then
    { trace with
      queue := trace.queue.tail
      held := Function.update trace.held handler trace.queue.head?
      interpreted := { handler := handler, source := trace.queue.head? } :: trace.interpreted }
  else
    { trace with
      interpreted := { handler := handler, source := trace.held handler } :: trace.interpreted }

/-- The calls of one notification. -/
def calls (trace : Trace) (handlers : List Device) : Trace := handlers.foldl call trace

end Trace

/-- Scancodes are keyboard bytes, the bytes given to `sync` are mouse bytes, and no byte is used
twice. -/
def RightDevice (trace : Trace) : Prop :=
  (∀ entry ∈ trace.interpreted, ∃ byte, entry.source = some byte ∧ byte.device = entry.handler) ∧
    (trace.interpreted.map (·.source)).Nodup

/-! ### Notifications over the queue -/

/-- The bytes that have arrived since the last notification, and the interrupt bits that are set. -/
structure Delivery where
  arrivals : List (Device × UInt8)
  keyboard : Option Env
  timer : Option Env
  mouse : Option Env

/-- The handlers that read the ports, in the order of the main loop. -/
def Delivery.handlers (delivery : Delivery) : List Device :=
  (if delivery.keyboard.isSome then [.keyboard] else []) ++
    if delivery.mouse.isSome then [.mouse] else []

structure Bus where
  state : State
  trace : Trace

/-- The queue that the mouse handler finds. -/
def Delivery.afterKeyboard (delivery : Delivery) (trace : Trace) : Trace :=
  if delivery.keyboard.isSome then trace.call .keyboard else trace

/-- The notification as the handlers see it. -/
def Delivery.notification (delivery : Delivery) (trace : Trace) : Notification :=
  { keyboard := delivery.keyboard.map fun env => (queuePorts trace.queue, env)
    timer := delivery.timer
    mouse := delivery.mouse.map fun env =>
      (queuePorts (delivery.afterKeyboard trace).queue, env) }

/-- One round of the main loop with the ports of the queue. -/
def busStep (loaded : LoadedSprites) (bus : Bus) (delivery : Delivery) : Except Fault Bus :=
  if exitRequested bus.state then .ok bus
  else do
    let arrived := bus.trace.arrive delivery.arrivals
    let state ← handleNotification loaded (delivery.notification arrived) bus.state
    return { state := state, trace := arrived.calls delivery.handlers }

/-- At least as many bytes are queued as handlers are called. -/
def Enough (bus : Bus) (delivery : Delivery) : Prop :=
  delivery.handlers.length ≤ (bus.trace.arrive delivery.arrivals).queue.length

/-- The first bytes of the queue belong to the handlers that are called, in the order of the calls. -/
def OwnBytesFirst (bus : Bus) (delivery : Delivery) : Prop :=
  exitRequested bus.state = false →
    delivery.handlers <+: (bus.trace.arrive delivery.arrivals).queue.map (·.device)

/-! ### One call -/

/-- The bits that the handlers test: parity and timeout never, OBF always, AUX for a mouse byte. -/
theorem queueStatus_bits (head : QueuedByte) (rest : List QueuedByte) :
    bit 7 (queueStatus (head :: rest)) = false ∧ bit 6 (queueStatus (head :: rest)) = false ∧
      bit 0 (queueStatus (head :: rest)) = true ∧
      bit 5 (queueStatus (head :: rest)) = decide (head.device = .mouse) := by
  obtain ⟨serial, device, byte⟩ := head
  cases device with
  | keyboard =>
      change bit 7 0x01 = false ∧ bit 6 0x01 = false ∧ bit 0 0x01 = true ∧ bit 5 0x01 = false
      decide
  | mouse =>
      change bit 7 0x21 = false ∧ bit 6 0x21 = false ∧ bit 0 0x21 = true ∧ bit 5 0x21 = true
      decide

/-- `kbc_ih` takes whatever is at the head; `mouse_ih` takes mouse bytes only. -/
theorem read_queuePorts (handler : Device) (head : QueuedByte) (rest : List QueuedByte) :
    handler.read (queuePorts (head :: rest)) =
      if handler = .keyboard ∨ head.device = .mouse then some head.byte else none := by
  obtain ⟨parity, timeout, full, aux⟩ := queueStatus_bits head rest
  cases handler with
  | keyboard => simp [Device.read, queuePorts, kbcRead, parity, timeout, full]
  | mouse => simp [Device.read, queuePorts, mouseRead, parity, timeout, full, aux]

/-- Every byte that has arrived is interpreted by its own device or still queued, in the order of
arrival; a held byte has been interpreted. -/
structure Orderly (trace : Trace) : Prop where
  own : ∀ entry ∈ trace.interpreted, ∃ byte, entry.source = some byte ∧ byte.device = entry.handler
  history : ((trace.interpreted.reverse.filterMap (·.source)) ++ trace.queue).map (·.serial) =
    List.range trace.arrived
  held : ∀ handler byte, trace.held handler = some byte →
    some byte ∈ trace.interpreted.map (·.source)

theorem orderly_empty : Orderly .empty :=
  { own := by simp [Trace.empty]
    history := rfl
    held := by simp [Trace.empty] }

theorem Orderly.rightDevice {trace : Trace} (orderly : Orderly trace) : RightDevice trace := by
  refine ⟨orderly.own, ?_⟩
  have serials : ((trace.interpreted.reverse.filterMap (·.source)).map (·.serial)).Nodup := by
    have all : (((trace.interpreted.reverse.filterMap (·.source)) ++ trace.queue).map
        (·.serial)).Nodup := by
      rw [orderly.history]
      exact List.nodup_range
    rw [List.map_append] at all
    exact (List.nodup_append.mp all).1
  -- Every source is a byte, so the sources are the bytes wrapped in `some`.
  have wrapped : trace.interpreted.map (·.source) =
      (trace.interpreted.filterMap (·.source)).map some := by
    have own := orderly.own
    generalize trace.interpreted = entries at own
    induction entries with
    | nil => rfl
    | cons entry entries inductionHypothesis =>
        obtain ⟨byte, source, -⟩ := own entry List.mem_cons_self
        rw [List.map_cons, List.filterMap_cons_some source, List.map_cons, source]
        apply congrArg (List.cons (some byte))
        apply inductionHypothesis
        intro other member
        exact own other (List.mem_cons_of_mem entry member)
  rw [wrapped]
  apply List.Nodup.map (Option.some_injective _)
  have reversed := List.Nodup.of_map _ serials
  rw [List.filterMap_reverse, List.nodup_reverse] at reversed
  exact reversed

theorem Orderly.arrive {trace : Trace} (orderly : Orderly trace) (bytes : List (Device × UInt8)) :
    Orderly (trace.arrive bytes) where
  own := orderly.own
  held := orderly.held
  history := by
    have serials : (bytes.mapIdx fun i byte => (⟨trace.arrived + i, byte.1, byte.2⟩ :
        QueuedByte)).map (·.serial) = List.range' trace.arrived bytes.length := by
      apply List.ext_getElem
      · simp
      · intro i _ _
        simp
    have before := orderly.history
    rw [Trace.arrive, ← List.append_assoc, List.map_append, before, serials, List.range_eq_range',
      List.range_eq_range']
    have joined := @List.range'_append 0 trace.arrived bytes.length 1
    rwa [Nat.zero_add, Nat.one_mul] at joined

/-- A handler that finds its own byte takes it. -/
theorem Orderly.call {trace : Trace} (orderly : Orderly trace) {head : QueuedByte}
    {rest : List QueuedByte} (queued : trace.queue = head :: rest) :
    Orderly (trace.call head.device) ∧ (trace.call head.device).queue = rest := by
  have reads : (head.device.read (queuePorts trace.queue)).isSome = true := by
    have own : head.device = .keyboard ∨ head.device = .mouse := by
      cases head.device with
      | keyboard => exact .inl rfl
      | mouse => exact .inr rfl
    rw [queued, read_queuePorts, if_pos own]
    rfl
  rw [Trace.call, if_pos reads, queued]
  refine ⟨⟨?_, ?_, ?_⟩, rfl⟩
  · intro entry member
    rcases List.mem_cons.mp member with rfl | earlier
    · exact ⟨head, rfl, rfl⟩
    · exact orderly.own entry earlier
  · have before := orderly.history
    rw [queued] at before
    simpa [List.filterMap_append] using before
  · intro handler byte holding
    change Function.update trace.held head.device (some head) handler = some byte at holding
    by_cases same : handler = head.device
    · subst same
      rw [Function.update_self] at holding
      rw [← holding]
      exact List.mem_cons_self
    · rw [Function.update_of_ne same] at holding
      exact List.mem_cons_of_mem _ (orderly.held handler byte holding)

/-- A handler that finds a byte of the other device uses a wrong byte: the keyboard takes the mouse
byte, and the mouse goes on with the byte it had before. -/
theorem Orderly.spoiled {trace : Trace} (orderly : Orderly trace) {handler : Device}
    {head : QueuedByte} {rest : List QueuedByte} (queued : trace.queue = head :: rest)
    (foreign : head.device ≠ handler) : ¬ RightDevice (trace.call handler) := by
  rintro ⟨own, distinct⟩
  have read := read_queuePorts handler head rest
  rw [← queued] at read
  cases handler with
  | keyboard =>
      have reads : (Device.keyboard.read (queuePorts trace.queue)).isSome = true := by
        rw [read, if_pos (.inl rfl)]
        rfl
      rw [Trace.call, if_pos reads, queued] at own
      obtain ⟨byte, source, device⟩ := own _ List.mem_cons_self
      cases source
      exact foreign device
  | mouse =>
      have unread : ¬ (Device.mouse.read (queuePorts trace.queue)).isSome = true := by
        have refused : ¬ (Device.mouse = .keyboard ∨ head.device = .mouse) := by
          rintro (impossible | device)
          · cases impossible
          · exact foreign device
        rw [read, if_neg refused]
        exact Bool.false_ne_true
      rw [Trace.call, if_neg unread] at own distinct
      obtain ⟨byte, source, -⟩ := own _ List.mem_cons_self
      have before := orderly.held .mouse byte source
      rw [List.map_cons, List.nodup_cons] at distinct
      apply distinct.1
      change trace.held .mouse ∈ trace.interpreted.map (·.source)
      rw [show trace.held .mouse = some byte from source]
      exact before

/-! ### The calls of a notification -/

/-- What has been interpreted stays on record. -/
theorem RightDevice.of_call {trace : Trace} {handler : Device}
    (right : RightDevice (trace.call handler)) : RightDevice trace := by
  obtain ⟨source, recorded⟩ : ∃ source, (trace.call handler).interpreted =
      { handler := handler, source := source } :: trace.interpreted := by
    rw [Trace.call]
    split
    · exact ⟨_, rfl⟩
    · exact ⟨_, rfl⟩
  obtain ⟨own, distinct⟩ := right
  rw [recorded] at own distinct
  constructor
  · intro entry member
    exact own entry (List.mem_cons_of_mem _ member)
  · rw [List.map_cons, List.nodup_cons] at distinct
    exact distinct.2

theorem RightDevice.of_calls {trace : Trace} {handlers : List Device}
    (right : RightDevice (trace.calls handlers)) : RightDevice trace := by
  induction handlers generalizing trace with
  | nil => exact right
  | cons handler handlers inductionHypothesis =>
      apply RightDevice.of_call
      exact inductionHypothesis right

/-- Calls that find their own bytes keep the order. -/
theorem Orderly.calls {trace : Trace} (orderly : Orderly trace) {handlers : List Device}
    (own : handlers <+: trace.queue.map (·.device)) : Orderly (trace.calls handlers) := by
  induction handlers generalizing trace with
  | nil => exact orderly
  | cons handler handlers inductionHypothesis =>
      cases queued : trace.queue with
      | nil =>
          rw [queued] at own
          cases List.prefix_nil.mp own
      | cons head rest =>
          rw [queued, List.map_cons] at own
          obtain ⟨rfl, later⟩ := List.cons_prefix_cons.mp own
          obtain ⟨orderlyNext, left⟩ := orderly.call queued
          apply inductionHypothesis orderlyNext
          rw [left]
          exact later

/-- Only such calls get the right bytes. -/
theorem Orderly.own_of_rightDevice {trace : Trace} (orderly : Orderly trace)
    {handlers : List Device} (enough : handlers.length ≤ trace.queue.length)
    (right : RightDevice (trace.calls handlers)) :
    handlers <+: trace.queue.map (·.device) := by
  induction handlers generalizing trace with
  | nil => exact List.nil_prefix
  | cons handler handlers inductionHypothesis =>
      cases queued : trace.queue with
      | nil =>
          rw [queued] at enough
          simp at enough
      | cons head rest =>
          have first : RightDevice (trace.call handler) := RightDevice.of_calls right
          obtain rfl : head.device = handler := by
            by_contra foreign
            exact orderly.spoiled queued foreign first
          obtain ⟨orderlyNext, left⟩ := orderly.call queued
          rw [List.map_cons]
          apply List.cons_prefix_cons.mpr
          refine ⟨rfl, ?_⟩
          rw [← left]
          apply inductionHypothesis orderlyNext _ right
          rw [left]
          rw [queued, List.length_cons, List.length_cons] at enough
          exact Nat.le_of_succ_le_succ enough

/-! ### Whole runs -/

section Runs

variable {loaded : LoadedSprites}

/-- A step past the exit does nothing; every other one lets bytes arrive and makes its calls. -/
theorem busStep_trace {bus next : Bus} {delivery : Delivery}
    (stepped : busStep loaded bus delivery = .ok next) :
    (exitRequested bus.state = true ∧ next = bus) ∨
      (exitRequested bus.state = false ∧
        next.trace = (bus.trace.arrive delivery.arrivals).calls delivery.handlers) := by
  unfold busStep at stepped
  cases leaving : exitRequested bus.state with
  | true =>
      rw [if_pos leaving] at stepped
      cases stepped
      exact .inl ⟨rfl, rfl⟩
  | false =>
      rw [if_neg (by simp [leaving])] at stepped
      obtain ⟨state, -, returned⟩ := bind_eq_ok.mp stepped
      cases returned
      exact .inr ⟨rfl, rfl⟩

/-- In a run over a shared queue, every handler gets bytes of its own device and no byte is used
twice, if and only if every notification finds the bytes of its handlers at the head of the queue in
the order in which the handlers are called. -/
theorem right_device_iff (loaded : LoadedSprites) (s : State) (deliveries : List Delivery)
    (finish : Bus)
    (enough : Along (busStep loaded) Enough { state := s, trace := .empty } deliveries)
    (ran : deliveries.foldlM (busStep loaded) { state := s, trace := .empty } = .ok finish) :
    RightDevice finish.trace ↔
      Along (busStep loaded) OwnBytesFirst { state := s, trace := .empty } deliveries := by
  have kept : ∀ bus delivery next, busStep loaded bus delivery = .ok next →
      RightDevice next.trace → RightDevice bus.trace := by
    intro bus delivery next stepped right
    rcases busStep_trace stepped with ⟨-, rfl⟩ | ⟨-, calls⟩
    · exact right
    · rw [calls] at right
      have arrived : RightDevice (bus.trace.arrive delivery.arrivals) := right.of_calls
      exact arrived
  have guarded : ∀ bus delivery next, Orderly bus.trace → Enough bus delivery →
      OwnBytesFirst bus delivery → busStep loaded bus delivery = .ok next → Orderly next.trace := by
    intro bus delivery next orderly _ own stepped
    rcases busStep_trace stepped with ⟨-, rfl⟩ | ⟨staying, calls⟩
    · exact orderly
    · rw [calls]
      exact (orderly.arrive delivery.arrivals).calls (own staying)
  have spoiled : ∀ bus delivery next, Orderly bus.trace → Enough bus delivery →
      busStep loaded bus delivery = .ok next → RightDevice next.trace →
        OwnBytesFirst bus delivery := by
    intro bus delivery next orderly enoughHere stepped right staying
    rcases busStep_trace stepped with ⟨leaving, -⟩ | ⟨-, calls⟩
    · rw [staying] at leaving
      cases leaving
    · rw [calls] at right
      exact (orderly.arrive delivery.arrivals).own_of_rightDevice enoughHere right
  exact verdict_iff_along (fun _ orderly => orderly.rightDevice) kept guarded spoiled orderly_empty
    enough ran

/-! ### The bytes behind the trace

The trace speaks about `data` and `byte_received`: what it holds for a device is the byte that the
driver of the device keeps. -/

/-- The byte that the driver of a device keeps. -/
def State.received (s : State) : Device → UInt8
  | .keyboard => s.data
  | .mouse => s.mouse.byteReceived

theorem keyHandler_received {ports : PortReads} {env : Env} {s next : State}
    (handled : keyHandler loaded ports env s = .ok next) :
    next.data = kbcIh ports s.data ∧ next.mouse = s.mouse := by
  rw [keyHandler_eq] at handled
  obtain ⟨typed, updated, left⟩ := bind_eq_ok.mp handled
  obtain ⟨_, _, _, _, _, _, rfl⟩ := updateKeyboard_typedFrom updated
  simp only [leaveByKey] at left
  split_ifs at left
  · cases left
    exact ⟨rfl, rfl⟩
  · cases left
    exact ⟨rfl, rfl⟩
  · cases left
    exact ⟨rfl, rfl⟩
  · cases left
    exact ⟨rfl, rfl⟩

theorem timerInterrupt_received {env : Env} {s next : State}
    (handled : (updateTimer env s >>= gameDrawer loaded env) = .ok next) :
    next.data = s.data ∧ next.mouse = s.mouse := by
  obtain ⟨ticked, updated, drawn⟩ := bind_eq_ok.mp handled
  have kept : ticked.data = s.data ∧ ticked.mouse = s.mouse := by
    rw [updateTimer_eq] at updated
    split_ifs at updated
    · obtain ⟨-, mouse, data⟩ := setGameState_keepsDevices env .updateTimer .statistics _ _ updated
      exact ⟨data, mouse⟩
    · cases updated
      exact ⟨rfl, rfl⟩
    · cases updated
      exact ⟨rfl, rfl⟩
    · cases updated
      exact ⟨rfl, rfl⟩
  obtain ⟨_, _, _, _, _, rfl⟩ := gameDrawer_drawnFrom drawn
  exact kept

theorem updateMouse_received {ports : PortReads} {env : Env} {s next : State}
    (handled : updateMouse loaded ports env s = .ok next) :
    next.data = s.data ∧ next.mouse.byteReceived = (mouseIh ports s.mouse).byteReceived := by
  have synced : ∀ mouse : Mouse, (sync mouse).byteReceived = mouse.byteReceived := by
    intro mouse
    unfold sync
    split_ifs
    · rfl
    · rfl
    · rfl
    · rfl
    · rfl
  rcases updateMouse_inv handled with ⟨pp, acted, acting, rfl⟩ | ⟨-, rfl⟩
  · obtain ⟨-, mouse, data⟩ := checkActions_keepsDevices env _ _ acting
    refine ⟨data, ?_⟩
    change acted.mouse.byteReceived = _
    rw [mouse]
    exact synced _
  · exact ⟨rfl, synced _⟩

/-- What the trace holds is what the drivers keep. -/
def Faithful (bus : Bus) : Prop :=
  ∀ device byte, bus.trace.held device = some byte → bus.state.received device = byte.byte

theorem held_call_of_ne {trace : Trace} {handler device : Device} (other : device ≠ handler) :
    (trace.call handler).held device = trace.held device := by
  rw [Trace.call]
  split
  · exact Function.update_of_ne other _ _
  · rfl

/-- A call leaves the byte of its trace entry with the driver: the one read, or the one kept. -/
theorem held_call {trace : Trace} {handler : Device} {kept : UInt8}
    (holding : ∀ byte, trace.held handler = some byte → kept = byte.byte) {byte : QueuedByte}
    (after : (trace.call handler).held handler = some byte) :
    (handler.read (queuePorts trace.queue)).getD kept = byte.byte := by
  rw [Trace.call] at after
  split at after
  · rename_i reads
    change Function.update trace.held handler trace.queue.head? handler = some byte at after
    rw [Function.update_self] at after
    obtain ⟨rest, queued⟩ := List.head?_eq_some_iff.mp after
    rw [queued, read_queuePorts] at reads ⊢
    split at reads
    · rename_i own
      rw [if_pos own]
      rfl
    · cases reads
  · rename_i unread
    rw [Option.not_isSome_iff_eq_none.mp unread]
    exact holding byte after

theorem Faithful.keyboardCall {bus : Bus} (faithful : Faithful bus) {env : Env} {next : State}
    (handled : keyHandler loaded (queuePorts bus.trace.queue) env bus.state = .ok next) :
    Faithful { state := next, trace := bus.trace.call .keyboard } := by
  obtain ⟨data, mouse⟩ := keyHandler_received handled
  intro device byte holding
  cases device with
  | keyboard =>
      apply data.trans
      exact held_call (faithful .keyboard) holding
  | mouse =>
      apply (congrArg Mouse.byteReceived mouse).trans
      apply faithful .mouse byte
      rw [← holding, held_call_of_ne (by decide)]

theorem Faithful.mouseCall {bus : Bus} (faithful : Faithful bus) {env : Env} {next : State}
    (handled : updateMouse loaded (queuePorts bus.trace.queue) env bus.state = .ok next) :
    Faithful { state := next, trace := bus.trace.call .mouse } := by
  obtain ⟨data, received⟩ := updateMouse_received handled
  intro device byte holding
  cases device with
  | keyboard =>
      apply data.trans
      apply faithful .keyboard byte
      rw [← holding, held_call_of_ne (by decide)]
  | mouse =>
      apply received.trans
      exact held_call (faithful .mouse) holding

theorem busStep_faithful {bus next : Bus} {delivery : Delivery} (faithful : Faithful bus)
    (stepped : busStep loaded bus delivery = .ok next) : Faithful next := by
  unfold busStep at stepped
  split at stepped
  · cases stepped
    exact faithful
  obtain ⟨state, handled, returned⟩ := bind_eq_ok.mp stepped
  cases returned
  rw [handleNotification_eq] at handled
  obtain ⟨typed, typing, handled⟩ := bind_eq_ok.mp handled
  obtain ⟨ticked, ticking, clicking⟩ := bind_eq_ok.mp handled
  have arrived : Faithful { bus with trace := bus.trace.arrive delivery.arrivals } := faithful
  generalize bus.trace.arrive delivery.arrivals = trace at arrived typing clicking
  have afterKey : Faithful { state := typed, trace := delivery.afterKeyboard trace } := by
    unfold serveKeyboard Delivery.notification at typing
    unfold Delivery.afterKeyboard
    cases key : delivery.keyboard with
    | none =>
        simp only [key] at typing
        cases typing
        exact arrived
    | some env =>
        simp only [key] at typing
        exact arrived.keyboardCall typing
  have afterTick : Faithful { state := ticked, trace := delivery.afterKeyboard trace } := by
    unfold serveTimer Delivery.notification at ticking
    cases tick : delivery.timer with
    | none =>
        simp only [tick] at ticking
        cases ticking
        exact afterKey
    | some env =>
        simp only [tick] at ticking
        obtain ⟨data, mouse⟩ := timerInterrupt_received ticking
        intro device byte holding
        cases device with
        | keyboard => exact data.trans (afterKey .keyboard byte holding)
        | mouse => exact (congrArg Mouse.byteReceived mouse).trans (afterKey .mouse byte holding)
  have calls : trace.calls delivery.handlers =
      if delivery.mouse.isSome then (delivery.afterKeyboard trace).call .mouse
      else delivery.afterKeyboard trace := by
    unfold Trace.calls Delivery.handlers Delivery.afterKeyboard
    cases delivery.keyboard with
    | none =>
        cases delivery.mouse with
        | none => rfl
        | some env => rfl
    | some env =>
        cases delivery.mouse with
        | none => rfl
        | some env => rfl
  rw [calls]
  unfold Delivery.notification at clicking
  cases click : delivery.mouse with
  | none =>
      simp only [click] at clicking
      cases clicking
      exact afterTick
  | some env =>
      simp only [click] at clicking
      exact afterTick.mouseCall clicking

/-- The trace of a run is the trace of what the drivers keep. -/
theorem run_faithful (s : State) (deliveries : List Delivery) :
    Outcome Faithful (fun _ => True)
      (deliveries.foldlM (busStep loaded) { state := s, trace := .empty }) := by
  refine foldlM_outcome ?_ ?_ deliveries
  · intro bus delivery faithful
    cases stepped : busStep loaded bus delivery with
    | error fault => trivial
    | ok next => exact busStep_faithful faithful stepped
  · intro device byte holding
    cases holding

end Runs

/-! ### Two notifications -/

/-- A keyboard byte and a mouse byte, in this order or in the other, and one notification for both. -/
def bothBits (arrivals : List (Device × UInt8)) : Delivery :=
  { arrivals := arrivals, keyboard := some default, timer := none, mouse := some default }

def keyThenMouse : Delivery := bothBits [(.keyboard, 0x1E), (.mouse, 0x08)]
def mouseThenKey : Delivery := bothBits [(.mouse, 0x08), (.keyboard, 0x1E)]

/-- Both bytes arrive in the order in which the handlers are called. -/
theorem right_device_in_call_order :
    Along (busStep everySprite) Enough { state := setup [], trace := .empty } [keyThenMouse] ∧
      ∃ finish, [keyThenMouse].foldlM (busStep everySprite)
          { state := setup [], trace := .empty } = .ok finish ∧ RightDevice finish.trace := by
  have enough : Along (busStep everySprite) Enough { state := setup [], trace := .empty }
      [keyThenMouse] := ⟨Nat.le_refl 2, fun _ _ => trivial⟩
  refine ⟨enough, _, rfl, ?_⟩
  apply (right_device_iff everySprite (setup []) [keyThenMouse] _ enough rfl).mpr
  exact ⟨fun _ => by decide, fun _ _ => trivial⟩

/-- The bytes arrive the other way round: the keyboard takes the mouse byte as a scancode, and the
mouse goes to work on a byte that was never queued. -/
theorem mouse_byte_taken_by_keyboard :
    Along (busStep everySprite) Enough { state := setup [], trace := .empty } [mouseThenKey] ∧
      ∃ finish, [mouseThenKey].foldlM (busStep everySprite)
          { state := setup [], trace := .empty } = .ok finish ∧ ¬ RightDevice finish.trace := by
  refine ⟨⟨Nat.le_refl 2, fun _ _ => trivial⟩, _, rfl, ?_⟩
  rintro ⟨own, -⟩
  have scancode : (⟨.keyboard, some ⟨0, .mouse, 0x08⟩⟩ : Interpretation) ∈
      ((Trace.empty.arrive mouseThenKey.arrivals).calls mouseThenKey.handlers).interpreted := by
    decide
  obtain ⟨byte, source, device⟩ := own _ scancode
  cases source
  cases device

end TypingTutor
