/-
Module: TypingTutor.Proofs.MouseFraming
Layer: Proofs
Purpose: The mouse driver receives packets.  `sync` and `update_mouse` together are a receiver of
  three-byte frames whose first byte has bit 3, and each complete frame is parsed once.  So a stream
  of packets is parsed packet by packet, with the displacements of a signed nine-bit number,
  whatever the other handlers do in between.
Trusted boundary: none
Main exports: DecodesTo, decodePacket_decodesTo, Delivers, Received, packets_are_framed
-/
import TypingTutor.Lib.Framing
import TypingTutor.Proofs.HandlerCalls
import TypingTutor.Proofs.StaleBytes
import TypingTutor.Proofs.WordCursor

namespace TypingTutor

open Runs Framing

/-! ### Decoding -/

/-- What the three bytes of a packet mean. -/
structure DecodesTo (first second third : UInt8) (packet : Packet) : Prop where
  bytes : packet.bytes = (first, second, third)
  lb : packet.lb = bit 0 first
  rb : packet.rb = bit 1 first
  mb : packet.mb = bit 2 first
  deltaX : packet.deltaX = (second.toNat : Int) - 256 * (bit 4 first).toNat
  deltaY : packet.deltaY = (third.toNat : Int) - 256 * (bit 5 first).toNat

/-- Or-ing `0xFF00` into the byte and reading the result as `int16_t` subtracts 256. -/
theorem displacement_eq (negative : Bool) (byte : UInt8) :
    displacement negative byte = (byte.toNat : Int) - 256 * negative.toNat := by
  have every : ∀ byte : Fin 256,
      ((UInt8.ofFin byte).toUInt16 ||| 0xFF00).toInt16.toInt = (byte.val : Int) - 256 ∧
        (UInt8.ofFin byte).toUInt16.toInt16.toInt = (byte.val : Int) := by
    decide +kernel
  obtain ⟨below, above⟩ := every byte.toFin
  cases negative with
  | true => exact below
  | false =>
      rw [Bool.toNat_false, Nat.cast_zero, Int.mul_zero, Int.sub_zero]
      exact above

theorem decodePacket_decodesTo (first second third : UInt8) :
    DecodesTo first second third (decodePacket (first, second, third)) where
  bytes := rfl
  lb := rfl
  rb := rfl
  mb := rfl
  deltaX := displacement_eq _ _
  deltaY := displacement_eq _ _

/-! ### The driver as a receiver -/

/-- A packet on the wire, behind bytes without bit 3. -/
abbrev MouseTransmission := Transmission (bit 3) 3

/-- `parse()` of a frame. -/
def decodeFrame : List UInt8 → Packet
  | [first, second, third] => decodePacket (first, second, third)
  | _ => default

/-- The byte that a call reads from the mouse. -/
def HandlerCall.mouseByte : HandlerCall → Option UInt8
  | .mouse ports _ => mouseRead ports
  | _ => none

def HandlerCall.isMouse : HandlerCall → Bool
  | .mouse _ _ => true
  | _ => false

/-- The mouse interrupts among the calls all read a byte, and the bytes are those of the
transmissions. -/
structure Delivers (calls : List HandlerCall) (transmissions : List MouseTransmission) : Prop where
  reads : ∀ call ∈ calls, call.isMouse = true → call.mouseByte.isSome = true
  bytes : calls.filterMap HandlerCall.mouseByte = transmissions.flatMap Transmission.bytes

/-- The bytes of the packet under assembly. -/
def heldBytes (mouse : Mouse) : List UInt8 :=
  [mouse.ppBytes.1, mouse.ppBytes.2.1, mouse.ppBytes.2.2].take mouse.bytesRead

/-- The cursor after the packets of the frames. -/
def movedBy (frames : List (List UInt8)) (cursor : Sprite) : Sprite :=
  { cursor with
    x := cursor.x + (frames.map fun frame => (decodeFrame frame).deltaX).sum
    y := cursor.y - (frames.map fun frame => (decodeFrame frame).deltaY).sum }

/-- The state follows the receiver: it holds the same bytes, and has parsed the frames received
since the start. -/
structure Received (start : State) (receiver : Receiver UInt8) (s : State) : Prop where
  held : heldBytes s.mouse = receiver.held
  count : s.mouse.bytesRead ≤ 2
  packets : parsedPackets s.log =
    (receiver.frames.map decodeFrame).reverse ++ parsedPackets start.log

theorem length_heldBytes {mouse : Mouse} (count : mouse.bytesRead ≤ 2) :
    (heldBytes mouse).length = mouse.bytesRead := by
  rw [heldBytes, List.length_take]
  have room : 2 ≤ [mouse.ppBytes.1, mouse.ppBytes.2.1, mouse.ppBytes.2.2].length := by simp
  exact Nat.min_eq_left (count.trans room)

/-- A byte between packets that cannot open one. -/
theorem sync_skips {mouse : Mouse} (empty : mouse.bytesRead = 0)
    (closed : bit 3 mouse.byteReceived = false) : sync mouse = mouse := by
  rw [sync, if_pos empty, closed]
  rfl

/-- Every other byte is stored behind the bytes held. -/
theorem sync_stores {mouse : Mouse} (count : mouse.bytesRead ≤ 2)
    (stored : ¬ (mouse.bytesRead = 0 ∧ bit 3 mouse.byteReceived = false)) :
    (sync mouse).bytesRead = mouse.bytesRead + 1 ∧
      heldBytes (sync mouse) = heldBytes mouse ++ [mouse.byteReceived] := by
  have advanced := sync_bytesRead count
  rw [if_neg stored] at advanced
  refine ⟨advanced, ?_⟩
  unfold sync
  by_cases empty : mouse.bytesRead = 0
  · have opens : bit 3 mouse.byteReceived = true := by
      by_contra closed
      exact stored ⟨empty, Bool.eq_false_iff.mpr closed⟩
    simp [heldBytes, empty, opens]
  · by_cases one : mouse.bytesRead = 1
    · simp [heldBytes, one]
    · have two : mouse.bytesRead = 2 := by omega
      simp [heldBytes, two]

/-- The three bytes of a complete packet. -/
theorem heldBytes_complete {mouse : Mouse} (complete : mouse.bytesRead = 3) :
    decodeFrame (heldBytes mouse) = decodePacket mouse.ppBytes := by
  rw [heldBytes, complete]
  rfl

/-! ### What the handlers do to the receiver -/

theorem setGameState_parsed {env : Env} {caller : Caller} {target : GameState} {s next : State}
    (changed : setGameState env caller target s = .ok next) :
    parsedPackets next.log = parsedPackets s.log := by
  cases target with
  | menu | timers | instructions | highscores =>
      cases changed
      rfl
  | game =>
      rw [setGameState_game] at changed
      cases changed
      rfl
  | statistics =>
      obtain ⟨testToken, token, stats, rfl⟩ := setGameState_statistics_inv changed
      rfl

theorem screenButtons_parsed (env : Env) (s : State) :
    ∀ button ∈ screenButtons env s, ∀ s next, button.2 s = .ok next →
      parsedPackets next.log = parsedPackets s.log := by
  apply @forall_screenButtons env fun action => ∀ s next, action s = .ok next →
    parsedPackets next.log = parsedPackets s.log
  · intro target s next changed
    exact setGameState_parsed changed
  · intro seconds s next changed
    have parsed := setGameState_parsed changed
    exact parsed
  · intro s next pressed
    obtain ⟨middle, changed, freed⟩ := bind_eq_ok.mp pressed
    rw [← setGameState_parsed changed]
    obtain ⟨stats, -, returned⟩ := bind_eq_ok.mp freed
    cases returned
    rfl

section Handlers

variable {loaded : LoadedSprites} {env : Env} {s next : State}

/-- The action that a packet leads to parses nothing and leaves driver and cursor alone. -/
theorem checkActions_parsed (acted : checkActions loaded env s = .ok next) :
    next.mouse = s.mouse ∧ next.cursor = s.cursor ∧
      parsedPackets next.log = parsedPackets s.log := by
  rcases checkActions_cases env acted with gestured | rfl | ⟨button, member, pressed⟩
  · obtain ⟨_, _, _, _, _, _, _, rfl⟩ := gestured
    exact ⟨rfl, rfl, rfl⟩
  · exact ⟨rfl, rfl, rfl⟩
  · have parsed := screenButtons_parsed env s button member s next pressed
    obtain ⟨_, _, _, _, _, _, _, _, _, -, rfl⟩ :=
      screenButtons_pressedFrom env s button member s next pressed
    exact ⟨rfl, rfl, parsed⟩

theorem leaveByKey_parsed {before : GameState} (left : leaveByKey env before s = .ok next) :
    next.mouse = s.mouse ∧ next.cursor = s.cursor ∧
      parsedPackets next.log = parsedPackets s.log := by
  unfold leaveByKey at left
  split_ifs at left
  · obtain ⟨_, _, _, _, _, _, _, entered, -⟩ := setGameState_enteredFrom left
    have parsed := setGameState_parsed left
    rw [entered]
    rw [entered] at parsed
    exact ⟨rfl, rfl, parsed⟩
  · cases left
    exact ⟨rfl, rfl, rfl⟩
  · obtain ⟨middle, changed, returned⟩ := bind_eq_ok.mp left
    cases returned
    cases changed
    exact ⟨rfl, rfl, rfl⟩
  · cases left
    exact ⟨rfl, rfl, rfl⟩

theorem keyHandler_parsed {ports : PortReads} (handled : keyHandler loaded ports env s = .ok next) :
    next.mouse = s.mouse ∧ next.cursor = s.cursor ∧
      parsedPackets next.log = parsedPackets s.log := by
  rw [keyHandler_eq] at handled
  obtain ⟨typed, typing, left⟩ := bind_eq_ok.mp handled
  obtain ⟨_, _, _, _, _, _, rfl⟩ := updateKeyboard_typedFrom typing
  have kept := leaveByKey_parsed left
  exact kept

theorem updateTimer_parsed (updated : updateTimer env s = .ok next) :
    next.mouse = s.mouse ∧ parsedPackets next.log = parsedPackets s.log := by
  rw [updateTimer_eq] at updated
  split_ifs at updated
  · obtain ⟨_, _, _, _, _, _, _, entered, -⟩ := setGameState_enteredFrom updated
    have parsed := setGameState_parsed updated
    rw [entered]
    rw [entered] at parsed
    exact ⟨rfl, parsed⟩
  · cases updated
    exact ⟨rfl, rfl⟩
  · cases updated
    exact ⟨rfl, rfl⟩
  · cases updated
    exact ⟨rfl, rfl⟩

/-- Keyboard and timer have nothing to do with the driver of the mouse, and only the timer moves the
cursor. -/
theorem perform_parsed {call : HandlerCall} (other : call.isMouse = false)
    (performed : perform loaded s call = .ok next) :
    next.mouse = s.mouse ∧ parsedPackets next.log = parsedPackets s.log ∧
      (call.isTimer = false → next.cursor = s.cursor) := by
  cases call with
  | keyboard ports env =>
      obtain ⟨mouse, cursor, parsed⟩ := keyHandler_parsed performed
      exact ⟨mouse, parsed, fun _ => cursor⟩
  | timer env =>
      obtain ⟨ticked, updated, drawn⟩ := bind_eq_ok.mp performed
      obtain ⟨_, _, _, _, _, rfl⟩ := gameDrawer_drawnFrom drawn
      obtain ⟨mouse, parsed⟩ := updateTimer_parsed updated
      exact ⟨mouse, parsed, fun quiet => by cases quiet⟩
  | mouse ports env => cases other

/-- A complete packet is parsed once. -/
theorem handlePacket_parsed (handled : handlePacket loaded env s = .ok next) :
    next.mouse.bytesRead = 0 ∧ next.cursor = (parsePacket s).cursor ∧
      parsedPackets next.log = decodePacket s.mouse.ppBytes :: parsedPackets s.log := by
  rw [handlePacket_eq] at handled
  obtain ⟨acted, acting, returned⟩ := bind_eq_ok.mp handled
  obtain ⟨-, cursor, parsed⟩ := checkActions_parsed acting
  cases returned
  exact ⟨rfl, cursor, parsed⟩

end Handlers

/-! ### Following the receiver -/

section Receiving

variable {loaded : LoadedSprites} {env : Env} {ports : PortReads} {start s next : State}
  {receiver : Receiver UInt8} {byte : UInt8}

/-- One interrupt is one step of the receiver, and the cursor moves by the packet that it completes.
-/
theorem updateMouse_receives (received : Received start receiver s)
    (read : mouseRead ports = some byte) (done : updateMouse loaded ports env s = .ok next) :
    Received start (feed (bit 3) 3 receiver byte) next ∧
      ∀ origin, s.cursor = movedBy receiver.frames origin →
        next.cursor = movedBy (feed (bit 3) 3 receiver byte).frames origin := by
  obtain ⟨held, count, packets⟩ := received
  have taken : mouseIh ports s.mouse = { s.mouse with byteReceived := byte } := by
    rw [mouseIh, read]
    rfl
  generalize given : ({ s.mouse with byteReceived := byte } : Mouse) = mouse at taken
  have givenByte : mouse.byteReceived = byte := by rw [← given]
  have givenCount : mouse.bytesRead = s.mouse.bytesRead := by rw [← given]
  have givenHeld : heldBytes mouse = receiver.held := by rw [← given, ← held]; rfl
  have counted : mouse.bytesRead ≤ 2 := givenCount ▸ count
  have size := length_heldBytes counted
  rw [givenHeld] at size
  rw [updateMouse_eq, taken] at done
  by_cases skipped : mouse.bytesRead = 0 ∧ bit 3 mouse.byteReceived = false
  · -- between packets, and the byte cannot open one
    obtain ⟨empty, closed⟩ := skipped
    rw [sync_skips empty closed, if_neg (by omega)] at done
    have nothing : receiver.held = [] := List.length_eq_zero_iff.mp (size.trans empty)
    rw [givenByte] at closed
    cases done
    rw [feed_skips nothing closed]
    exact ⟨⟨givenHeld, counted, packets⟩, fun origin moved => moved⟩
  · obtain ⟨advanced, longer⟩ := sync_stores counted skipped
    rw [givenHeld, givenByte] at longer
    have taken : receiver.held = [] → bit 3 byte = true := by
      intro nothing
      by_contra closed
      rw [nothing, List.length_nil] at size
      exact skipped ⟨size.symm, by rw [givenByte]; simpa using closed⟩
    by_cases complete : (sync mouse).bytesRead = 3
    · rw [if_pos complete] at done
      obtain ⟨reset, cursor, parsed⟩ := handlePacket_parsed done
      have last : receiver.held.length + 1 = 3 := by omega
      have frame := heldBytes_complete complete
      rw [longer] at frame
      rw [feed_completes taken last]
      refine ⟨⟨?_, by omega, ?_⟩, ?_⟩
      · rw [heldBytes, reset]
        rfl
      · simp only [parsed, packets, List.map_append, List.map_cons, List.map_nil, frame,
          List.reverse_append, List.reverse_cons, List.reverse_nil, List.nil_append, List.cons_append]
      · intro origin moved
        rw [cursor]
        simp only [parsePacket, parse, moved, movedBy, List.map_append, List.map_cons, List.map_nil,
          frame, List.sum_append, List.sum_cons, List.sum_nil, Int.add_zero]
        congr 1
        · rw [Int.add_assoc]
        · rw [Int.sub_sub]
    · rw [if_neg complete] at done
      have inside : receiver.held.length + 1 ≠ 3 := by omega
      cases done
      rw [feed_takes taken inside]
      refine ⟨⟨longer, ?_, packets⟩, fun origin moved => moved⟩
      change (sync mouse).bytesRead ≤ 2
      omega

/-- One call of a handler. -/
theorem perform_receives {call : HandlerCall} (received : Received start receiver s)
    (reads : call.isMouse = true → call.mouseByte.isSome = true)
    (performed : perform loaded s call = .ok next) :
    Received start (call.mouseByte.toList.foldl (feed (bit 3) 3) receiver) next ∧
      ∀ origin, call.isTimer = false → s.cursor = movedBy receiver.frames origin →
        next.cursor = movedBy (call.mouseByte.toList.foldl (feed (bit 3) 3) receiver).frames
          origin := by
  cases kind : call.isMouse with
  | false =>
      obtain ⟨mouse, parsed, cursor⟩ := perform_parsed kind performed
      have silent : call.mouseByte = none := by
        cases call with
        | keyboard ports env | timer env => rfl
        | mouse ports env => cases kind
      rw [silent]
      refine ⟨⟨mouse ▸ received.held, mouse ▸ received.count, parsed.trans received.packets⟩, ?_⟩
      intro origin quiet moved
      exact (cursor quiet).trans moved
  | true =>
      cases call with
      | keyboard ports env | timer env => cases kind
      | mouse ports env =>
          obtain ⟨byte, read⟩ := Option.isSome_iff_exists.mp (reads rfl)
          have byteRead : mouseRead ports = some byte := read
          obtain ⟨next, moves⟩ := updateMouse_receives received byteRead performed
          rw [read]
          exact ⟨next, fun origin _ => moves origin⟩

/-- A sequence of calls feeds the receiver the bytes that its mouse interrupts read. -/
theorem foldlM_receives {calls : List HandlerCall} (received : Received start receiver s)
    (reads : ∀ call ∈ calls, call.isMouse = true → call.mouseByte.isSome = true)
    (ran : calls.foldlM (perform loaded) s = .ok next) :
    Received start ((calls.filterMap HandlerCall.mouseByte).foldl (feed (bit 3) 3) receiver) next ∧
      ∀ origin, (∀ call ∈ calls, call.isTimer = false) → s.cursor = movedBy receiver.frames origin →
        next.cursor = movedBy
          ((calls.filterMap HandlerCall.mouseByte).foldl (feed (bit 3) 3) receiver).frames origin := by
  induction calls generalizing s receiver with
  | nil =>
      cases ran
      exact ⟨received, fun origin _ moved => moved⟩
  | cons call calls inductionHypothesis =>
      rw [List.foldlM_cons] at ran
      obtain ⟨middle, performed, later⟩ := bind_eq_ok.mp ran
      obtain ⟨reached, moves⟩ := perform_receives received (reads call List.mem_cons_self) performed
      obtain ⟨finished, movesOn⟩ := inductionHypothesis reached
        (fun other member => reads other (List.mem_cons_of_mem call member)) later
      have bytes : (call :: calls).filterMap HandlerCall.mouseByte =
          call.mouseByte.toList ++ calls.filterMap HandlerCall.mouseByte := by
        rw [List.filterMap_cons]
        cases call.mouseByte with
        | none => rfl
        | some byte => rfl
      rw [bytes, List.foldl_append]
      refine ⟨finished, ?_⟩
      intro origin quiet moved
      apply movesOn origin fun other member => quiet other (List.mem_cons_of_mem call member)
      exact moves origin (quiet call List.mem_cons_self) moved

end Receiving

/-- Mouse interrupts do not fault while both cursors of the game are inside the array. -/
theorem foldlM_mouse_safe {loaded : LoadedSprites} {calls : List HandlerCall}
    (pointing : ∀ call ∈ calls, call.isMouse = true) {s : State} (safe : Safe s) :
    ∃ next, calls.foldlM (perform loaded) s = .ok next := by
  induction calls generalizing s with
  | nil => exact ⟨s, rfl⟩
  | cons call calls inductionHypothesis =>
      have once : Outcome Safe NoFault (perform loaded s call) := by
        cases call with
        | keyboard ports env | timer env => cases pointing _ List.mem_cons_self
        | mouse ports env => exact (updateMouse_chain ports env s).keeps action_safe safe
      rw [List.foldlM_cons]
      cases performed : perform loaded s call with
      | error fault =>
          rw [performed] at once
          exact once.elim
      | ok next =>
          rw [performed] at once
          exact inductionHypothesis
            (fun other member => pointing other (List.mem_cons_of_mem call member)) once

/-- Packets, each behind any number of bytes without bit 3, are parsed one by one: `parse()` runs
once for each, on its three bytes and in order, no byte is held back, and without a timer interrupt
in between the cursor has moved by their displacements, as long as its coordinates, which are
integers here, fit the `int`s of the source.  Mouse interrupts alone do not fault in a safe state. -/
theorem packets_are_framed (loaded : LoadedSprites) (s : State) (aligned : s.mouse.bytesRead = 0)
    (calls : List HandlerCall) (transmissions : List MouseTransmission)
    (delivers : Delivers calls transmissions) :
    (Safe s → (∀ call ∈ calls, call.isMouse = true) →
        ∃ next, calls.foldlM (perform loaded) s = .ok next) ∧
      (∀ transmission ∈ transmissions, ∃ first second third,
        transmission.frame = [first, second, third] ∧ bit 3 first = true ∧
          DecodesTo first second third (decodeFrame transmission.frame)) ∧
      ∀ next, calls.foldlM (perform loaded) s = .ok next →
        next.mouse.bytesRead = 0 ∧
          parsedPackets next.log =
            (transmissions.map fun transmission => decodeFrame transmission.frame).reverse ++
              parsedPackets s.log ∧
          ((∀ call ∈ calls, call.isTimer = false) →
            next.cursor.x = s.cursor.x +
                (transmissions.map fun transmission =>
                  (decodeFrame transmission.frame).deltaX).sum ∧
              next.cursor.y = s.cursor.y -
                (transmissions.map fun transmission =>
                  (decodeFrame transmission.frame).deltaY).sum) := by
  refine ⟨fun safe pointing => foldlM_mouse_safe pointing safe, ?_, ?_⟩
  · rintro ⟨noise, first, tail, idle, opening, length⟩ -
    obtain ⟨second, third, rfl⟩ := List.length_eq_two.mp (Nat.succ.inj length)
    exact ⟨first, second, third, rfl, opening, decodePacket_decodesTo first second third⟩
  · intro next ran
    have nothing : heldBytes s.mouse = [] := by
      rw [heldBytes, aligned]
      rfl
    have initially : Received s ⟨[], []⟩ s := ⟨nothing, by omega, rfl⟩
    obtain ⟨received, moves⟩ := foldlM_receives initially delivers.reads ran
    rw [delivers.bytes, feed_transmissions] at received moves
    refine ⟨?_, ?_, ?_⟩
    · rw [← length_heldBytes received.count, received.held]
      rfl
    · rw [received.packets, List.nil_append, List.map_map]
      rfl
    · intro quiet
      have still : s.cursor = movedBy [] s.cursor := by
        simp [movedBy]
      have moved := moves s.cursor quiet still
      rw [List.nil_append] at moved
      rw [moved, movedBy, List.map_map, List.map_map]
      exact ⟨rfl, rfl⟩

/-- A byte that is skipped, and a packet five to the left and six up with the left button down. -/
def leftAndUp : MouseTransmission :=
  { noise := [0x07]
    head := 0x19
    tail := [0xFB, 0x06]
    idle := by
      intro byte member
      rw [List.mem_singleton.mp member]
      rfl
    opening := rfl
    length := rfl }

/-- A mouse interrupt that reads the byte. -/
def arrival (byte : UInt8) : HandlerCall :=
  .mouse { status := some 0x21, output := some byte } default

theorem left_and_up_is_framed :
    Delivers (leftAndUp.bytes.map arrival) [leftAndUp] ∧
      ∃ next, (leftAndUp.bytes.map arrival).foldlM (perform everySprite) (setup []) = .ok next ∧
        next.mouse.bytesRead = 0 ∧ next.cursor.x = (setup []).cursor.x - 5 ∧
        next.cursor.y = (setup []).cursor.y - 6 := by
  have delivers : Delivers (leftAndUp.bytes.map arrival) [leftAndUp] :=
    ⟨by decide, by decide⟩
  obtain ⟨runs, -, parsed⟩ := packets_are_framed everySprite (setup []) rfl _ _ delivers
  obtain ⟨next, ran⟩ := runs (setup_safe []) (by decide)
  obtain ⟨empty, -, moves⟩ := parsed next ran
  obtain ⟨x, y⟩ := moves (by decide)
  exact ⟨delivers, next, ran, empty, x, y⟩

end TypingTutor
