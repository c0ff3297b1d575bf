/-
Module: TypingTutor.Proofs.HeldPress
Layer: Proofs
Purpose: A left button that is held down.  `pressed_button` looks at the level of the button, so every
  packet of a press is a click of its own.  The screen is changed once for each packet that finds the
  cursor on a button of the screen then shown, and at no other packet.
Trusted boundary: none
Main exports: PressEvent, pressStep, buttonCalls, buttonsShown, hits, packet_of_interrupts,
  one_call_per_hit, held_press_falls_through
-/
import TypingTutor.Proofs.WordCursor

namespace TypingTutor

open Runs

/-! ### A press -/

/-- What happens while the button is held: complete mouse packets, and timer interrupts. -/
inductive PressEvent where
  | packet (bytes : UInt8 × UInt8 × UInt8) (env : Env)
  | tick (env : Env)

/-- The packets of the press have the left button down. -/
def PressEvent.Pressed : PressEvent → Prop
  | .packet bytes _ => bit 0 bytes.1 = true
  | .tick _ => True

/-- The globals of the driver when the third byte has been stored. -/
def assembled (bytes : UInt8 × UInt8 × UInt8) (s : State) : State :=
  { s with
    mouse := { s.mouse with byteReceived := bytes.2.2, bytesRead := 3, ppBytes := bytes } }

def pressStep (loaded : LoadedSprites) (s : State) : PressEvent → Except Fault State
  | .packet bytes env => handlePacket loaded env (assembled bytes s)
  | .tick env => updateTimer env s >>= gameDrawer loaded env

/-- A packet is what three interrupts of `update_mouse` make of its bytes. -/
theorem packet_of_interrupts (loaded : LoadedSprites) (env : Env) {s : State}
    (first second third : UInt8) (aligned : s.mouse.bytesRead = 0) (starts : bit 3 first = true) :
    [first, second, third].foldlM
        (fun s byte => updateMouse loaded { status := some 0x21, output := some byte } env s) s =
      pressStep loaded s (.packet (first, second, third) env) := by
  have reads : ∀ (byte : UInt8) (mouse : Mouse),
      mouseIh { status := some 0x21, output := some byte } mouse =
        { mouse with byteReceived := byte } := by
    intro byte mouse
    have status : bit 7 0x21 = false ∧ bit 6 0x21 = false ∧ bit 0 0x21 = true ∧
        bit 5 0x21 = true := by decide
    simp [mouseIh, mouseRead, status]
  have one : updateMouse loaded { status := some 0x21, output := some first } env s =
      .ok { s with
        mouse := ⟨first, 1, (first, s.mouse.ppBytes.2.1, s.mouse.ppBytes.2.2), s.mouse.pp⟩ } := by
    simp [updateMouse, reads, sync, aligned, starts]
  have two : ∀ rest, updateMouse loaded { status := some 0x21, output := some second } env
      { s with mouse := ⟨first, 1, (first, rest), s.mouse.pp⟩ } =
        .ok { s with mouse := ⟨second, 2, (first, second, rest.2), s.mouse.pp⟩ } := by
    intro rest
    simp [updateMouse, reads, sync]
  have three : ∀ last, updateMouse loaded { status := some 0x21, output := some third } env
      { s with mouse := ⟨second, 2, (first, second, last), s.mouse.pp⟩ } =
        handlePacket loaded env (assembled (first, second, third) s) := by
    intro last
    simp [updateMouse, reads, sync, assembled]
  have unfolded : [first, second, third].foldlM
      (fun s byte => updateMouse loaded { status := some 0x21, output := some byte } env s) s =
        updateMouse loaded { status := some 0x21, output := some first } env s >>= fun s =>
          updateMouse loaded { status := some 0x21, output := some second } env s >>= fun s =>
            updateMouse loaded { status := some 0x21, output := some third } env s := by
    simp
  simp only [unfolded, one, two, three, bind, Except.bind]
  rfl

/-! ### Buttons under the cursor -/

/-- The point of the cursor lies on the sprite. -/
def Sprite.covers (button cursor : Sprite) : Bool :=
  decide (button.x ≤ cursor.x) && decide (cursor.x ≤ button.x + button.width) &&
    decide (button.y ≤ cursor.y) && decide (cursor.y ≤ button.y + button.height)

/-- The buttons of the screen that is shown. -/
def buttonsShown (s : State) : List Sprite :=
  match s.currentState with
  | .menu => [playSprite, instructionsSprite, highscoresSprite]
  | .timers => [timer15Sprite, timer30Sprite, timer60Sprite]
  | .statistics => [backToMenuSprite, playAgainSprite]
  | .highscores => [s.backToMenuHighscore]
  | .game | .instructions => []

/-- The cursor after a packet. -/
def movedCursor (bytes : UInt8 × UInt8 × UInt8) (cursor : Sprite) : Sprite :=
  { cursor with
    x := cursor.x + (decodePacket bytes).deltaX
    y := cursor.y - (decodePacket bytes).deltaY }

/-- The packet finds the cursor on a button of the screen shown. -/
def PressEvent.onButton (event : PressEvent) (s : State) : Bool :=
  match event with
  | .packet bytes _ => (buttonsShown s).any fun button => button.covers (movedCursor bytes s.cursor)
  | .tick _ => false

/-- The packets of a press that find the cursor on a button. -/
def hits (loaded : LoadedSprites) : State → List PressEvent → Nat
  | _, [] => 0
  | s, event :: events =>
      (if event.onButton s then 1 else 0) +
        match pressStep loaded s event with
        | .ok next => hits loaded next events
        | .error _ => 0

/-! ### Calls of `setGameState` made by `checkActions` -/

def isButtonCall : Call → Bool
  | .setGameState .checkActions _ _ _ _ => true
  | _ => false

def buttonCalls (log : List Call) : Nat := log.countP isButtonCall

/-- A screen change counts as one call of its caller. -/
theorem buttonCalls_setGameState {env : Env} {caller : Caller} {target : GameState} {s next : State}
    (changed : setGameState env caller target s = .ok next) :
    buttonCalls next.log = buttonCalls s.log + if caller = .checkActions then 1 else 0 := by
  obtain ⟨_, _, _, _, _, _, made, rfl, others⟩ := setGameState_enteredFrom changed
  have silent : made.countP isButtonCall = 0 := by
    rw [List.countP_eq_zero]
    intro call member
    have other := others call member
    cases call with
    | setGameState => cases other
    | initializeTest | initializeStats | destroyTest | destroyStats | updateHighScores
    | loadHighScores | parse | checkGesture => simp [isButtonCall]
  change (made ++ _ :: s.log).countP isButtonCall = _
  rw [List.countP_append, silent, List.countP_cons, Nat.zero_add]
  cases caller with
  | setup | updateTimer | checkActions | keyHandler => rfl

/-- The action makes one call. -/
def CallsOnce (action : State → Except Fault State) : Prop :=
  ∀ s next, action s = .ok next → buttonCalls next.log = buttonCalls s.log + 1

theorem screenButtons_callOnce (env : Env) (s : State) :
    ∀ button ∈ screenButtons env s, CallsOnce button.2 := by
  have change : ∀ target, CallsOnce (setGameState env .checkActions target) :=
    fun target s next changed => buttonCalls_setGameState changed
  apply forall_screenButtons change
  · intro seconds s next changed
    exact change .game { s with timer := seconds } next changed
  · intro s next done
    obtain ⟨middle, changed, freed⟩ := bind_eq_ok.mp done
    rw [← change .menu s middle changed]
    obtain ⟨stats, -, returned⟩ := bind_eq_ok.mp freed
    cases returned
    simp [buttonCalls, isButtonCall]

theorem screenButtons_sprites (env : Env) (s : State) :
    (screenButtons env s).map Prod.fst = buttonsShown s := by
  rw [screenButtons, buttonsShown]
  cases s.currentState with
  | menu | instructions | statistics | game | timers | highscores => rfl

/-- With the button down, a button is hit exactly when it covers the cursor. -/
theorem isSome_hitButton (env : Env) {s : State} (pressed : s.mouse.pp.lb = true) :
    (hitButton env s).isSome = (buttonsShown s).any fun button => button.covers s.cursor := by
  have covered : ∀ button, pressedButton button s = button.covers s.cursor := by
    intro button
    simp [pressedButton, Sprite.covers, pressed]
  rw [hitButton, List.isSome_find?, ← screenButtons_sprites env s, List.any_map]
  simp only [covered]
  rfl

/-! ### One event -/

section Steps

variable {loaded : LoadedSprites}

/-- `checkActions` makes a call when a button is hit; in a game there are no buttons. -/
theorem buttonCalls_checkActions {env : Env} {s next : State} (pressed : s.mouse.pp.lb = true)
    (acted : checkActions loaded env s = .ok next) :
    buttonCalls next.log = buttonCalls s.log +
      if (buttonsShown s).any fun button => button.covers s.cursor then 1 else 0 := by
  by_cases playing : s.currentState = .game
  · have none : buttonsShown s = [] := by
      rw [buttonsShown, playing]
    rw [checkActions_game env playing] at acted
    obtain ⟨_, _, _, _, _, _, _, rfl⟩ := checkGesture_gesturedFrom acted
    rw [none]
    simp [buttonCalls, isButtonCall]
  · rw [checkActions_eq loaded env playing] at acted
    rw [← isSome_hitButton env pressed]
    cases hit : hitButton env s with
    | none =>
        rw [hit] at acted
        cases acted
        rfl
    | some button =>
        rw [hit] at acted
        exact screenButtons_callOnce env s button (List.mem_of_find?_eq_some hit) s next acted

theorem buttonCalls_tick {env : Env} {s next : State}
    (ticked : (updateTimer env s >>= gameDrawer loaded env) = .ok next) :
    buttonCalls next.log = buttonCalls s.log := by
  obtain ⟨middle, updated, drawn⟩ := bind_eq_ok.mp ticked
  obtain ⟨_, _, _, _, _, rfl⟩ := gameDrawer_drawnFrom drawn
  change buttonCalls middle.log = buttonCalls s.log
  rw [updateTimer_eq] at updated
  split_ifs at updated
  · exact buttonCalls_setGameState updated
  · cases updated
    rfl
  · cases updated
    rfl
  · cases updated
    rfl

/-- An event of a press goes through, and makes one call if it finds the cursor on a button. -/
theorem pressStep_calls {s : State} (safe : Safe s) (event : PressEvent) (pressed : event.Pressed) :
    ∃ next, pressStep loaded s event = .ok next ∧ Safe next ∧
      buttonCalls next.log = buttonCalls s.log + if event.onButton s then 1 else 0 := by
  have ends : Outcome Safe NoFault (pressStep loaded s event) := by
    cases event with
    | packet bytes env =>
        have ready : Safe (assembled bytes s) := safe
        exact (handlePacket_chain env (assembled bytes s)).keeps action_safe ready
    | tick env => exact (timerInterrupt_chain env s).keeps action_safe safe
  cases stepped : pressStep loaded s event with
  | error fault =>
      rw [stepped] at ends
      exact ends.elim
  | ok next =>
      rw [stepped] at ends
      refine ⟨next, rfl, ends, ?_⟩
      cases event with
      | tick env => exact buttonCalls_tick stepped
      | packet bytes env =>
          rw [pressStep, handlePacket_eq] at stepped
          obtain ⟨acted, acting, returned⟩ := bind_eq_ok.mp stepped
          cases returned
          change buttonCalls acted.log = _
          -- The log has a `parse` call more when `checkActions` starts.
          generalize moved : (parsePacket (assembled bytes s)).record
            (.parse (parsePacket (assembled bytes s)).mouse.pp) = parsed at acting
          have log : buttonCalls parsed.log = buttonCalls s.log := by
            rw [← moved]
            simp [buttonCalls, isButtonCall, State.record, parsePacket, assembled]
          have level : parsed.mouse.pp.lb = true := by
            rw [← moved]
            exact pressed
          have place : (buttonsShown parsed).any (fun button => button.covers parsed.cursor) =
              PressEvent.onButton (.packet bytes env) s := by
            rw [← moved]
            rfl
          rw [← log, ← place]
          exact buttonCalls_checkActions level acting

end Steps

/-! ### Whole presses -/

theorem press_calls {loaded : LoadedSprites} (events : List PressEvent) :
    ∀ s, Safe s → (∀ event ∈ events, event.Pressed) →
      ∃ finish, events.foldlM (pressStep loaded) s = .ok finish ∧
        buttonCalls finish.log = buttonCalls s.log + hits loaded s events := by
  induction events with
  | nil =>
      intro s _ _
      exact ⟨s, rfl, rfl⟩
  | cons event events inductionHypothesis =>
      intro s safe pressed
      obtain ⟨next, stepped, safeNext, calls⟩ :=
        @pressStep_calls loaded s safe event (pressed event List.mem_cons_self)
      obtain ⟨finish, ran, later⟩ := inductionHypothesis next safeNext
        fun other member => pressed other (List.mem_cons_of_mem event member)
      refine ⟨finish, ?_, ?_⟩
      · rw [List.foldlM_cons, stepped]
        exact ran
      · rw [later, calls, hits, stepped, Nat.add_assoc]

/-- A reachable state outside games can be continued safely. -/
theorem safe_outside {loaded : LoadedSprites} {file : List Char} {messages : List Notification}
    {s : State} (reached : run loaded file messages = .ok s) (outside : s.currentState ≠ .game) :
    Safe s := by
  have ledger := run_ledger loaded file messages
  rw [reached] at ledger
  refine ⟨ledger, ?_⟩
  intro playing
  exact absurd playing outside

/-- From every reachable state outside a game, a held press runs through without a fault, and
`checkActions` calls `setGameState` exactly once for every packet that finds the cursor on a button of
the screen shown at that packet, and not for any other; so at most once for each packet. -/
theorem one_call_per_hit (loaded : LoadedSprites) (file : List Char) (messages : List Notification)
    (s : State) (reached : run loaded file messages = .ok s) (outside : s.currentState ≠ .game)
    (events : List PressEvent) (pressed : ∀ event ∈ events, event.Pressed) :
    ∃ finish, events.foldlM (pressStep loaded) s = .ok finish ∧
      buttonCalls finish.log = buttonCalls s.log + hits loaded s events :=
  press_calls events s (safe_outside reached outside) pressed

/-- From the menu: the press moves the cursor onto PLAY and stays there. -/
def pressOnPlay : List PressEvent :=
  [.packet (0x29, 0, 206) default, .packet (0x09, 0, 0) default]

theorem pressOnPlay_pressed : ∀ event ∈ pressOnPlay, event.Pressed := by
  intro event member
  simp only [pressOnPlay, List.mem_cons, List.not_mem_nil, or_false] at member
  rcases member with rfl | rfl
  · exact (by decide : bit 0 0x29 = true)
  · exact (by decide : bit 0 0x09 = true)

theorem one_call_per_hit_on_play :
    run everySprite [] [] = .ok (setup []) ∧ (setup []).currentState ≠ .game ∧
      ∃ finish, pressOnPlay.foldlM (pressStep everySprite) (setup []) = .ok finish ∧
        buttonCalls finish.log =
          buttonCalls (setup []).log + hits everySprite (setup []) pressOnPlay :=
  ⟨rfl, by decide, one_call_per_hit everySprite [] [] (setup []) rfl (by decide) pressOnPlay
    pressOnPlay_pressed⟩

/-- The press falls through: PLAY leads to the screen of the timers, which has a timer at the same
place, and the second packet starts a game. -/
theorem held_press_falls_through :
    run everySprite [] [] = .ok (setup []) ∧ (setup []).currentState ≠ .game ∧
      (∀ event ∈ pressOnPlay, event.Pressed) ∧
      ∃ finish, pressOnPlay.foldlM (pressStep everySprite) (setup []) = .ok finish ∧
        buttonCalls finish.log = buttonCalls (setup []).log + 2 := by
  refine ⟨rfl, by decide, pressOnPlay_pressed, ?_⟩
  have checked : (pressOnPlay.foldlM (pressStep everySprite) (setup [])).toOption.any
      (fun finish => buttonCalls finish.log == buttonCalls (setup []).log + 2) = true := by
    decide +kernel
  obtain ⟨finish, ran, calls⟩ := exists_ok_of_any checked
  exact ⟨finish, ran, beq_iff_eq.mp calls⟩

end TypingTutor
