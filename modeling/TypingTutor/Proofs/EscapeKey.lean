/-
Module: TypingTutor.Proofs.EscapeKey
Layer: Proofs
Purpose: The key that the program remembers.  `currentKey` becomes ESC only by the make code of ESC, and
  a screen that is left for the menu clears it, so ESC in the menu ends the loop and ESC elsewhere leads
  to the menu.  The exception is a click on a button of the menu in the notification that brings the
  ESC: the loop goes on with ESC remembered, and a later key leaves whatever screen is then shown.
Trusted boundary: none
Main exports: rememberedKey, keyHandler_screen, updateMouse_menu, EscapeRule, escape_rule_iff,
  click_hides_escape
-/
import TypingTutor.Proofs.HeldPress

namespace TypingTutor

open Runs

/-! ### The remembered key -/

/-- What `update_keyboard` leaves in `currentKey`. -/
def rememberedKey (code : UInt8) (key : Key) : Key :=
  if bit 7 code then key
  else
    match charMap code with
    | some _ => keyMap code
    | none =>
        if code = keySpace then key
        else if code = keyEnter then .enter
        else if code = keyDelete then .back
        else if code = keyEsc then .esc
        else key

/-- No character key is ESC. -/
theorem keyMap_of_charMap {code : UInt8} {c : Char} (typed : charMap code = some c) :
    keyMap code ≠ .esc := by
  obtain ⟨row, found, -⟩ := Option.map_eq_some_iff.mp typed
  have member : row ∈ characterKeys := List.mem_of_find?_eq_some found
  have key : keyMap code = row.2.1 := by
    unfold keyMap
    rw [found]
  rw [key]
  exact (by decide : ∀ row ∈ characterKeys, row.2.1 ≠ .esc) row member

/-- ESC is remembered only by its own make code. -/
theorem rememberedKey_eq_esc {code : UInt8} {key : Key} (awake : key ≠ .esc) :
    rememberedKey code key = .esc ↔ code = keyEsc := by
  constructor
  · intro remembered
    unfold rememberedKey at remembered
    split at remembered
    · exact absurd remembered awake
    · split at remembered
      · rename_i typed
        exact absurd remembered (keyMap_of_charMap typed)
      · split_ifs at remembered with space enter delete escape
        · exact absurd remembered awake
        · exact escape
        · exact absurd remembered awake
  · rintro rfl
    rfl

section Handlers

variable {loaded : LoadedSprites}

theorem handleSpaceKey_currentKey {env : Env} {s next : State}
    (typed : handleSpaceKey loaded env s = .ok next) : next.currentKey = s.currentKey := by
  simp only [handleSpaceKey, bind_eq_ok] at typed
  obtain ⟨test, -, word, -, stats, -, typed⟩ := typed
  cases typed
  simp only [redrawWords]
  split
  · split
    · rfl
    · rfl
  · split
    · rfl
    · rfl

theorem dispatchScancode_currentKey {env : Env} {s next : State}
    (done : dispatchScancode loaded env s = .ok next) :
    next.currentKey = rememberedKey s.data s.currentKey := by
  unfold dispatchScancode at done
  unfold rememberedKey
  by_cases released : bit 7 s.data = true
  · rw [if_pos released] at done ⊢
    cases done
    rfl
  rw [if_neg released] at done ⊢
  cases typed : charMap s.data with
  | some c =>
      simp only [typed] at done
      exact processKey_currentKey done
  | none =>
      simp only [typed] at done
      split_ifs at done ⊢ with space playing enter delete playing escape
      · exact handleSpaceKey_currentKey done
      · cases done
        rfl
      · cases done
        rfl
      · exact handleDeleteKey_currentKey done
      · cases done
        rfl
      · cases done
        rfl
      · cases done
        rfl

theorem setGameState_currentKey {env : Env} {caller : Caller} {target : GameState} {s next : State}
    (changed : setGameState env caller target s = .ok next) :
    next.currentKey = if target = .menu then .noneKey else s.currentKey := by
  cases target with
  | menu | timers | instructions | highscores =>
      cases changed
      rfl
  | game =>
      rw [setGameState_game] at changed
      cases changed
      rfl
  | statistics =>
      obtain ⟨testToken, token, stats, rfl⟩ := setGameState_statistics_inv changed
      rfl

/-! ### Keys, ticks and packets -/

/-- What `key_handler` does to the screen: in the menu ENTER leads on and ESC is remembered; elsewhere
ESC leads to the menu and is forgotten. -/
theorem keyHandler_screen {ports : PortReads} {env : Env} {s next : State}
    (done : keyHandler loaded ports env s = .ok next) :
    (next.currentState, next.currentKey) =
        (if s.currentState = .menu then
          (if rememberedKey (kbcIh ports s.data) s.currentKey = .enter then .timers else .menu,
            rememberedKey (kbcIh ports s.data) s.currentKey)
        else if rememberedKey (kbcIh ports s.data) s.currentKey = .esc then (.menu, .noneKey)
        else (s.currentState, rememberedKey (kbcIh ports s.data) s.currentKey)) ∧
      next.mouse = s.mouse ∧ next.cursor = s.cursor := by
  rw [keyHandler_eq] at done
  obtain ⟨typed, updated, left⟩ := bind_eq_ok.mp done
  have remembered : typed.currentKey = rememberedKey (kbcIh ports s.data) s.currentKey :=
    dispatchScancode_currentKey updated
  have screen : typed.currentState = s.currentState ∧ typed.mouse = s.mouse ∧
      typed.cursor = s.cursor := by
    obtain ⟨_, _, _, _, _, _, rfl⟩ := updateKeyboard_typedFrom updated
    exact ⟨rfl, rfl, rfl⟩
  rw [← remembered, ← screen.1, ← screen.2.1, ← screen.2.2]
  rw [← screen.1] at left
  unfold leaveByKey at left
  split_ifs at left ⊢ with inMenu enter escape
  · have key := setGameState_currentKey left
    obtain ⟨_, _, _, _, _, _, _, rfl, -⟩ := setGameState_enteredFrom left
    exact ⟨Prod.ext rfl key, rfl, rfl⟩
  · cases left
    exact ⟨Prod.ext inMenu rfl, rfl, rfl⟩
  · obtain ⟨changed, change, cleared⟩ := bind_eq_ok.mp left
    cases cleared
    obtain ⟨_, _, _, _, _, _, _, rfl, -⟩ := setGameState_enteredFrom change
    exact ⟨rfl, rfl, rfl⟩
  · cases left
    exact ⟨rfl, rfl, rfl⟩

/-- The timer interrupt leaves a screen only when the time of a game is up, and clamps the cursor. -/
theorem timerInterrupt_screen {env : Env} {s next : State}
    (done : (updateTimer env s >>= gameDrawer loaded env) = .ok next) :
    next.currentState =
        (if s.currentState = .game ∧ s.timer = 0 then .statistics else s.currentState) ∧
      next.currentKey = s.currentKey ∧ next.mouse = s.mouse ∧ next.cursor = clampCursor s.cursor := by
  obtain ⟨ticked, updated, drawn⟩ := bind_eq_ok.mp done
  have cursor := gameDrawer_cursor drawn
  obtain ⟨_, _, _, _, _, rfl⟩ := gameDrawer_drawnFrom drawn
  change ticked.currentState = _ ∧ ticked.currentKey = _ ∧ ticked.mouse = _ ∧ _
  have kept : ticked.currentState =
      (if s.currentState = .game ∧ s.timer = 0 then .statistics else s.currentState) ∧
        ticked.currentKey = s.currentKey ∧ ticked.mouse = s.mouse ∧ ticked.cursor = s.cursor := by
    rw [updateTimer_eq] at updated
    split_ifs at updated with playing expired second
    · have key := setGameState_currentKey updated
      obtain ⟨_, _, _, _, _, _, _, rfl, -⟩ := setGameState_enteredFrom updated
      rw [if_pos ⟨playing, expired⟩]
      exact ⟨rfl, key, rfl, rfl⟩
    · cases updated
      rw [if_neg (fun both => expired both.2)]
      exact ⟨rfl, rfl, rfl, rfl⟩
    · cases updated
      rw [if_neg (fun both => expired both.2)]
      exact ⟨rfl, rfl, rfl, rfl⟩
    · cases updated
      rw [if_neg (fun both => playing both.1)]
      exact ⟨rfl, rfl, rfl, rfl⟩
  rw [← kept.2.2.2]
  exact ⟨kept.1, kept.2.1, kept.2.2.1, cursor⟩

/-- The menu is drawn without a fault. -/
theorem timerInterrupt_of_menu (env : Env) {s : State} (shown : s.currentState = .menu) :
    ∃ next, (updateTimer env s >>= gameDrawer loaded env) = .ok next := by
  have ticked : updateTimer env s = .ok (tick s) := by
    rw [updateTimer_eq, if_neg (by rw [shown]; simp)]
  have drawn : ∃ next, gameDrawer loaded env (tick s) = .ok next := by
    have screen : (tick s).currentState = .menu := shown
    have frame : ∀ s : State, s.currentState = .menu →
        drawFrame loaded env s = .ok (showCursor loaded s) := by
      intro s inMenu
      rw [drawFrame, inMenu]
    have painted : ∃ drawn, drawScreen loaded env (tick s) = .ok drawn ∧
        drawn.currentState = .menu := by
      rw [drawScreen, screen]
      exact ⟨_, rfl, rfl⟩
    rw [gameDrawer_eq]
    split
    · obtain ⟨drawn, draws, still⟩ := painted
      rw [draws]
      exact ⟨_, frame { drawn with gameStateChange := false } still⟩
    · exact ⟨_, frame _ screen⟩
  obtain ⟨next, draws⟩ := drawn
  exact ⟨next, by rw [ticked]; exact draws⟩

/-- The byte completes a packet with the left button down that puts the cursor on one of the
buttons. -/
def completesClick (buttons : List Sprite) (ports : PortReads) (mouse : Mouse) (cursor : Sprite) :
    Bool :=
  let stored := sync (mouseIh ports mouse)
  stored.bytesRead == 3 && (decodePacket stored.ppBytes).lb &&
    buttons.any fun button => button.covers (movedCursor stored.ppBytes cursor)

/-- In the menu `update_mouse` leaves the screen exactly when it completes a click on a button. -/
theorem updateMouse_menu (ports : PortReads) (env : Env) {s : State} (shown : s.currentState = .menu) :
    ∃ next, updateMouse loaded ports env s = .ok next ∧ next.currentKey = s.currentKey ∧
      (next.currentState ≠ .menu ↔
        completesClick [playSprite, instructionsSprite, highscoresSprite] ports s.mouse s.cursor =
          true) := by
  rw [updateMouse_eq, completesClick]
  generalize sync (mouseIh ports s.mouse) = stored
  by_cases full : stored.bytesRead = 3
  · rw [if_pos full, handlePacket_eq]
    simp only [full, beq_self_eq_true, Bool.true_and]
    generalize moved : (parsePacket { s with mouse := stored }).record
      (.parse (parsePacket { s with mouse := stored }).mouse.pp) = parsed
    have screen : parsed.currentState = .menu := by
      rw [← moved]
      exact shown
    have key : parsed.currentKey = s.currentKey := by
      rw [← moved]
      rfl
    have level : parsed.mouse.pp.lb = (decodePacket stored.ppBytes).lb := by
      rw [← moved]
      rfl
    have place : parsed.cursor = movedCursor stored.ppBytes s.cursor := by
      rw [← moved]
      rfl
    have buttons : buttonsShown parsed = [playSprite, instructionsSprite, highscoresSprite] := by
      rw [buttonsShown, screen]
    have clicked : (hitButton env parsed).isSome = true ↔
        ((decodePacket stored.ppBytes).lb && [playSprite, instructionsSprite, highscoresSprite].any
          fun button => button.covers (movedCursor stored.ppBytes s.cursor)) = true := by
      rw [← level, ← place, ← buttons]
      cases down : parsed.mouse.pp.lb with
      | true => rw [isSome_hitButton env down, Bool.true_and]
      | false =>
          have missed : hitButton env parsed = none := by
            rw [hitButton, List.find?_eq_none]
            intro button _
            simp [pressedButton, down]
          simp [missed]
    rw [checkActions_eq loaded env (by rw [screen]; simp)]
    cases hit : hitButton env parsed with
    | none =>
        rw [hit] at clicked
        refine ⟨_, rfl, key, fun left => absurd screen left, fun click => ?_⟩
        exact absurd (clicked.mpr click) (by simp)
    | some button =>
        rw [hit] at clicked
        have member : button ∈ screenButtons env parsed := List.mem_of_find?_eq_some hit
        simp only [screenButtons, screen, List.mem_cons, List.not_mem_nil, or_false] at member
        rcases member with rfl | rfl | rfl
        · exact ⟨_, rfl, key, fun _ => clicked.mp rfl, fun _ => by simp⟩
        · exact ⟨_, rfl, key, fun _ => clicked.mp rfl, fun _ => by simp⟩
        · exact ⟨_, rfl, key, fun _ => clicked.mp rfl, fun _ => by simp⟩
  · rw [if_neg full]
    have short : (stored.bytesRead == 3) = false := beq_eq_false_iff_ne.mpr full
    exact ⟨_, rfl, rfl, by simp [shown, short]⟩

/-- `update_mouse` keeps the remembered key or forgets it. -/
theorem updateMouse_currentKey {ports : PortReads} {env : Env} {s next : State}
    (done : updateMouse loaded ports env s = .ok next) :
    next.currentKey = s.currentKey ∨ next.currentKey = .noneKey := by
  obtain ⟨_, _, _, _, _, _, _, _, _, _, _, _, _, _, _, key, rfl⟩ := updateMouse_pointedFrom done
  exact key

/-! ### One notification -/

/-- `update_keyboard` processes the make code of ESC. -/
def processesEscape (s : State) (message : Notification) : Bool :=
  message.keyboard.any fun call => kbcIh call.1 s.data == keyEsc

/-- The notification completes a click on a button of the menu; a timer interrupt clamps the cursor
first. -/
def clicksMenuButton (s : State) (message : Notification) : Bool :=
  message.mouse.any fun call =>
    completesClick [playSprite, instructionsSprite, highscoresSprite] call.1 s.mouse
      (if message.timer.isSome then clampCursor s.cursor else s.cursor)

/-- The loop ends after a notification exactly when it brings ESC to the menu, and `key_handler` leaves
another screen for the menu only at ESC. -/
structure EscapeRule (loaded : LoadedSprites) (s : State) (message : Notification) : Prop where
  ends : ∀ next, handleNotification loaded message s = .ok next →
    (exitRequested next = true ↔ s.currentState = .menu ∧ processesEscape s message = true)
  leaves : ∀ ports env next, message.keyboard = some (ports, env) → s.currentState ≠ .menu →
    keyHandler loaded ports env s = .ok next → next.currentState = .menu →
    kbcIh ports s.data = keyEsc

/-- ESC is remembered at most in the menu, where the loop ends. -/
def EscapesInMenu (s : State) : Prop := s.currentKey = .esc → s.currentState = .menu

theorem exitRequested_iff {s : State} :
    exitRequested s = true ↔ s.currentState = .menu ∧ s.currentKey = .esc := by
  rw [exitRequested, Bool.and_eq_true, beq_iff_eq, beq_iff_eq]

/-- After the keyboard's part: ESC is remembered exactly when it came in the menu, which is still
shown. -/
theorem serveKeyboard_escape {message : Notification} {s next : State} (awake : s.currentKey ≠ .esc)
    (served : serveKeyboard loaded message s = .ok next) :
    (next.currentKey = .esc ↔ s.currentState = .menu ∧ processesEscape s message = true) ∧
      (next.currentKey = .esc → next.currentState = .menu) ∧ next.mouse = s.mouse ∧
      next.cursor = s.cursor := by
  unfold serveKeyboard at served
  unfold processesEscape
  cases call : message.keyboard with
  | none =>
      rw [call] at served
      cases served
      exact ⟨by simp [awake], fun escaped => absurd escaped awake, rfl, rfl⟩
  | some devices =>
      rw [call] at served
      obtain ⟨screen, mouse, cursor⟩ := keyHandler_screen served
      have remembered := @rememberedKey_eq_esc (kbcIh devices.1 s.data) s.currentKey awake
      rw [Option.any_some, beq_iff_eq, ← remembered]
      generalize rememberedKey (kbcIh devices.1 s.data) s.currentKey = key at screen
      by_cases inMenu : s.currentState = .menu
      · rw [if_pos inMenu, Prod.mk.injEq] at screen
        obtain ⟨screen, remembers⟩ := screen
        refine ⟨by simp [remembers, inMenu], fun escaped => ?_, mouse, cursor⟩
        rw [remembers] at escaped
        rw [screen, escaped]
        rfl
      · rw [if_neg inMenu] at screen
        have forgotten : next.currentKey ≠ .esc := by
          split at screen
          · rw [(Prod.mk.inj screen).2]
            simp
          · rename_i other
            rw [(Prod.mk.inj screen).2]
            exact other
        exact ⟨by simp [forgotten, inMenu], fun escaped => absurd escaped forgotten, mouse, cursor⟩

/-- The timer's part keeps the menu and the remembered key. -/
theorem serveTimer_escape {message : Notification} {s next : State}
    (served : serveTimer loaded message s = .ok next) :
    next.currentKey = s.currentKey ∧ (s.currentState = .menu → next.currentState = .menu) ∧
      next.mouse = s.mouse ∧
      next.cursor = if message.timer.isSome then clampCursor s.cursor else s.cursor := by
  unfold serveTimer at served
  cases call : message.timer with
  | none =>
      rw [call] at served
      cases served
      exact ⟨rfl, id, rfl, rfl⟩
  | some env =>
      rw [call] at served
      obtain ⟨screen, key, mouse, cursor⟩ := timerInterrupt_screen served
      refine ⟨key, fun shown => ?_, mouse, cursor⟩
      rw [screen, if_neg (by rw [shown]; simp), shown]

/-- The mouse's part in the menu. -/
theorem serveMouse_menu (message : Notification) {s : State} (shown : s.currentState = .menu) :
    ∃ next, serveMouse loaded message s = .ok next ∧ next.currentKey = s.currentKey ∧
      (next.currentState ≠ .menu ↔
        (message.mouse.any fun call =>
          completesClick [playSprite, instructionsSprite, highscoresSprite] call.1 s.mouse s.cursor) =
            true) := by
  unfold serveMouse
  cases message.mouse with
  | none => exact ⟨s, rfl, rfl, by simp [shown]⟩
  | some call => exact updateMouse_menu call.1 call.2 shown

theorem serveMouse_currentKey {message : Notification} {s next : State}
    (served : serveMouse loaded message s = .ok next) :
    next.currentKey = s.currentKey ∨ next.currentKey = .noneKey := by
  unfold serveMouse at served
  cases call : message.mouse with
  | none =>
      rw [call] at served
      cases served
      exact .inl rfl
  | some devices =>
      rw [call] at served
      exact updateMouse_currentKey served

theorem serveKeyboard_of_escape {message : Notification} {s : State} (shown : s.currentState = .menu)
    (escape : processesEscape s message = true) :
    ∃ next, serveKeyboard loaded message s = .ok next := by
  obtain ⟨call, keyboard, code⟩ := (Option.any_eq_true _ _).mp escape
  have escaped : updateKeyboard loaded call.1 call.2 s =
      .ok { s with data := kbcIh call.1 s.data, currentKey := .esc } := by
    have plain : bit 7 keyEsc = false ∧ charMap keyEsc = none ∧ keyEsc ≠ keySpace ∧
        keyEsc ≠ keyEnter ∧ keyEsc ≠ keyDelete := by decide
    rw [updateKeyboard, beq_iff_eq.mp code]
    simp [dispatchScancode, plain]
  refine ⟨{ s with data := kbcIh call.1 s.data, currentKey := .esc }, ?_⟩
  unfold serveKeyboard
  rw [keyboard]
  change keyHandler loaded call.1 call.2 s = _
  rw [keyHandler_eq, escaped, shown]
  rfl

/-- ESC in the menu: keyboard and timer leave the menu shown with ESC remembered, so the screen after
the notification is up to the mouse. -/
theorem handleNotification_escape {message : Notification} {s : State}
    (awake : s.currentKey ≠ .esc) (shown : s.currentState = .menu)
    (escape : processesEscape s message = true) :
    ∃ next, handleNotification loaded message s = .ok next ∧ next.currentKey = .esc ∧
      (next.currentState ≠ .menu ↔ clicksMenuButton s message = true) := by
  obtain ⟨typed, served⟩ := @serveKeyboard_of_escape loaded message s shown escape
  obtain ⟨remembered, inMenu, mouse, cursor⟩ := serveKeyboard_escape awake served
  have escaped := remembered.mpr ⟨shown, escape⟩
  obtain ⟨ticked, ticking⟩ : ∃ ticked, serveTimer loaded message typed = .ok ticked := by
    unfold serveTimer
    cases message.timer with
    | none => exact ⟨typed, rfl⟩
    | some env => exact timerInterrupt_of_menu env (inMenu escaped)
  obtain ⟨key, stays, sameMouse, clamped⟩ := serveTimer_escape ticking
  obtain ⟨next, clicking, sameKey, leaves⟩ := serveMouse_menu message (stays (inMenu escaped))
  refine ⟨next, ?_, ?_, ?_⟩
  · rw [handleNotification_eq, served]
    change serveTimer loaded message typed >>= serveMouse loaded message = _
    rw [ticking]
    exact clicking
  · rw [sameKey, key, escaped]
  · rw [leaves, sameMouse, clamped, mouse, cursor, clicksMenuButton]

/-- Any other notification leaves ESC unremembered. -/
theorem handleNotification_awake {message : Notification} {s next : State}
    (awake : s.currentKey ≠ .esc)
    (other : ¬ (s.currentState = .menu ∧ processesEscape s message = true))
    (handled : handleNotification loaded message s = .ok next) : next.currentKey ≠ .esc := by
  rw [handleNotification_eq] at handled
  obtain ⟨typed, served, handled⟩ := bind_eq_ok.mp handled
  obtain ⟨ticked, ticking, clicking⟩ := bind_eq_ok.mp handled
  have unescaped : typed.currentKey ≠ .esc := mt (serveKeyboard_escape awake served).1.mp other
  have key := (serveTimer_escape ticking).1
  rcases serveMouse_currentKey clicking with same | none
  · rw [same, key]
    exact unescaped
  · rw [none]
    simp

end Handlers

/-! ### Whole runs -/

/-- While the loop goes on, its rounds follow the rule. -/
def FollowsEscapeRule (loaded : LoadedSprites) (s : State) (message : Notification) : Prop :=
  exitRequested s = false → EscapeRule loaded s message

/-- While the loop goes on, no notification brings ESC to the menu and completes a click on one of its
buttons. -/
def NoClickWithEscape (s : State) (message : Notification) : Prop :=
  exitRequested s = false → s.currentState = .menu → processesEscape s message = true →
    clicksMenuButton s message = false

/-- A remembered ESC means that the loop has ended. -/
theorem awake_of_escapesInMenu {s : State} (escapes : EscapesInMenu s)
    (running : exitRequested s = false) : s.currentKey ≠ .esc := by
  intro escaped
  rw [exitRequested_iff.mpr ⟨escapes escaped, escaped⟩] at running
  cases running

theorem mainLoopStep_escapesInMenu {loaded : LoadedSprites} {s next : State} {message : Notification}
    (escapes : EscapesInMenu s) (guarded : NoClickWithEscape s message)
    (stepped : mainLoopStep loaded s message = .ok next) : EscapesInMenu next := by
  unfold mainLoopStep at stepped
  split at stepped
  · cases stepped
    exact escapes
  rename_i running
  rw [Bool.not_eq_true] at running
  have awake := awake_of_escapesInMenu escapes running
  by_cases escape : s.currentState = .menu ∧ processesEscape s message = true
  · obtain ⟨other, handled, key, leaves⟩ := handleNotification_escape awake escape.1 escape.2
    obtain rfl : other = next := Except.ok.inj (handled.symm.trans stepped)
    have unclicked := guarded running escape.1 escape.2
    intro _
    by_contra left
    rw [leaves.mp left] at unclicked
    cases unclicked
  · intro escaped
    exact absurd escaped (handleNotification_awake awake escape stepped)

/-- The rule holds of a notification that does not hide its ESC behind a click. -/
theorem escapeRule_of_noClick {loaded : LoadedSprites} {s : State} {message : Notification}
    (escapes : EscapesInMenu s) (guarded : NoClickWithEscape s message) :
    FollowsEscapeRule loaded s message := by
  intro running
  have awake := awake_of_escapesInMenu escapes running
  constructor
  · intro next handled
    by_cases escape : s.currentState = .menu ∧ processesEscape s message = true
    · obtain ⟨other, done, key, leaves⟩ := handleNotification_escape awake escape.1 escape.2
      obtain rfl : other = next := Except.ok.inj (done.symm.trans handled)
      have unclicked := guarded running escape.1 escape.2
      have shown : other.currentState = .menu := by
        by_contra left
        rw [leaves.mp left] at unclicked
        cases unclicked
      exact ⟨fun _ => escape, fun _ => exitRequested_iff.mpr ⟨shown, key⟩⟩
    · have still := handleNotification_awake awake escape handled
      exact ⟨fun ended => absurd (exitRequested_iff.mp ended).2 still,
        fun both => absurd both escape⟩
  · intro ports env next _ outside typed shown
    obtain ⟨screen, -, -⟩ := keyHandler_screen typed
    rw [if_neg outside] at screen
    by_contra other
    rw [if_neg (mt (rememberedKey_eq_esc awake).mp other)] at screen
    exact outside ((Prod.mk.inj screen).1.symm.trans shown)

/-- A notification that follows the rule does not hide its ESC behind a click. -/
theorem noClick_of_escapeRule {loaded : LoadedSprites} {s : State} {message : Notification}
    (escapes : EscapesInMenu s) (rule : FollowsEscapeRule loaded s message) :
    NoClickWithEscape s message := by
  intro running shown escape
  have awake := awake_of_escapesInMenu escapes running
  obtain ⟨next, handled, -, leaves⟩ := handleNotification_escape awake shown escape
  have ended := ((rule running).ends next handled).mpr ⟨shown, escape⟩
  by_contra clicked
  rw [Bool.not_eq_false] at clicked
  exact leaves.mpr clicked (exitRequested_iff.mp ended).1

/-- In every run of the main loop: its rounds end exactly at the notification that brings ESC to the
menu, and key presses leave other screens for the menu only at ESC, if and only if no notification
brings ESC to the menu together with the last byte of a click on one of its buttons. -/
theorem escape_rule_iff (loaded : LoadedSprites) (file : List Char) (messages : List Notification) :
    Along (mainLoopStep loaded) (FollowsEscapeRule loaded) (setup file) messages ↔
      Along (mainLoopStep loaded) NoClickWithEscape (setup file) messages := by
  have initially : EscapesInMenu (setup file) := fun _ => rfl
  constructor
  · intro follows
    refine along_of_along ?_ (fun s message => noClick_of_escapeRule) initially follows
    intro s message next escapes rule stepped
    exact mainLoopStep_escapesInMenu escapes (noClick_of_escapeRule escapes rule) stepped
  · intro guarded
    exact along_of_along (fun s message next => mainLoopStep_escapesInMenu)
      (fun s message => escapeRule_of_noClick) initially guarded

/-- The last byte of a click on PLAY, in the notification that brings ESC. -/
def escapeWithClick : Notification :=
  { keyPress keyEsc with mouse := some ({ status := some 0x21, output := some 236 }, default) }

/-- The loop goes on in the screen that PLAY leads to, and the space bar then leaves that screen for the
menu. -/
theorem click_hides_escape :
    ¬ Along (mainLoopStep everySprite) (FollowsEscapeRule everySprite) (setup [])
        [mouseByte 0x29, mouseByte 0, escapeWithClick, keyPress keySpace] ∧
      (run everySprite [] [mouseByte 0x29, mouseByte 0, escapeWithClick]).map (·.currentState) =
        .ok .timers ∧
      (run everySprite []
          [mouseByte 0x29, mouseByte 0, escapeWithClick, keyPress keySpace]).map (·.currentState) =
        .ok .menu := by
  refine ⟨?_, by decide +kernel, by decide +kernel⟩
  intro follows
  have checked : ([mouseByte 0x29, mouseByte 0].foldlM (mainLoopStep everySprite)
      (setup [])).toOption.any (fun s => !exitRequested s && s.currentState == .menu &&
        processesEscape s escapeWithClick &&
        (handleNotification everySprite escapeWithClick s).toOption.any
          (fun next => !exitRequested next)) = true := by
    decide +kernel
  obtain ⟨s, reached, facts⟩ := exists_ok_of_any checked
  simp only [Bool.and_eq_true, Bool.not_eq_true', beq_iff_eq] at facts
  obtain ⟨⟨⟨running, shown⟩, escape⟩, goesOn⟩ := facts
  obtain ⟨next, handled, still⟩ := exists_ok_of_any goesOn
  have rule := @guard_of_along _ _ _ _ _ [mouseByte 0x29, mouseByte 0] _ _ _ _ follows reached running
  rw [(rule.ends next handled).mpr ⟨shown, escape⟩] at still
  cases still

end TypingTutor
