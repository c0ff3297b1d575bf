/-
Module: TypingTutor.Proofs.Actions
Layer: Proofs
Purpose: What the handlers can do, said once.  Every handler of the main loop is a chain of atomic
  actions: screen changes with the state and timer in which they happen, edits of the typing test,
  gestures, the countdown, and steps that touch drawing and driver state only.  Invariants of whole
  runs are then checked action by action.
Trusted boundary: none
Main exports: Action, Step, dispatchScancode_cases, TypedFrom, DrawnFrom, timerInterrupt_chain,
  updateMouse_inv, updateMouse_chain, keyHandler_chain, run_chain
-/
import TypingTutor.Proofs.Screens

namespace TypingTutor

open Runs

/-! ### Atomic actions -/

/-- A game has live objects, and its statistics outlive it until they have been shown. -/
structure Core.Live (core : Core) : Prop where
  game : core.currentState = .game → ∃ testToken statsToken game, core.Holds testToken statsToken game
  statistics : core.currentState = .statistics → ∃ token stats, core.stats = .live token stats

/-- The screens that a plain button leads to. -/
inductive ButtonLeads : GameState → GameState → Prop where
  | play : ButtonLeads .menu .timers
  | instructions : ButtonLeads .menu .instructions
  | highscores : ButtonLeads .menu .highscores
  | playAgain : ButtonLeads .statistics .timers
  | back : ButtonLeads .highscores .menu

/-- What a handler can do in one go, apart from the space key.  Nothing is said about states whose
objects are dead; no run reaches one. -/
inductive Action (loaded : LoadedSprites) : State → Except Fault State → Prop where
  | dead {s : State} {outcome : Except Fault State} (dead : ¬ s.core.Live) : Action loaded s outcome
  | frame {s next : State} (same : next.core = s.core) : Action loaded s (.ok next)
  | edit {s : State} {outcome : Except Fault State} {testToken statsToken : Nat} {game : Game}
      (change : Edit) (stays : ∀ env, change ≠ .space env) (playing : s.currentState = .game)
      (holds : s.core.Holds testToken statsToken game)
      (applied : Applies s.core testToken statsToken (edit loaded change game) outcome) :
      Action loaded s outcome
  | gesture {s next : State} (pp : Packet) (gesture : GestureState) (xGesture : Int)
      (playing : s.currentState = .game)
      (moved : gestureStep s.stars s.gestureState s.xGesture pp = some (gesture, xGesture))
      (core : next.core = s.core.gestured pp gesture xGesture) : Action loaded s (.ok next)
  | fill {s next : State} {testToken statsToken : Nat} {game filled : Game} (pp : Packet)
      (playing : s.currentState = .game)
      (full : gestureStep s.stars s.gestureState s.xGesture pp = none)
      (holds : s.core.Holds testToken statsToken game)
      (filling : TypingTutor.edit loaded .fill game = .ok filled)
      (core : next.core = s.core.filled pp testToken statsToken filled) : Action loaded s (.ok next)
  | enter {s : State} (env : Env) (shown : s.currentState = .menu) :
      Action loaded s (setGameState env .keyHandler .timers s)
  | escape {s : State} (env : Env) (shown : s.currentState ≠ .menu) :
      Action loaded s (setGameState env .keyHandler .menu s)
  | timeUp {s : State} (env : Env) (playing : s.currentState = .game) (expired : s.timer = 0) :
      Action loaded s (setGameState env .updateTimer .statistics s)
  | countDown {s : State} (playing : s.currentState = .game) (running : s.timer ≠ 0) :
      Action loaded s (.ok { s with timer := s.timer - 1 })
  | packet {s : State} (pp : Packet) : Action loaded s (.ok (s.record (.parse pp)))
  | button {s : State} (env : Env) (target : GameState) (leads : ButtonLeads s.currentState target) :
      Action loaded s (setGameState env .checkActions target s)
  | chooseTimer {s : State} (env : Env) (seconds : Int) (shown : s.currentState = .timers)
      (offered : seconds = 15 ∨ seconds = 30 ∨ seconds = 60) :
      Action loaded s (setGameState env .checkActions .game { s with timer := seconds })
  | backToMenu {s : State} (env : Env) (shown : s.currentState = .statistics) :
      Action loaded s (setGameState env .checkActions .menu s >>= destroyStats)

/-- An action, or the space key in a game. -/
inductive Step (loaded : LoadedSprites) : State → Except Fault State → Prop where
  | action {s : State} {outcome : Except Fault State} (action : Action loaded s outcome) :
      Step loaded s outcome
  | space {s : State} {outcome : Except Fault State} {testToken statsToken : Nat} {game : Game}
      (env : Env) (playing : s.currentState = .game)
      (holds : s.core.Holds testToken statsToken game)
      (applied : Applies s.core testToken statsToken (edit loaded (.space env) game) outcome) :
      Step loaded s outcome

section Handlers

variable {loaded : LoadedSprites}

/-- What is stated of one action holds trivially of a dead state, so the objects may be assumed live. -/
theorem Action.of_holds {s : State} {outcome : Except Fault State} (playing : s.currentState = .game)
    (action : ∀ testToken statsToken game, s.core.Holds testToken statsToken game →
      Action loaded s outcome) : Action loaded s outcome := by
  by_cases live : s.core.Live
  · obtain ⟨testToken, statsToken, game, holds⟩ := live.game playing
    exact action testToken statsToken game holds
  · exact .dead live

/-- A state with the same core is one frame action away. -/
theorem chain_frame {s next : State} (same : next.core = s.core) :
    Chain (Action loaded) s (.ok next) :=
  .single (.frame same)

/-- Putting a frame action in front. -/
theorem chain_afterFrame {s next : State} {outcome : Except Fault State}
    (same : next.core = s.core) (chain : Chain (Action loaded) next outcome) :
    Chain (Action loaded) s outcome :=
  .step (.frame same) chain

/-- What `update_keyboard` does with a scancode: nothing but remember a key, or one of the three
edits of a game. -/
theorem dispatchScancode_cases (loaded : LoadedSprites) (env : Env) (s : State) :
    (∃ key, dispatchScancode loaded env s = .ok { s with currentKey := key }) ∨
      (∃ c, s.currentState = .game ∧
        dispatchScancode loaded env s = processKey loaded c (keyMap s.data) s) ∨
      (s.data = keySpace ∧ s.currentState = .game ∧
        dispatchScancode loaded env s = handleSpaceKey loaded env s) ∨
      (s.currentState = .game ∧
        dispatchScancode loaded env s = handleDeleteKey loaded { s with currentKey := .back }) := by
  unfold dispatchScancode
  by_cases released : bit 7 s.data = true
  · rw [if_pos released]
    exact .inl ⟨s.currentKey, rfl⟩
  rw [if_neg released]
  cases typed : charMap s.data with
  | some c =>
      by_cases playing : s.currentState = .game
      · exact .inr (.inl ⟨c, playing, rfl⟩)
      · left
        refine ⟨keyMap s.data, ?_⟩
        simp [processKey, playing, pure, Except.pure]
  | none =>
      by_cases playing : s.currentState = .game
      · simp only [if_pos playing]
        split_ifs with space enter delete escape
        · exact .inr (.inr (.inl ⟨space, playing, rfl⟩))
        · exact .inl ⟨.enter, rfl⟩
        · exact .inr (.inr (.inr ⟨playing, rfl⟩))
        · exact .inl ⟨.esc, rfl⟩
        · exact .inl ⟨s.currentKey, rfl⟩
      · simp only [if_neg playing]
        left
        split_ifs with space enter delete escape
        · exact ⟨s.currentKey, rfl⟩
        · exact ⟨.enter, rfl⟩
        · exact ⟨.back, rfl⟩
        · exact ⟨.esc, rfl⟩
        · exact ⟨s.currentKey, rfl⟩

/-- Dispatching a scancode is one action, unless it is a space typed in a game. -/
theorem dispatchScancode_step (env : Env) (s : State) :
    Action loaded s (dispatchScancode loaded env s) ∨
      s.data = keySpace ∧ s.currentState = .game ∧
        dispatchScancode loaded env s = handleSpaceKey loaded env s := by
  rcases dispatchScancode_cases loaded env s with
    ⟨key, dispatched⟩ | ⟨c, playing, dispatched⟩ | space | ⟨playing, dispatched⟩
  · rw [dispatched]
    exact .inl (.frame rfl)
  · rw [dispatched]
    left
    refine .of_holds playing fun testToken statsToken game holds => ?_
    exact .edit (.letter c) (by simp) playing holds
      (processKey_applies c (keyMap s.data) playing holds)
  · exact .inr space
  · rw [dispatched]
    left
    refine .of_holds playing fun testToken statsToken game holds => ?_
    have cleared : { s with currentKey := .back }.core.Holds testToken statsToken game :=
      ⟨holds.test, holds.stats⟩
    exact .edit .delete (by simp) playing holds (handleDeleteKey_applies cleared)

/-- Dispatching as a step. -/
theorem updateKeyboard_chain (ports : PortReads) (env : Env) (s : State) :
    Chain (Step loaded) s (updateKeyboard loaded ports env s) := by
  have received : ({ s with data := kbcIh ports s.data } : State).core = s.core := rfl
  refine .step (.action (.frame received)) ?_
  rcases dispatchScancode_step env { s with data := kbcIh ports s.data } with
    action | ⟨-, playing, dispatched⟩
  · exact .single (.action action)
  · rw [updateKeyboard, dispatched]
    refine .single ?_
    by_cases live : s.core.Live
    · obtain ⟨testToken, statsToken, game, holds⟩ := live.game playing
      exact .space env playing holds (handleSpaceKey_applies env holds)
    · exact .action (.dead live)

/-! Typing changes the game, the remembered key and what is drawn, and nothing else. -/

/-- The state after typing. -/
def TypedFrom (s next : State) : Prop :=
  ∃ key test stats happy mad view, next =
    { s with
      currentKey := key
      test := test
      stats := stats
      happyAnimation := happy
      madAnimation := mad
      view := view }

theorem TypedFrom.refl (s : State) : TypedFrom s s := ⟨_, _, _, _, _, _, rfl⟩

theorem TypedFrom.trans {first second third : State} (one : TypedFrom first second)
    (two : TypedFrom second third) : TypedFrom first third := by
  obtain ⟨_, _, _, _, _, _, rfl⟩ := one
  obtain ⟨_, _, _, _, _, _, rfl⟩ := two
  exact ⟨_, _, _, _, _, _, rfl⟩

theorem processKey_typedFrom {c : Char} {key : Key} {s next : State}
    (typed : processKey loaded c key s = .ok next) : TypedFrom s next := by
  unfold processKey at typed
  split at typed
  · simp only [bind_eq_ok] at typed
    obtain ⟨test, -, word, -, typed⟩ := typed
    -- Erasing the caret comes first.
    have erased : TypedFrom s (if test.currentInputIndex + 1 = word.length then
        { s with view := deleteCaret s.view } else s) := by
      split
      · exact ⟨_, _, _, _, _, _, rfl⟩
      · exact .refl s
    apply erased.trans
    split at typed
    · simp only [bind_eq_ok] at typed
      obtain ⟨stats, -, typed⟩ := typed
      cases typed
      exact ⟨_, _, _, _, _, _, rfl⟩
    · cases typed
      exact ⟨_, _, _, _, _, _, rfl⟩
  · cases typed
    exact ⟨_, _, _, _, _, _, rfl⟩

theorem handleSpaceKey_typedFrom {env : Env} {s next : State}
    (typed : handleSpaceKey loaded env s = .ok next) : TypedFrom s next := by
  simp only [handleSpaceKey, bind_eq_ok] at typed
  obtain ⟨test, -, word, -, stats, -, typed⟩ := typed
  cases typed
  simp only [redrawWords]
  split
  · split
    · exact ⟨_, _, _, _, _, _, rfl⟩
    · exact ⟨_, _, _, _, _, _, rfl⟩
  · split
    · exact ⟨_, _, _, _, _, _, rfl⟩
    · exact ⟨_, _, _, _, _, _, rfl⟩

theorem handleDeleteKey_typedFrom {s next : State}
    (typed : handleDeleteKey loaded s = .ok next) : TypedFrom s next := by
  simp only [handleDeleteKey, bind_eq_ok] at typed
  obtain ⟨test, -, word, -, typed⟩ := typed
  cases typed
  exact ⟨_, _, _, _, _, _, rfl⟩

theorem processKey_currentKey {c : Char} {key : Key} {s next : State}
    (typed : processKey loaded c key s = .ok next) : next.currentKey = key := by
  unfold processKey at typed
  split at typed
  · simp only [bind_eq_ok] at typed
    obtain ⟨test, -, word, -, typed⟩ := typed
    split at typed
    · simp only [bind_eq_ok] at typed
      obtain ⟨stats, -, typed⟩ := typed
      cases typed
      rfl
    · cases typed
      rfl
  · cases typed
    rfl

theorem handleDeleteKey_currentKey {s next : State} (typed : handleDeleteKey loaded s = .ok next) :
    next.currentKey = s.currentKey := by
  simp only [handleDeleteKey, bind_eq_ok] at typed
  obtain ⟨test, -, word, -, typed⟩ := typed
  cases typed
  rfl

theorem dispatchScancode_typedFrom {env : Env} {s next : State}
    (done : dispatchScancode loaded env s = .ok next) : TypedFrom s next := by
  rcases dispatchScancode_cases loaded env s with
    ⟨key, dispatched⟩ | ⟨c, -, dispatched⟩ | ⟨-, -, dispatched⟩ | ⟨-, dispatched⟩
  · rw [dispatched] at done
    cases done
    exact ⟨_, _, _, _, _, _, rfl⟩
  · exact processKey_typedFrom (dispatched.symm.trans done)
  · exact handleSpaceKey_typedFrom (dispatched.symm.trans done)
  · have remembered : TypedFrom s { s with currentKey := .back } := ⟨_, _, _, _, _, _, rfl⟩
    exact remembered.trans (handleDeleteKey_typedFrom (dispatched.symm.trans done))

theorem updateKeyboard_typedFrom {ports : PortReads} {env : Env} {s next : State}
    (updated : updateKeyboard loaded ports env s = .ok next) :
    TypedFrom { s with data := kbcIh ports s.data } next :=
  dispatchScancode_typedFrom updated

/-- Leaving a screen by key, after the scancode has been dispatched. -/
def leaveByKey (env : Env) (before : GameState) (s : State) : Except Fault State :=
  if before = .menu then
    if s.currentKey = .enter then setGameState env .keyHandler .timers s else .ok s
  else if s.currentKey = .esc then
    setGameState env .keyHandler .menu s >>= fun s => .ok { s with currentKey := .noneKey }
  else .ok s

theorem keyHandler_eq (ports : PortReads) (env : Env) (s : State) :
    keyHandler loaded ports env s =
      updateKeyboard loaded ports env s >>= leaveByKey env s.currentState := by
  unfold keyHandler
  cases screen : s.currentState with
  | menu => rfl
  | instructions | statistics | game | timers | highscores => rfl

theorem leaveByKey_chain (env : Env) {before : GameState} {s : State}
    (screen : s.currentState = before) :
    Chain (Action loaded) s (leaveByKey env before s) := by
  unfold leaveByKey
  split_ifs with inMenu pressed pressed
  · exact .single (.enter env (screen.trans inMenu))
  · exact .done s
  · refine (Chain.single (.escape env ?_)).bind fun next _ => chain_frame rfl
    rw [screen]
    exact inMenu
  · exact .done s

theorem keyHandler_chain (ports : PortReads) (env : Env) (s : State) :
    Chain (Step loaded) s (keyHandler loaded ports env s) := by
  rw [keyHandler_eq]
  refine (updateKeyboard_chain ports env s).bind ?_
  intro next updated
  obtain ⟨_, _, _, _, _, _, rfl⟩ := updateKeyboard_typedFrom updated
  exact (leaveByKey_chain env rfl).mono fun _ _ => .action

/-! ### Timer and mouse -/

/-- The part of `update_timer` that every screen gets. -/
def tick (s : State) : State :=
  { s with
    happyAnimation := updateAnimation s.happyAnimation
    madAnimation := updateAnimation s.madAnimation
    view :=
      { s.view with
        mainFrameBuffer := s.view.secondaryFrameBuffer
        secondaryFrameBuffer := s.view.secondaryFrameBufferNoMouse }
    counter := s.counter + 1 }

/-- The countdown of `update_timer`. -/
def countSecond (s : State) : Except Fault State :=
  if s.counter % 60 = 0 ∧ s.timer ≠ 0 then .ok { s with timer := s.timer - 1 } else .ok s

/-- What `update_timer` does after the tick. -/
def gameClock (env : Env) (s : State) : Except Fault State :=
  match s.currentState with
  | .game =>
      if s.timer = 0 then setGameState env .updateTimer .statistics s >>= countSecond
      else countSecond s
  | _ => .ok s

/-- `update_timer` by cases: idle screens only tick; a game ends when its time is up, and counts down
once a second before that. -/
theorem updateTimer_eq (env : Env) (s : State) :
    updateTimer env s =
      if s.currentState = .game then
        if s.timer = 0 then setGameState env .updateTimer .statistics (tick s)
        else if (tick s).counter % 60 = 0 then .ok { tick s with timer := s.timer - 1 }
        else .ok (tick s)
      else .ok (tick s) := by
  have unfolded : updateTimer env s = gameClock env (tick s) := rfl
  have timer : (tick s).timer = s.timer := rfl
  have screen : (tick s).currentState = s.currentState := rfl
  rw [unfolded, gameClock, screen, timer]
  cases shown : s.currentState with
  | menu | instructions | statistics | timers | highscores => rfl
  | game =>
      simp only [if_true]
      by_cases expired : s.timer = 0
      · rw [if_pos expired, if_pos expired]
        cases changed : setGameState env .updateTimer .statistics (tick s) with
        | error fault => rfl
        | ok next =>
            have still : ¬ (next.counter % 60 = 0 ∧ next.timer ≠ 0) := by
              obtain ⟨_, _, _, _, _, _, _, rfl, -⟩ := setGameState_enteredFrom changed
              rw [timer]
              exact fun both => both.2 expired
            exact if_neg still
      · rw [if_neg expired, if_neg expired, countSecond]
        by_cases second : (tick s).counter % 60 = 0
        · rw [if_pos ⟨second, expired⟩, if_pos second]
          rfl
        · rw [if_neg (fun both => second both.1), if_neg second]

theorem updateTimer_chain (env : Env) (s : State) :
    Chain (Action loaded) s (updateTimer env s) := by
  have ticked : (tick s).core = s.core := rfl
  rw [updateTimer_eq]
  refine chain_afterFrame ticked ?_
  split_ifs with playing expired second
  · exact .single (.timeUp env playing expired)
  · exact .single (.countDown playing expired)
  · exact .done _
  · exact .done _

theorem chain_view (s : State) (view : View) :
    Chain (Action loaded) s (.ok { s with view := view }) :=
  chain_frame rfl

/-- Drawing a screen lays the test out when it shows a game, and otherwise touches only what is
drawn. -/
theorem drawScreen_chain (env : Env) (s : State) :
    Chain (Action loaded) s (drawScreen loaded env s) := by
  unfold drawScreen
  split
  · exact chain_view s _
  · rename_i shown
    by_cases live : s.core.Live
    · obtain ⟨testToken, statsToken, game, holds⟩ := live.game shown
      simp only [holds.derefTest]
      refine .single (.edit .draw (by simp) shown holds ?_)
      have backed := fun view : View => show ({ s with view := view } : State).core =
        { s.core with stats := .live statsToken game.stats } from core_unstored holds
      exact core_redrawWords game.test (backed _) holds
    · exact .single (.dead live)
  · exact chain_view s _
  · exact chain_view s _
  · rename_i shown
    by_cases live : s.core.Live
    · obtain ⟨token, stats, hasStats⟩ := live.statistics shown
      have reading : s.stats.deref = .ok stats := by
        have pointer : s.stats = .live token stats := hasStats
        rw [pointer, Ptr.deref_live]
      simp only [reading]
      exact chain_view s _
    · exact .single (.dead live)
  · exact chain_frame rfl

/-- What `GameDrawer` draws in every frame. -/
def drawFrame (loaded : LoadedSprites) (env : Env) (s : State) : Except Fault State :=
  match s.currentState with
  | .game =>
      let shown := showCursor loaded
        { s with
          view := drawStars loaded s.stars
            (drawRecordedTime loaded s.timer (drawRealTime loaded (env.rtc 3) s.view)) }
      .ok { shown with
        view := drawAnimationBoth loaded shown.happyAnimation shown.madAnimation shown.view }
  | _ => .ok (showCursor loaded s)

theorem gameDrawer_eq (env : Env) (s : State) :
    gameDrawer loaded env s =
      if s.gameStateChange then
        drawScreen loaded env s >>= fun s => drawFrame loaded env { s with gameStateChange := false }
      else drawFrame loaded env s := by
  have unfolded : gameDrawer loaded env s =
      if s.gameStateChange then
        ((fun (s : State) => { s with gameStateChange := false }) <$> drawScreen loaded env s) >>=
          drawFrame loaded env
      else drawFrame loaded env s := rfl
  rw [unfolded]
  cases drawScreen loaded env s with
  | error fault => rfl
  | ok next => rfl

theorem drawFrame_chain (env : Env) (s : State) :
    Chain (Action loaded) s (drawFrame loaded env s) := by
  unfold drawFrame
  split
  · exact chain_frame rfl
  · exact chain_frame rfl

theorem gameDrawer_chain (env : Env) (s : State) :
    Chain (Action loaded) s (gameDrawer loaded env s) := by
  rw [gameDrawer_eq]
  split
  · refine (drawScreen_chain env s).bind fun next _ => ?_
    have settled : ({ next with gameStateChange := false } : State).core = next.core := rfl
    exact chain_afterFrame settled (drawFrame_chain env _)
  · exact drawFrame_chain env s

/-- The state after drawing: the layout of the test, the clamped cursor, the button that the high-score
screen places, and what is on the screen. -/
def DrawnFrom (s next : State) : Prop :=
  ∃ change test cursor button view, next =
    { s with
      gameStateChange := change
      test := test
      cursor := cursor
      backToMenuHighscore := button
      view := view }

theorem drawFrame_drawnFrom {env : Env} {s next : State}
    (drawn : drawFrame loaded env s = .ok next) : DrawnFrom s next := by
  unfold drawFrame at drawn
  split at drawn
  · cases drawn
    exact ⟨_, _, _, _, _, rfl⟩
  · cases drawn
    exact ⟨_, _, _, _, _, rfl⟩

theorem drawScreen_drawnFrom {env : Env} {s next : State}
    (drawn : drawScreen loaded env s = .ok next) : DrawnFrom s next := by
  unfold drawScreen at drawn
  split at drawn
  · cases drawn
    exact ⟨_, _, _, _, _, rfl⟩
  · obtain ⟨test, -, returned⟩ := bind_eq_ok.mp drawn
    cases returned
    exact ⟨_, _, _, _, _, rfl⟩
  · cases drawn
    exact ⟨_, _, _, _, _, rfl⟩
  · cases drawn
    exact ⟨_, _, _, _, _, rfl⟩
  · obtain ⟨stats, -, returned⟩ := bind_eq_ok.mp drawn
    cases returned
    exact ⟨_, _, _, _, _, rfl⟩
  · cases drawn
    exact ⟨_, _, _, _, _, rfl⟩

theorem gameDrawer_drawnFrom {env : Env} {s next : State}
    (drawn : gameDrawer loaded env s = .ok next) : DrawnFrom s next := by
  rw [gameDrawer_eq] at drawn
  split at drawn
  · obtain ⟨shown, screen, framed⟩ := bind_eq_ok.mp drawn
    obtain ⟨_, _, _, _, _, rfl⟩ := drawScreen_drawnFrom screen
    obtain ⟨_, _, _, _, _, rfl⟩ := drawFrame_drawnFrom framed
    exact ⟨_, _, _, _, _, rfl⟩
  · exact drawFrame_drawnFrom drawn

/-! Only `drawCursor` moves the cursor sprite. -/

theorem drawScreen_cursor {env : Env} {s next : State} (drawn : drawScreen loaded env s = .ok next) :
    next.cursor = s.cursor := by
  unfold drawScreen at drawn
  split at drawn
  · cases drawn
    rfl
  · obtain ⟨test, -, returned⟩ := bind_eq_ok.mp drawn
    cases returned
    rfl
  · cases drawn
    rfl
  · cases drawn
    rfl
  · obtain ⟨stats, -, returned⟩ := bind_eq_ok.mp drawn
    cases returned
    rfl
  · cases drawn
    rfl

theorem drawFrame_cursor {env : Env} {s next : State} (drawn : drawFrame loaded env s = .ok next) :
    next.cursor = clampCursor s.cursor := by
  unfold drawFrame at drawn
  split at drawn
  · cases drawn
    rfl
  · cases drawn
    rfl

theorem gameDrawer_cursor {env : Env} {s next : State} (drawn : gameDrawer loaded env s = .ok next) :
    next.cursor = clampCursor s.cursor := by
  rw [gameDrawer_eq] at drawn
  split at drawn
  · obtain ⟨shown, screen, frame⟩ := bind_eq_ok.mp drawn
    rw [drawFrame_cursor frame, ← drawScreen_cursor screen]
  · exact drawFrame_cursor drawn

/-- The timer interrupt: `update_timer`, then `GameDrawer`. -/
theorem timerInterrupt_chain (env : Env) (s : State) :
    Chain (Action loaded) s (updateTimer env s >>= gameDrawer loaded env) :=
  (updateTimer_chain env s).bind fun next _ => gameDrawer_chain env next

/-- The action of a button that is hit. -/
theorem hitButton_action {env : Env} {s : State} {button : Button}
    (hit : hitButton env s = some button) : Action loaded s (button.2 s) := by
  have member : button ∈ screenButtons env s := List.mem_of_find?_eq_some hit
  unfold screenButtons at member
  split at member
  · rename_i shown
    simp only [List.mem_cons, List.not_mem_nil, or_false] at member
    rcases member with rfl | rfl | rfl
    · exact .button env .timers (shown ▸ .play)
    · exact .button env .instructions (shown ▸ .instructions)
    · exact .button env .highscores (shown ▸ .highscores)
  · rename_i shown
    simp only [List.mem_cons, List.not_mem_nil, or_false] at member
    rcases member with rfl | rfl | rfl
    · exact .chooseTimer env 15 shown (.inl rfl)
    · exact .chooseTimer env 30 shown (.inr (.inl rfl))
    · exact .chooseTimer env 60 shown (.inr (.inr rfl))
  · rename_i shown
    simp only [List.mem_cons, List.not_mem_nil, or_false] at member
    rcases member with rfl | rfl
    · exact .backToMenu env shown
    · exact .button env .timers (shown ▸ .playAgain)
  · rename_i shown
    rw [List.mem_singleton] at member
    subst member
    exact .button env .menu (shown ▸ .back)
  · cases member
  · cases member

theorem checkActions_chain (env : Env) (s : State) :
    Chain (Action loaded) s (checkActions loaded env s) := by
  by_cases playing : s.currentState = .game
  · rw [checkActions_game env playing]
    by_cases live : s.core.Live
    · obtain ⟨testToken, statsToken, game, holds⟩ := live.game playing
      cases moved : gestureStep s.stars s.gestureState s.xGesture s.mouse.pp with
      | some after =>
          obtain ⟨next, done, core⟩ := @checkGesture_of_some loaded s _ _ moved
          rw [done]
          exact .single (.gesture s.mouse.pp after.1 after.2 playing moved core)
      | none =>
          rcases checkGesture_of_none holds moved with
            ⟨filled, next, filling, done, core⟩ | ⟨fault, filling, failed⟩
          · rw [done]
            exact .single (.fill s.mouse.pp playing moved holds filling core)
          · rw [failed]
            refine .single (.edit .fill (by simp) playing holds ?_)
            rw [filling]
            rfl
    · exact .single (.dead live)
  · rw [checkActions_eq loaded env playing]
    cases hit : hitButton env s with
    | none => exact .done s
    | some button => exact .single (hitButton_action hit)

/-- `parse()` on the globals. -/
def parsePacket (s : State) : State :=
  { s with mouse := (parse s.mouse s.cursor).1, cursor := (parse s.mouse s.cursor).2 }

theorem handlePacket_eq (env : Env) (s : State) :
    handlePacket loaded env s =
      checkActions loaded env ((parsePacket s).record (.parse (parsePacket s).mouse.pp)) >>= fun s =>
        .ok { s with mouse := { s.mouse with bytesRead := 0 } } := rfl

theorem handlePacket_chain (env : Env) (s : State) :
    Chain (Action loaded) s (handlePacket loaded env s) := by
  have parsed : (parsePacket s).core = s.core := rfl
  rw [handlePacket_eq]
  refine chain_afterFrame parsed (.step (.packet (parsePacket s).mouse.pp) ?_)
  exact (checkActions_chain env _).bind fun next _ => chain_frame rfl

theorem updateMouse_eq (ports : PortReads) (env : Env) (s : State) :
    updateMouse loaded ports env s =
      if (sync (mouseIh ports s.mouse)).bytesRead = 3 then
        handlePacket loaded env { s with mouse := sync (mouseIh ports s.mouse) }
      else .ok { s with mouse := sync (mouseIh ports s.mouse) } := rfl

/-- A byte completes a packet, which is acted on, or it is only stored. -/
theorem updateMouse_inv {ports : PortReads} {env : Env} {s next : State}
    (done : updateMouse loaded ports env s = .ok next) :
    (∃ pp acted, checkActions loaded env
        ((parsePacket { s with mouse := sync (mouseIh ports s.mouse) }).record (.parse pp)) =
          .ok acted ∧
        next = { acted with mouse := { acted.mouse with bytesRead := 0 } }) ∨
      ((sync (mouseIh ports s.mouse)).bytesRead ≠ 3 ∧
        next = { s with mouse := sync (mouseIh ports s.mouse) }) := by
  rw [updateMouse_eq] at done
  split at done
  · rw [handlePacket_eq] at done
    obtain ⟨acted, acting, returned⟩ := bind_eq_ok.mp done
    cases returned
    exact .inl ⟨_, acted, acting, rfl⟩
  · rename_i incomplete
    cases done
    exact .inr ⟨incomplete, rfl⟩

/-- The state after a byte from the mouse: animations, scancode and tick counter are as they were, and
the remembered key is kept or forgotten. -/
def PointedFrom (s next : State) : Prop :=
  ∃ key screen change timer gesture xGesture stars test stats scores mouse cursor view token log,
    (key = s.currentKey ∨ key = .noneKey) ∧
      next =
        { s with
          currentKey := key
          currentState := screen
          gameStateChange := change
          timer := timer
          gestureState := gesture
          xGesture := xGesture
          stars := stars
          test := test
          stats := stats
          scores := scores
          mouse := mouse
          cursor := cursor
          view := view
          nextToken := token
          log := log }

theorem updateMouse_pointedFrom {ports : PortReads} {env : Env} {s next : State}
    (done : updateMouse loaded ports env s = .ok next) : PointedFrom s next := by
  rcases updateMouse_inv done with ⟨pp, acted, acting, rfl⟩ | ⟨-, rfl⟩
  · rcases checkActions_cases env acting with gestured | rfl | ⟨button, member, pressed⟩
    · obtain ⟨_, _, _, _, _, _, _, rfl⟩ := gestured
      exact ⟨_, _, _, _, _, _, _, _, _, _, _, _, _, _, _, .inl rfl, rfl⟩
    · exact ⟨_, _, _, _, _, _, _, _, _, _, _, _, _, _, _, .inl rfl, rfl⟩
    · obtain ⟨_, _, _, _, _, _, _, _, _, key, rfl⟩ :=
        screenButtons_pressedFrom env _ button member _ _ pressed
      exact ⟨_, _, _, _, _, _, _, _, _, _, _, _, _, _, _, key, rfl⟩
  · exact ⟨_, _, _, _, _, _, _, _, _, _, _, _, _, _, _, .inl rfl, rfl⟩

theorem updateMouse_chain (ports : PortReads) (env : Env) (s : State) :
    Chain (Action loaded) s (updateMouse loaded ports env s) := by
  have received : ({ s with mouse := sync (mouseIh ports s.mouse) } : State).core = s.core := rfl
  rw [updateMouse_eq]
  refine chain_afterFrame received ?_
  split
  · exact handlePacket_chain env _
  · exact .done _

/-! ### Whole runs -/

/-- The keyboard's part of a notification. -/
def serveKeyboard (loaded : LoadedSprites) (message : Notification) (s : State) : Except Fault State :=
  match message.keyboard with
  | some (ports, env) => keyHandler loaded ports env s
  | none => .ok s

/-- The timer's part of a notification. -/
def serveTimer (loaded : LoadedSprites) (message : Notification) (s : State) : Except Fault State :=
  match message.timer with
  | some env => updateTimer env s >>= gameDrawer loaded env
  | none => .ok s

/-- The mouse's part of a notification. -/
def serveMouse (loaded : LoadedSprites) (message : Notification) (s : State) : Except Fault State :=
  match message.mouse with
  | some (ports, env) => updateMouse loaded ports env s
  | none => .ok s

/-- The handlers of one notification, one after the other. -/
theorem handleNotification_eq (message : Notification) (s : State) :
    handleNotification loaded message s =
      serveKeyboard loaded message s >>= fun s =>
        serveTimer loaded message s >>= serveMouse loaded message := by
  unfold handleNotification serveKeyboard serveTimer serveMouse
  cases message.keyboard with
  | none =>
      cases message.timer with
      | none => rfl
      | some env => rfl
  | some call =>
      cases message.timer with
      | none => rfl
      | some env => rfl

theorem handleNotification_chain (message : Notification) (s : State) :
    Chain (Step loaded) s (handleNotification loaded message s) := by
  rw [handleNotification_eq]
  refine Chain.bind ?_ fun typed _ => Chain.bind ?_ fun ticked _ => ?_
  · unfold serveKeyboard
    cases message.keyboard with
    | none => exact .done s
    | some call => exact keyHandler_chain call.1 call.2 s
  · unfold serveTimer
    cases message.timer with
    | none => exact .done typed
    | some env => exact (timerInterrupt_chain env typed).mono fun _ _ => .action
  · unfold serveMouse
    cases message.mouse with
    | none => exact .done ticked
    | some call => exact (updateMouse_chain call.1 call.2 ticked).mono fun _ _ => .action

/-- A postcondition of one round of the main loop, handler by handler. -/
theorem mainLoopStep_outcome {Holds : State → Prop} {Allowed : Fault → Prop} {message : Notification}
    {s : State} (initially : Holds s)
    (keyboard : ∀ call, message.keyboard = some call →
      Outcome Holds Allowed (keyHandler loaded call.1 call.2 s))
    (timer : ∀ env, message.timer = some env → ∀ s, Holds s →
      Outcome Holds Allowed (updateTimer env s >>= gameDrawer loaded env))
    (mouse : ∀ call, message.mouse = some call → ∀ s, Holds s →
      Outcome Holds Allowed (updateMouse loaded call.1 call.2 s)) :
    Outcome Holds Allowed (mainLoopStep loaded s message) := by
  unfold mainLoopStep
  split
  · exact initially
  rw [handleNotification_eq]
  have typing : Outcome Holds Allowed (serveKeyboard loaded message s) := by
    unfold serveKeyboard
    cases call : message.keyboard with
    | none => exact initially
    | some devices => exact keyboard devices call
  have ticking : ∀ s, Holds s → Outcome Holds Allowed (serveTimer loaded message s) := by
    intro s holds
    unfold serveTimer
    cases call : message.timer with
    | none => exact holds
    | some env => exact timer env call s holds
  have clicking : ∀ s, Holds s → Outcome Holds Allowed (serveMouse loaded message s) := by
    intro s holds
    unfold serveMouse
    cases call : message.mouse with
    | none => exact holds
    | some devices => exact mouse devices call s holds
  apply typing.bind
  intro s holds
  exact (ticking s holds).bind clicking

theorem mainLoopStep_chain (s : State) (message : Notification) :
    Chain (Step loaded) s (mainLoopStep loaded s message) := by
  unfold mainLoopStep
  split
  · exact .done s
  · exact handleNotification_chain message s

/-- Every run of the program is a chain of steps from `setup()`. -/
theorem run_chain (loaded : LoadedSprites) (file : List Char) (messages : List Notification) :
    Chain (Step loaded) (setup file) (run loaded file messages) :=
  Chain.foldlM mainLoopStep_chain messages (setup file)

end Handlers

/-! ### Concrete inputs -/

/-- A working port that delivers one mouse byte. -/
def mouseByte (byte : UInt8) : Notification :=
  { keyboard := none
    timer := none
    mouse := some ({ status := some 0x21, output := some byte }, default) }

/-- The three interrupts of one mouse packet. -/
def mousePacket (first second third : UInt8) : List Notification :=
  [mouseByte first, mouseByte second, mouseByte third]

/-- The interrupt of one scancode. -/
def keyPress (code : UInt8) : Notification :=
  { keyboard := some ({ status := some 0x01, output := some code }, default)
    timer := none
    mouse := none }

/-- From program start into a game of a minute: the left button is pressed on PLAY, and again on the
last of the three times. -/
def intoGame : List Notification := mousePacket 0x29 0 236 ++ mousePacket 0x29 0 226

end TypingTutor
