/-
Module: TypingTutor.Proofs.Navigation
Layer: Proofs
Purpose: The map of the program.  The screens and the ways between them are a small abstract machine,
  and the program refines it exactly: the screen changes of every run are a walk through the map, and
  every walk through the map is the walk of some run, whatever the sprites and the high-score file.
Trusted boundary: none
Main exports: Move, moves, Way, Navigates, run_walks, Reached, Reached.follow, walks_are_runs
-/
import TypingTutor.Proofs.EscapeKey

namespace TypingTutor

open Runs

/-! ### The map -/

/-- A screen change: who makes it, where it leads from and to, and the time that a game is given. -/
structure Move where
  caller : Caller
  source : GameState
  target : GameState
  seconds : Option Int
deriving Repr, DecidableEq

/-- The screen change of a call. -/
def Call.move? : Call → Option Move
  | .setGameState caller before after timer _ =>
      some
        { caller := caller
          source := before
          target := after
          seconds := if after = .game then some timer else none }
  | _ => none

/-- The screen changes of a log, oldest first. -/
def moves (log : List Call) : List Move := (log.filterMap Call.move?).reverse

/-- The ways out of each screen. -/
inductive Way : Move → Prop where
  | enter : Way ⟨.keyHandler, .menu, .timers, none⟩
  | escape {source : GameState} (away : source ≠ .menu) : Way ⟨.keyHandler, source, .menu, none⟩
  | click {source target : GameState} (leads : ButtonLeads source target) :
      Way ⟨.checkActions, source, target, none⟩
  | backToMenu : Way ⟨.checkActions, .statistics, .menu, none⟩
  | choose {seconds : Int} (offered : Offered seconds) :
      Way ⟨.checkActions, .timers, .game, some seconds⟩
  | timeUp : Way ⟨.updateTimer, .game, .statistics, none⟩

/-- One step of the abstract machine, whose state is the screen shown. -/
def Navigates (shown : GameState) (move : Move) (next : GameState) : Prop :=
  Way move ∧ move.source = shown ∧ move.target = next

/-- The screen change that `setup()` makes. -/
def opened : Move := ⟨.setup, .menu, .menu, none⟩

theorem moves_cons_of_none {call : Call} (still : call.move? = none) (log : List Call) :
    moves (call :: log) = moves log := by
  rw [moves, List.filterMap_cons_none still, moves]

theorem moves_cons_of_some {call : Call} {move : Move} (changed : call.move? = some move)
    (log : List Call) : moves (call :: log) = moves log ++ [move] := by
  rw [moves, List.filterMap_cons_some changed, List.reverse_cons, moves]

theorem moves_append_of_none {made : List Call} (still : ∀ call ∈ made, call.changesScreen = false)
    (log : List Call) : moves (made ++ log) = moves log := by
  have none : made.filterMap Call.move? = [] := by
    rw [List.filterMap_eq_nil_iff]
    intro call member
    have stays := still call member
    cases call with
    | setGameState _ _ _ _ _ => cases stays
    | _ => rfl
  rw [moves, List.filterMap_append, none, List.nil_append, moves]

/-- The move that a screen change adds. -/
def moveTo (caller : Caller) (target : GameState) (s : State) : Move :=
  { caller := caller
    source := s.currentState
    target := target
    seconds := if target = .game then some s.timer else none }

theorem EnteredFrom.moves_eq {caller : Caller} {target : GameState} {s next : State}
    (entered : EnteredFrom caller target s next) :
    moves next.log = moves s.log ++ [moveTo caller target s] := by
  obtain ⟨_, _, _, _, _, _, made, rfl, still⟩ := entered
  change moves (made ++ _ :: s.log) = _
  rw [moves_append_of_none still, moves_cons_of_some rfl]
  rfl

theorem EnteredFrom.shown {caller : Caller} {target : GameState} {s next : State}
    (entered : EnteredFrom caller target s next) : next.currentState = target := by
  obtain ⟨_, _, _, _, _, _, _, rfl, _⟩ := entered
  rfl

/-! ### Every run is a walk -/

/-- The screen changes of the log are a walk through the map to the screen shown. -/
def Walked (core : Core) : Prop :=
  ∃ walk, moves core.log = opened :: walk ∧ AbstractRun Navigates .menu walk core.currentState

/-- No screen change. -/
theorem Walked.stay {core next : Core} (walked : Walked core) (log : moves next.log = moves core.log)
    (screen : next.currentState = core.currentState) : Walked next := by
  obtain ⟨walk, made, run⟩ := walked
  exact ⟨walk, log.trans made, screen ▸ run⟩

/-- One screen change, along a way of the map. -/
theorem Walked.go {core : Core} {next : State} {move : Move} (walked : Walked core)
    (log : moves next.log = moves core.log ++ [move]) (way : Way move)
    (source : move.source = core.currentState) (target : move.target = next.currentState) :
    Walked next.core := by
  obtain ⟨walk, made, run⟩ := walked
  refine ⟨walk ++ [move], ?_, run.snoc ⟨way, source, target⟩⟩
  change moves next.log = _
  rw [log, made, List.cons_append]

/-- A call of `setGameState` along a way of the map. -/
theorem setGameState_walked {env : Env} {caller : Caller} {target : GameState} {s : State}
    (walked : Walked s.core) (way : Way (moveTo caller target s)) :
    Outcome (fun s => Walked s.core) (fun _ => True) (setGameState env caller target s) := by
  cases changed : setGameState env caller target s with
  | error fault => trivial
  | ok next =>
      have entered := setGameState_enteredFrom changed
      exact walked.go entered.moves_eq way rfl entered.shown.symm

theorem step_walked {loaded : LoadedSprites} {s : State} {outcome : Except Fault State}
    (live : s.core.Live) (walked : Walked s.core) (step : Step loaded s outcome) :
    Outcome (fun s => Walked s.core) (fun _ => True) outcome := by
  have edits : ∀ {outcome : Except Fault State} {testToken statsToken : Nat} {game : Game}
      {change : Edit}, Applies s.core testToken statsToken (edit loaded change game) outcome →
      Outcome (fun s => Walked s.core) (fun _ => True) outcome := by
    intro outcome testToken statsToken game change applied
    rcases applies_iff.mp applied with ⟨edited, next, -, rfl, core⟩ | ⟨fault, -, rfl⟩
    · change Walked next.core
      rw [core]
      exact walked.stay rfl rfl
    · trivial
  cases step with
  | space env playing holds applied => exact edits applied
  | action action =>
      cases action with
      | dead dead => exact absurd live dead
      | @frame next same =>
          change Walked next.core
          rw [same]
          exact walked
      | edit change stays playing holds applied => exact edits applied
      | @gesture next pp gesture xGesture playing moved core =>
          change Walked next.core
          rw [core]
          exact walked.stay (moves_cons_of_none rfl _) rfl
      | @fill next testToken statsToken game filled pp playing full holds filling core =>
          change Walked next.core
          rw [core]
          exact walked.stay (moves_cons_of_none rfl _) rfl
      | enter env shown =>
          apply setGameState_walked walked
          rw [moveTo, shown]
          exact .enter
      | escape env shown => exact setGameState_walked walked (.escape shown)
      | timeUp env playing expired =>
          apply setGameState_walked walked
          rw [moveTo, playing]
          exact .timeUp
      | countDown playing running => exact walked.stay rfl rfl
      | packet pp => exact walked.stay (moves_cons_of_none rfl _) rfl
      | button env target leads =>
          apply setGameState_walked walked
          have plain : target ≠ .game := by
            generalize s.currentState = before at leads
            cases leads with
            | play | instructions | highscores | playAgain | back => decide
          rw [moveTo, if_neg plain]
          exact .click leads
      | chooseTimer env seconds shown offered =>
          apply setGameState_walked (s := { s with timer := seconds }) (walked.stay rfl rfl)
          rw [moveTo]
          change Way ⟨_, s.currentState, _, _⟩
          rw [shown]
          exact .choose offered
      | backToMenu env shown =>
          obtain ⟨token, stats, hasStats⟩ := live.statistics shown
          rw [backToMenu_eq env hasStats]
          refine walked.go ?_ Way.backToMenu shown.symm rfl
          change moves (_ :: _ :: s.log) = _
          rw [moves_cons_of_none rfl, moves_cons_of_some rfl, shown]
          rfl

/-- The screen changes of every run are a walk through the map. -/
theorem run_walks {loaded : LoadedSprites} {file : List Char} {messages : List Notification}
    {s : State} (ran : run loaded file messages = .ok s) : Walked s.core := by
  have kept : Outcome (fun s => GameLedger s.core ∧ Walked s.core) (fun _ => True)
      (run loaded file messages) := by
    refine (run_chain loaded file messages).keeps ?_ ⟨setup_ledger file, [], rfl, .nil _⟩
    rintro s outcome ⟨ledger, walked⟩ step
    exact ((step_ledger s outcome ledger step).mono (fun _ kept => kept) fun _ _ => trivial).and
      (step_walked ledger.live walked step)
  rw [ran] at kept
  exact kept.2

/-! ### Driving the program

The walks of the map are walked with the keys ESC and ENTER, with packets that move the cursor by one
pixel, with clicks on buttons, and by letting the time of a game run out. -/

/-- The loop is going on, between two packets, and the button of the high-score screen has a
surface. -/
structure Waiting (s : State) : Prop where
  awake : s.currentKey ≠ .esc
  aligned : s.mouse.bytesRead = 0
  width : 0 ≤ s.backToMenuHighscore.width
  height : 0 ≤ s.backToMenuHighscore.height

/-- Only the mouse has been served, and no screen has changed. -/
def PointedOnly (s next : State) : Prop :=
  ∃ mouse cursor log, next = { s with mouse := mouse, cursor := cursor, log := log } ∧
    moves log = moves s.log

theorem Waiting.pointed {s next : State} (waiting : Waiting s) (pointed : PointedOnly s next)
    (aligned : next.mouse.bytesRead = 0) : Waiting next := by
  obtain ⟨_, _, _, rfl, -⟩ := pointed
  exact ⟨waiting.awake, aligned, waiting.width, waiting.height⟩

theorem PointedOnly.trans {first second third : State} (one : PointedOnly first second)
    (two : PointedOnly second third) : PointedOnly first third := by
  obtain ⟨_, _, _, rfl, same⟩ := one
  obtain ⟨_, _, _, rfl, sameLater⟩ := two
  exact ⟨_, _, _, rfl, sameLater.trans same⟩

section Driving

variable {loaded : LoadedSprites} {s : State}

theorem exitRequested_of_awake (awake : s.currentKey ≠ .esc) : exitRequested s = false := by
  simp [exitRequested, awake]

theorem mainLoopStep_mouseByte (awake : s.currentKey ≠ .esc) (byte : UInt8) :
    mainLoopStep loaded s (mouseByte byte) =
      if (sync { s.mouse with byteReceived := byte }).bytesRead = 3 then
        handlePacket loaded default
          { s with mouse := sync { s.mouse with byteReceived := byte } }
      else .ok { s with mouse := sync { s.mouse with byteReceived := byte } } := by
  have read : mouseIh { status := some 0x21, output := some byte } s.mouse =
      { s.mouse with byteReceived := byte } := by
    have status : bit 7 0x21 = false ∧ bit 6 0x21 = false ∧ bit 0 0x21 = true ∧
        bit 5 0x21 = true := by decide
    simp [mouseIh, mouseRead, status]
  rw [mainLoopStep, exitRequested_of_awake awake]
  change updateMouse loaded { status := some 0x21, output := some byte } default s = _
  rw [updateMouse_eq, read]

/-- The three interrupts of a packet. -/
theorem foldlM_mousePacket (waiting : Waiting s) (first second third : UInt8)
    (opens : bit 3 first = true) :
    (mousePacket first second third).foldlM (mainLoopStep loaded) s =
      handlePacket loaded default (assembled (first, second, third) s) := by
  have one : mainLoopStep loaded s (mouseByte first) =
      .ok { s with
        mouse := ⟨first, 1, (first, s.mouse.ppBytes.2.1, s.mouse.ppBytes.2.2), s.mouse.pp⟩ } := by
    rw [mainLoopStep_mouseByte waiting.awake]
    simp [sync, waiting.aligned, opens]
  have two : mainLoopStep loaded
      { s with mouse := ⟨first, 1, (first, s.mouse.ppBytes.2), s.mouse.pp⟩ } (mouseByte second) =
        .ok { s with
          mouse := ⟨second, 2, (first, second, s.mouse.ppBytes.2.2), s.mouse.pp⟩ } := by
    rw [mainLoopStep_mouseByte (by exact waiting.awake)]
    simp [sync]
  have three : mainLoopStep loaded
      { s with mouse := ⟨second, 2, (first, second, s.mouse.ppBytes.2.2), s.mouse.pp⟩ }
        (mouseByte third) = handlePacket loaded default (assembled (first, second, third) s) := by
    rw [mainLoopStep_mouseByte (by exact waiting.awake)]
    simp [sync, assembled]
  rw [mousePacket, List.foldlM_cons, one]
  change [mouseByte second, mouseByte third].foldlM (mainLoopStep loaded) _ = _
  rw [List.foldlM_cons, two]
  change [mouseByte third].foldlM (mainLoopStep loaded) _ = _
  rw [List.foldlM_cons, three]
  exact bind_pure _

/-- A packet with the left button up moves the cursor and does nothing else. -/
theorem handlePacket_released (loaded : LoadedSprites) (outside : s.currentState ≠ .game)
    (bytes : UInt8 × UInt8 × UInt8) (released : bit 0 bytes.1 = false) :
    ∃ next, handlePacket loaded default (assembled bytes s) = .ok next ∧ PointedOnly s next ∧
      next.mouse.bytesRead = 0 ∧ next.cursor = movedCursor bytes s.cursor := by
  have missed : hitButton default
      ((parsePacket (assembled bytes s)).record (.parse (decodePacket bytes))) = none := by
    rw [hitButton, List.find?_eq_none]
    intro button _
    simp [pressedButton, State.record, parsePacket, parse, assembled, decodePacket, released]
  have acted : checkActions loaded default
      ((parsePacket (assembled bytes s)).record (.parse (decodePacket bytes))) =
        .ok ((parsePacket (assembled bytes s)).record (.parse (decodePacket bytes))) := by
    rw [checkActions_eq loaded default (by exact outside), missed]
  refine ⟨_, (congrArg (fun acted => acted >>= _) acted).trans rfl, ?_, rfl, rfl⟩
  exact ⟨_, _, _, rfl, moves_cons_of_none rfl s.log⟩

/-- A packet with the left button up, as three interrupts. -/
theorem movePacket (loaded : LoadedSprites) (waiting : Waiting s) (outside : s.currentState ≠ .game)
    (first second third : UInt8) (opens : bit 3 first = true) (released : bit 0 first = false) :
    ∃ next, Reaches (mainLoopStep loaded) s next ∧ PointedOnly s next ∧
      next.mouse.bytesRead = 0 ∧ next.cursor = movedCursor (first, second, third) s.cursor := by
  obtain ⟨next, handled, kept⟩ :=
    handlePacket_released loaded outside (first, second, third) released
  refine ⟨next, ⟨mousePacket first second third, ?_⟩, kept⟩
  rw [foldlM_mousePacket waiting first second third opens, handled]

/-- One pixel towards a point: along the rows first, then along the columns. -/
theorem movePixel (loaded : LoadedSprites) (waiting : Waiting s) (outside : s.currentState ≠ .game)
    {x y : Int} (away : s.cursor.x ≠ x ∨ s.cursor.y ≠ y) :
    ∃ next, Reaches (mainLoopStep loaded) s next ∧ PointedOnly s next ∧ next.mouse.bytesRead = 0 ∧
      (next.cursor.x - x).natAbs + (next.cursor.y - y).natAbs <
        (s.cursor.x - x).natAbs + (s.cursor.y - y).natAbs := by
  have drive : ∀ first second third : UInt8, bit 3 first = true → bit 0 first = false →
      (s.cursor.x + (decodePacket (first, second, third)).deltaX - x).natAbs +
        (s.cursor.y - (decodePacket (first, second, third)).deltaY - y).natAbs <
          (s.cursor.x - x).natAbs + (s.cursor.y - y).natAbs →
      ∃ next, Reaches (mainLoopStep loaded) s next ∧ PointedOnly s next ∧ next.mouse.bytesRead = 0 ∧
        (next.cursor.x - x).natAbs + (next.cursor.y - y).natAbs <
          (s.cursor.x - x).natAbs + (s.cursor.y - y).natAbs := by
    intro first second third opens released closer
    obtain ⟨next, reaches, pointed, aligned, cursor⟩ :=
      movePacket loaded waiting outside first second third opens released
    refine ⟨next, reaches, pointed, aligned, ?_⟩
    rw [cursor]
    exact closer
  have right : (decodePacket (0x08, 1, 0)).deltaX = 1 ∧ (decodePacket (0x08, 1, 0)).deltaY = 0 := by
    decide
  have left : (decodePacket (0x18, 255, 0)).deltaX = -1 ∧
      (decodePacket (0x18, 255, 0)).deltaY = 0 := by decide
  have up : (decodePacket (0x08, 0, 1)).deltaX = 0 ∧ (decodePacket (0x08, 0, 1)).deltaY = 1 := by
    decide
  have down : (decodePacket (0x28, 0, 255)).deltaX = 0 ∧
      (decodePacket (0x28, 0, 255)).deltaY = -1 := by decide
  rcases Int.lt_trichotomy s.cursor.x x with less | same | more
  · exact drive 0x08 1 0 (by decide) (by decide) (by rw [right.1, right.2]; omega)
  · rcases Int.lt_trichotomy s.cursor.y y with above | level | below
    · exact drive 0x28 0 255 (by decide) (by decide) (by rw [down.1, down.2]; omega)
    · exact absurd level (away.resolve_left (fun other => other same))
    · exact drive 0x08 0 1 (by decide) (by decide) (by rw [up.1, up.2]; omega)
  · exact drive 0x18 255 0 (by decide) (by decide) (by rw [left.1, left.2]; omega)

/-- The cursor can be led to every point. -/
theorem moveTo_point (loaded : LoadedSprites) (waiting : Waiting s)
    (outside : s.currentState ≠ .game) (x y : Int) :
    ∃ next, Reaches (mainLoopStep loaded) s next ∧ PointedOnly s next ∧ next.mouse.bytesRead = 0 ∧
      next.cursor.x = x ∧ next.cursor.y = y := by
  induction measured : (s.cursor.x - x).natAbs + (s.cursor.y - y).natAbs using Nat.strong_induction_on
    generalizing s with
  | _ distance inductionHypothesis =>
      by_cases there : s.cursor.x = x ∧ s.cursor.y = y
      · exact ⟨s, .refl s, ⟨_, _, _, rfl, rfl⟩, waiting.aligned, there⟩
      · have away : s.cursor.x ≠ x ∨ s.cursor.y ≠ y := by
          rw [← not_and_or]
          exact there
        obtain ⟨closer, reaches, pointed, aligned, less⟩ :=
          movePixel loaded waiting outside away
        have stillOutside : closer.currentState ≠ .game := by
          obtain ⟨_, _, _, rfl, -⟩ := pointed
          exact outside
        obtain ⟨next, later, pointedLater, arrived⟩ :=
          inductionHypothesis _ (measured ▸ less) (waiting.pointed pointed aligned) stillOutside rfl
        exact ⟨next, reaches.trans later, pointed.trans pointedLater, arrived⟩

/-- The buttons of a screen do not depend on the mouse. -/
theorem PointedOnly.screenButtons_eq {env : Env} {next : State} (pointed : PointedOnly s next) :
    screenButtons env next = screenButtons env s := by
  obtain ⟨_, _, _, rfl, -⟩ := pointed
  rfl

/-- The only element with a property is the first one with it. -/
theorem find?_of_exclusive {α : Type} {p : α → Bool} {items : List α} {item : α}
    (exclusive : items.Pairwise fun first second => p first = true → p second = false)
    (member : item ∈ items) (holds : p item = true) : items.find? p = some item := by
  induction items with
  | nil => cases member
  | cons first items inductionHypothesis =>
      rw [List.pairwise_cons] at exclusive
      rcases List.mem_cons.mp member with rfl | later
      · exact List.find?_cons_of_pos holds
      · have clear : ¬ p first = true := by
          intro taken
          rw [exclusive.1 item later taken] at holds
          cases holds
        rw [List.find?_cons_of_neg clear]
        exact inductionHypothesis exclusive.2 later

/-- Only one button lies under the cursor. -/
theorem hitButton_of_mem {env : Env} {button : Button} (member : button ∈ screenButtons env s)
    (pressed : pressedButton button.1 s = true) : hitButton env s = some button := by
  apply find?_of_exclusive (p := fun button : Button => pressedButton button.1 s) _ member pressed
  exact (screenButtons_apart env s).imp fun apart hit => pressedButton_apart apart hit

/-- A click on a button, wherever the cursor is. -/
theorem click (loaded : LoadedSprites) {button : Button} (waiting : Waiting s)
    (outside : s.currentState ≠ .game) (member : button ∈ screenButtons default s)
    (surface : 0 ≤ button.1.width ∧ 0 ≤ button.1.height) :
    ∃ pressed, PointedOnly s pressed ∧ ∀ next, button.2 pressed = .ok next →
      Reaches (mainLoopStep loaded) s { next with mouse := { next.mouse with bytesRead := 0 } } := by
  obtain ⟨there, reaches, pointed, aligned, x, y⟩ :=
    moveTo_point loaded waiting outside button.1.x button.1.y
  have still : (decodePacket (0x09, 0, 0)).deltaX = 0 ∧ (decodePacket (0x09, 0, 0)).deltaY = 0 ∧
      (decodePacket (0x09, 0, 0)).lb = true := by decide
  refine ⟨(parsePacket (assembled (0x09, 0, 0) there)).record (.parse (decodePacket (0x09, 0, 0))),
    ?_, ?_⟩
  · apply pointed.trans
    exact ⟨_, _, _, rfl, moves_cons_of_none rfl there.log⟩
  · intro next acted
    have stillOutside : there.currentState ≠ .game := by
      obtain ⟨_, _, _, rfl, -⟩ := pointed
      exact outside
    have hit : hitButton default ((parsePacket (assembled (0x09, 0, 0) there)).record
        (.parse (decodePacket (0x09, 0, 0)))) = some button := by
      apply hitButton_of_mem
      · change button ∈ screenButtons default there
        rw [pointed.screenButtons_eq]
        exact member
      · have xStays : there.cursor.x + (decodePacket (0x09, 0, 0)).deltaX = button.1.x := by
          rw [still.1, x, Int.add_zero]
        have yStays : there.cursor.y - (decodePacket (0x09, 0, 0)).deltaY = button.1.y := by
          rw [still.2.1, y, Int.sub_zero]
        simp [pressedButton, State.record, parsePacket, parse, assembled, xStays, yStays,
          surface.1, surface.2, still.2.2]
    refine reaches.trans ⟨mousePacket 0x09 0 0, ?_⟩
    rw [foldlM_mousePacket (waiting.pointed pointed aligned) 0x09 0 0 (by decide), handlePacket_eq]
    have same : checkActions loaded default ((parsePacket (assembled (0x09, 0, 0) there)).record
        (.parse (decodePacket (0x09, 0, 0)))) = .ok next := by
      rw [checkActions_eq loaded default (by exact stillOutside), hit]
      exact acted
    exact (congrArg (fun acted => acted >>= _) same).trans rfl

/-! ### Letting the time run out -/

/-- Live objects are drawn without a fault. -/
theorem drawScreen_ok (loaded : LoadedSprites) (env : Env) (live : s.core.Live) :
    ∃ next, drawScreen loaded env s = .ok next := by
  unfold drawScreen
  cases shown : s.currentState with
  | menu | instructions | timers | highscores => exact ⟨_, rfl⟩
  | game =>
      obtain ⟨testToken, statsToken, game, holds⟩ := live.game shown
      exact ⟨_, congrArg (fun test => test >>= _) holds.derefTest⟩
  | statistics =>
      obtain ⟨token, stats, hasStats⟩ := live.statistics shown
      have pointer : s.stats = .live token stats := hasStats
      simp only [pointer, Ptr.deref_live]
      exact ⟨_, rfl⟩

theorem drawScreen_button {env : Env} {next : State} (other : s.currentState ≠ .highscores)
    (drawn : drawScreen loaded env s = .ok next) :
    next.backToMenuHighscore = s.backToMenuHighscore := by
  unfold drawScreen at drawn
  split at drawn
  · cases drawn
    rfl
  · obtain ⟨test, -, returned⟩ := bind_eq_ok.mp drawn
    cases returned
    rfl
  · cases drawn
    rfl
  · cases drawn
    rfl
  · obtain ⟨stats, -, returned⟩ := bind_eq_ok.mp drawn
    cases returned
    rfl
  · rename_i shown
    exact absurd shown other

theorem drawFrame_button {env : Env} {next : State} (drawn : drawFrame loaded env s = .ok next) :
    next.backToMenuHighscore = s.backToMenuHighscore := by
  unfold drawFrame at drawn
  split at drawn
  · cases drawn
    rfl
  · cases drawn
    rfl

theorem drawFrame_ok (loaded : LoadedSprites) (env : Env) (s : State) :
    ∃ next, drawFrame loaded env s = .ok next := by
  unfold drawFrame
  cases s.currentState with
  | game | menu | instructions | statistics | timers | highscores => exact ⟨_, rfl⟩

/-- A frame is drawn, and the back button stays where it is. -/
theorem gameDrawer_ok (loaded : LoadedSprites) (env : Env) (live : s.core.Live)
    (other : s.currentState ≠ .highscores) :
    ∃ next, gameDrawer loaded env s = .ok next ∧
      next.backToMenuHighscore = s.backToMenuHighscore := by
  rw [gameDrawer_eq]
  split
  · obtain ⟨shown, screen⟩ := drawScreen_ok loaded env live
    obtain ⟨next, frame⟩ := drawFrame_ok loaded env { shown with gameStateChange := false }
    refine ⟨next, by rw [screen]; exact frame, ?_⟩
    have placed : shown.backToMenuHighscore = s.backToMenuHighscore := drawScreen_button other screen
    exact (drawFrame_button frame).trans placed
  · obtain ⟨next, frame⟩ := drawFrame_ok loaded env s
    exact ⟨next, frame, drawFrame_button frame⟩

/-- What a drawing leaves alone, and what an action keeps of the ledger. -/
theorem gameDrawer_keeps {env : Env} {next : State} (ledger : GameLedger s.core)
    (drawn : gameDrawer loaded env s = .ok next) :
    GameLedger next.core ∧ next.currentState = s.currentState ∧ next.currentKey = s.currentKey ∧
      next.mouse = s.mouse ∧ next.timer = s.timer ∧ next.counter = s.counter ∧ next.log = s.log := by
  have kept : Outcome (fun s => GameLedger s.core) (fun _ => True) (gameDrawer loaded env s) := by
    refine (gameDrawer_chain env s).keeps ?_ ledger
    intro s outcome ledger action
    exact (step_ledger s outcome ledger (.action action)).mono (fun _ kept => kept) fun _ _ => trivial
  rw [drawn] at kept
  obtain ⟨_, _, _, _, _, rfl⟩ := gameDrawer_drawnFrom drawn
  exact ⟨kept, rfl, rfl, rfl, rfl, rfl, rfl⟩

/-- A timer interrupt and nothing else. -/
def tickMessage : Notification := { keyboard := none, timer := some default, mouse := none }

/-- A timer interrupt whose two halves go through. -/
theorem mainLoopStep_tick {ticked next : State} (awake : s.currentKey ≠ .esc)
    (updated : updateTimer default s = .ok ticked)
    (drawn : gameDrawer loaded default ticked = .ok next) :
    mainLoopStep loaded s tickMessage = .ok next := by
  rw [mainLoopStep, exitRequested_of_awake awake]
  change (updateTimer default s >>= gameDrawer loaded default) >>= pure = _
  rw [bind_pure, updated]
  exact drawn

/-- The time of the game is up, its score is recorded, and the statistics are shown. -/
structure TimeUp (s next : State) : Prop where
  shown : next.currentState = .statistics
  scored : ∀ token stats, s.stats = .live token stats →
    (scoreCalls next.log).head? = some (token, stats, (gameSpeed stats).toInt)
  moved : moves next.log = moves s.log ++ [⟨.updateTimer, .game, .statistics, none⟩]
  key : next.currentKey = s.currentKey
  mouse : next.mouse = s.mouse
  button : next.backToMenuHighscore = s.backToMenuHighscore

/-- A tick before the time is up. -/
theorem updateTimer_running (env : Env) (playing : s.currentState = .game) (running : s.timer ≠ 0) :
    updateTimer env s =
      .ok { tick s with timer := if (s.counter + 1) % 60 = 0 then s.timer - 1 else s.timer } := by
  rw [updateTimer_eq, if_pos playing, if_neg running]
  change (if (s.counter + 1) % 60 = 0 then _ else _) = _
  split_ifs with second
  · rfl
  · rfl

theorem updateTimer_ledger (loaded : LoadedSprites) {env : Env} {next : State}
    (ledger : GameLedger s.core)
    (updated : updateTimer env s = .ok next) : GameLedger next.core := by
  have kept : Outcome (fun s => GameLedger s.core) (fun _ => True) (updateTimer env s) := by
    refine Chain.keeps ?_ (updateTimer_chain env s : Chain (Action loaded) s _) ledger
    intro s outcome ledger action
    exact (step_ledger s outcome ledger (.action action)).mono (fun _ kept => kept) fun _ _ => trivial
  rw [updated] at kept
  exact kept

/-- The tick at which the time is up. -/
theorem finalTick (ledger : GameLedger s.core) (awake : s.currentKey ≠ .esc)
    (playing : s.currentState = .game) (expired : s.timer = 0) :
    ∃ next, mainLoopStep loaded s tickMessage = .ok next ∧ TimeUp s next := by
  obtain ⟨testToken, statsToken, game, holds⟩ := ledger.live.game playing
  have changed := setGameState_statistics default .updateTimer (s := tick s) holds.test holds.stats
    (ledger.timed playing holds)
  have updated : updateTimer default s =
      .ok (gameFinished default .updateTimer testToken statsToken game.stats (tick s)) := by
    rw [updateTimer_eq, if_pos playing, if_pos expired]
    exact changed
  have ledgerNext := updateTimer_ledger loaded ledger updated
  have entered := setGameState_enteredFrom changed
  obtain ⟨next, drawn, button⟩ := gameDrawer_ok loaded default ledgerNext.live
    (by rw [entered.shown]; simp)
  obtain ⟨-, screen, key, mouse, -, -, log⟩ := gameDrawer_keeps ledgerNext drawn
  refine ⟨next, mainLoopStep_tick awake updated drawn, ?_⟩
  exact
    { shown := screen.trans entered.shown
      scored := by
        intro token stats hasStats
        have mine : s.stats = .live statsToken game.stats := holds.stats
        rw [hasStats, Ptr.live.injEq] at mine
        obtain ⟨rfl, rfl⟩ := mine
        rw [log]
        rfl
      moved := by
        rw [log, entered.moves_eq, moveTo]
        rw [show (tick s).currentState = .game from playing]
        rfl
      key := key.trans (setGameState_currentKey changed)
      mouse := mouse
      button := button }

/-- Timer interrupts alone end every game: one for each that the remaining seconds still take, and one
that finds the time up. -/
theorem timeRunsOut (ledger : GameLedger s.core) (awake : s.currentKey ≠ .esc)
    (playing : s.currentState = .game) (timed : 0 ≤ s.timer) :
    ∃ next,
      (List.replicate ((60 * s.timer - s.counter % 60).toNat + 1) tickMessage).foldlM
        (mainLoopStep loaded) s = .ok next ∧ TimeUp s next := by
  induction measured : (60 * s.timer - s.counter % 60).toNat generalizing s with
  | zero =>
      obtain ⟨next, stepped, ended⟩ := @finalTick loaded s ledger awake playing (by omega)
      refine ⟨next, ?_, ended⟩
      rw [List.replicate_one, List.foldlM_cons, stepped]
      rfl
  | succ distance inductionHypothesis =>
      have updated := updateTimer_running default playing (show s.timer ≠ 0 by omega)
      have ledgerTicked := updateTimer_ledger loaded ledger updated
      obtain ⟨next, drawn, button⟩ := gameDrawer_ok loaded default ledgerTicked.live
        (by change s.currentState ≠ _; rw [playing]; simp)
      obtain ⟨ledgerNext, screen, key, mouse, timer, counter, log⟩ :=
        gameDrawer_keeps ledgerTicked drawn
      have stats : next.stats = s.stats := by
        obtain ⟨_, _, _, _, _, rfl⟩ := gameDrawer_drawnFrom drawn
        rfl
      change next.counter = s.counter + 1 at counter
      change next.timer = (if (s.counter + 1) % 60 = 0 then s.timer - 1 else s.timer) at timer
      -- every tick brings the end closer by one, also the tick that counts a second
      have timedNext : 0 ≤ next.timer := by
        rw [timer]
        split_ifs with second
        · omega
        · exact timed
      have closer : (60 * next.timer - next.counter % 60).toNat = distance := by
        rw [timer, counter]
        split_ifs with second
        · omega
        · omega
      obtain ⟨finish, ran, ended⟩ := inductionHypothesis ledgerNext (by rw [key]; exact awake)
        (screen.trans playing) timedNext closer
      refine ⟨finish, ?_, ?_⟩
      · rw [List.replicate_succ, List.foldlM_cons, mainLoopStep_tick awake updated drawn]
        exact ran
      · exact
          { shown := ended.shown
            scored := by
              rw [← stats]
              exact ended.scored
            moved := by
              rw [ended.moved, log]
              rfl
            key := ended.key.trans key
            mouse := ended.mouse.trans mouse
            button := ended.button.trans button }

end Driving

/-! ### Every walk is a run -/

/-- A run has walked through the map to the screen, and waits there. -/
structure Reached (loaded : LoadedSprites) (file : List Char) (walk : List Move) (screen : GameState)
    (s : State) : Prop where
  ran : ∃ messages, run loaded file messages = .ok s
  moved : moves s.log = opened :: walk
  shown : s.currentState = screen
  waiting : Waiting s
  timed : screen = .game → 0 ≤ s.timer

/-- What a screen change does to a waiting state. -/
structure Entered (move : Move) (s next : State) : Prop where
  moved : moves next.log = moves s.log ++ [move]
  shown : next.currentState = move.target
  awake : next.currentKey ≠ .esc
  button : next.backToMenuHighscore = s.backToMenuHighscore
  timed : move.target = .game → 0 ≤ next.timer

section Walking

variable {loaded : LoadedSprites} {file : List Char} {walk : List Move} {screen : GameState}
  {move : Move} {s next : State}

/-- One move further. -/
theorem Reached.further (reached : Reached loaded file walk screen s)
    (reaches : Reaches (mainLoopStep loaded) s next) (entered : Entered move s next)
    (aligned : next.mouse.bytesRead = 0) :
    ∃ next, Reached loaded file (walk ++ [move]) move.target next := by
  obtain ⟨messages, ran⟩ := reached.ran
  have first : Reaches (mainLoopStep loaded) (setup file) s := ⟨messages, ran⟩
  obtain ⟨later, ranLater⟩ := first.trans reaches
  exact ⟨next,
    { ran := ⟨later, ranLater⟩
      moved := by rw [entered.moved, reached.moved, List.cons_append]
      shown := entered.shown
      waiting :=
        { awake := entered.awake
          aligned := aligned
          width := by rw [entered.button]; exact reached.waiting.width
          height := by rw [entered.button]; exact reached.waiting.height }
      timed := entered.timed }⟩

/-- Only the statistics can be missing. -/
theorem setGameState_entered (env : Env) (caller : Caller) {target : GameState}
    (plain : target ≠ .statistics) (awake : target = .menu ∨ s.currentKey ≠ .esc)
    (timed : target = .game → 0 ≤ s.timer) :
    ∃ next, setGameState env caller target s = .ok next ∧ Entered (moveTo caller target s) s next ∧
      next.mouse = s.mouse := by
  obtain ⟨next, changed⟩ : ∃ next, setGameState env caller target s = .ok next := by
    cases target with
    | menu | instructions | timers | highscores => exact ⟨_, rfl⟩
    | game => exact ⟨_, setGameState_game env caller s⟩
    | statistics => exact absurd rfl plain
  have entered := setGameState_enteredFrom changed
  have moved := entered.moves_eq
  have key := setGameState_currentKey changed
  refine ⟨next, changed, ?_⟩
  obtain ⟨_, _, _, _, _, _, _, rfl, -⟩ := entered
  constructor
  · exact
      { moved := moved
        shown := rfl
        awake := by
          rw [key]
          split_ifs with menu
          · decide
          · exact awake.resolve_left menu
        button := rfl
        timed := timed }
  · rfl

/-- A click on a button whose action is a move. -/
theorem Reached.press {button : Button} (reached : Reached loaded file walk screen s)
    (outside : screen ≠ .game) (member : button ∈ screenButtons default s)
    (surface : 0 ≤ button.1.width ∧ 0 ≤ button.1.height)
    (acts : ∀ pressed, PointedOnly s pressed →
      ∃ next, button.2 pressed = .ok next ∧ Entered move pressed next) :
    ∃ next, Reached loaded file (walk ++ [move]) move.target next := by
  obtain ⟨pressed, pointed, clicks⟩ :=
    click loaded reached.waiting (by rw [reached.shown]; exact outside) member surface
  obtain ⟨next, acted, entered⟩ := acts pressed pointed
  apply reached.further (clicks next acted) _ rfl
  obtain ⟨_, _, _, rfl, still⟩ := pointed
  exact
    { moved := by
        rw [← still]
        exact entered.moved
      shown := entered.shown
      awake := entered.awake
      button := entered.button
      timed := entered.timed }

/-- What a click leaves alone. -/
theorem PointedOnly.keeps (pointed : PointedOnly s next) :
    next.currentState = s.currentState ∧ next.currentKey = s.currentKey ∧ next.stats = s.stats := by
  obtain ⟨_, _, _, rfl, -⟩ := pointed
  exact ⟨rfl, rfl, rfl⟩

/-- A click on a button that leads to another screen. -/
theorem Reached.pressPlain {sprite : Sprite} {target : GameState}
    (reached : Reached loaded file walk screen s) (outside : screen ≠ .game)
    (member : (sprite, setGameState default .checkActions target) ∈ screenButtons default s)
    (surface : 0 ≤ sprite.width ∧ 0 ≤ sprite.height) (noStatistics : target ≠ .statistics)
    (noGame : target ≠ .game) :
    ∃ next, Reached loaded file (walk ++ [⟨.checkActions, screen, target, none⟩]) target next := by
  refine reached.press outside member surface ?_
  intro pressed pointed
  obtain ⟨shown, key, -⟩ := pointed.keeps
  obtain ⟨next, changed, entered, -⟩ := setGameState_entered (s := pressed) default .checkActions
    noStatistics (.inr (by rw [key]; exact reached.waiting.awake)) (fun game => absurd game noGame)
  refine ⟨next, changed, ?_⟩
  rw [moveTo, if_neg noGame, shown, reached.shown] at entered
  exact entered

/-- The scancode of a key in a notification of its own. -/
theorem mainLoopStep_keyPress (awake : s.currentKey ≠ .esc) (code : UInt8) :
    mainLoopStep loaded s (keyPress code) =
      dispatchScancode loaded default { s with data := code } >>=
        leaveByKey default s.currentState := by
  have read : kbcIh { status := some 0x01, output := some code } s.data = code := by
    have status : bit 7 0x01 = false ∧ bit 6 0x01 = false ∧ bit 0 0x01 = true := by decide
    simp [kbcIh, kbcRead, status]
  have served : handleNotification loaded (keyPress code) s =
      keyHandler loaded { status := some 0x01, output := some code } default s := by
    simp [handleNotification, keyPress]
  rw [mainLoopStep, exitRequested_of_awake awake, if_neg Bool.false_ne_true, served, keyHandler_eq,
    updateKeyboard, read]

theorem dispatchScancode_enter (env : Env) (s : State) :
    dispatchScancode loaded env { s with data := keyEnter } =
      .ok { s with data := keyEnter, currentKey := .enter } := by
  have code : bit 7 keyEnter = false ∧ charMap keyEnter = none ∧ keyEnter ≠ keySpace := by decide
  simp [dispatchScancode, code]

theorem dispatchScancode_escape (env : Env) (s : State) :
    dispatchScancode loaded env { s with data := keyEsc } =
      .ok { s with data := keyEsc, currentKey := .esc } := by
  have code : bit 7 keyEsc = false ∧ charMap keyEsc = none ∧ keyEsc ≠ keySpace ∧
      keyEsc ≠ keyEnter ∧ keyEsc ≠ keyDelete := by decide
  simp [dispatchScancode, code]

theorem Reached.ledger (reached : Reached loaded file walk screen s) : GameLedger s.core := by
  obtain ⟨messages, ran⟩ := reached.ran
  have kept := run_ledger loaded file messages
  rw [ran] at kept
  exact kept

/-- A key that leaves the screen. -/
theorem Reached.press_key {typed : State} {code : UInt8}
    (reached : Reached loaded file walk screen s)
    (pressed : dispatchScancode loaded default { s with data := code } = .ok typed)
    (left : leaveByKey default s.currentState typed = .ok next) (entered : Entered move s next)
    (mouse : next.mouse = s.mouse) : ∃ next, Reached loaded file (walk ++ [move]) move.target next := by
  have stepped : mainLoopStep loaded s (keyPress code) = .ok next := by
    rw [mainLoopStep_keyPress reached.waiting.awake, pressed]
    exact left
  apply reached.further (.single stepped) entered
  rw [mouse]
  exact reached.waiting.aligned

theorem Reached.enter (reached : Reached loaded file walk .menu s) :
    ∃ next, Reached loaded file (walk ++ [⟨.keyHandler, .menu, .timers, none⟩]) .timers next := by
  have awake : ({ s with data := keyEnter, currentKey := .enter } : State).currentKey ≠ .esc :=
    Key.noConfusion
  obtain ⟨next, changed, entered, mouse⟩ := setGameState_entered default .keyHandler
    (by decide : GameState.timers ≠ .statistics) (.inr awake) GameState.noConfusion
  refine reached.press_key (dispatchScancode_enter default s) ?_ ?_ mouse
  · rw [leaveByKey, if_pos reached.shown, if_pos rfl]
    exact changed
  · have source : moveTo .keyHandler .timers { s with data := keyEnter, currentKey := .enter } =
        ⟨.keyHandler, .menu, .timers, none⟩ := by
      rw [← reached.shown]
      rfl
    rw [← source]
    exact ⟨entered.moved, entered.shown, entered.awake, entered.button, entered.timed⟩

theorem Reached.escape (reached : Reached loaded file walk screen s) (away : screen ≠ .menu) :
    ∃ next, Reached loaded file (walk ++ [⟨.keyHandler, screen, .menu, none⟩]) .menu next := by
  obtain ⟨next, changed, entered, mouse⟩ :=
    setGameState_entered (s := { s with data := keyEsc, currentKey := .esc }) default .keyHandler
      (by decide : GameState.menu ≠ .statistics) (.inl rfl) GameState.noConfusion
  have source : moveTo .keyHandler .menu { s with data := keyEsc, currentKey := .esc } =
      ⟨.keyHandler, screen, .menu, none⟩ := by
    rw [← reached.shown]
    rfl
  rw [source] at entered
  have left : leaveByKey default s.currentState { s with data := keyEsc, currentKey := .esc } =
      .ok { next with currentKey := .noneKey } := by
    rw [leaveByKey, if_neg (by rw [reached.shown]; exact away), if_pos rfl, changed]
    rfl
  refine reached.press_key (dispatchScancode_escape default s) left ?_ mouse
  exact ⟨entered.moved, entered.shown, Key.noConfusion, entered.button, entered.timed⟩

/-- BACK TO MENU after a game. -/
theorem Reached.backToMenu (reached : Reached loaded file walk .statistics s) :
    ∃ next, Reached loaded file (walk ++ [⟨.checkActions, .statistics, .menu, none⟩]) .menu next := by
  have member : (backToMenuSprite, fun s => setGameState default .checkActions .menu s >>= destroyStats)
      ∈ screenButtons default s := by simp [screenButtons, reached.shown]
  refine reached.press (by decide) member (by decide) ?_
  intro pressed pointed
  obtain ⟨shown, -, stats⟩ := pointed.keeps
  obtain ⟨token, shownStats, hasStats⟩ := reached.ledger.live.statistics reached.shown
  have pointer : pressed.core.stats = .live token shownStats := stats.trans hasStats
  refine ⟨_, backToMenu_eq default pointer, ?_⟩
  exact
    { moved := by
        change moves (_ :: _ :: pressed.log) = _
        rw [moves_cons_of_none rfl, moves_cons_of_some rfl, shown, reached.shown]
        rfl
      shown := rfl
      awake := Key.noConfusion
      button := rfl
      timed := GameState.noConfusion }

/-- A time is chosen. -/
theorem Reached.choose {sprite : Sprite} {seconds : Int}
    (reached : Reached loaded file walk .timers s)
    (member : (sprite, fun s : State =>
      setGameState default .checkActions .game { s with timer := seconds }) ∈ screenButtons default s)
    (surface : 0 ≤ sprite.width ∧ 0 ≤ sprite.height) (positive : 0 ≤ seconds) :
    ∃ next, Reached loaded file (walk ++ [⟨.checkActions, .timers, .game, some seconds⟩]) .game
      next := by
  refine reached.press (by decide) member surface ?_
  intro pressed pointed
  obtain ⟨shown, key, -⟩ := pointed.keeps
  have awake : ({ pressed with timer := seconds } : State).currentKey ≠ .esc := by
    change pressed.currentKey ≠ .esc
    rw [key]
    exact reached.waiting.awake
  obtain ⟨next, changed, entered, -⟩ := setGameState_entered default .checkActions
    (by decide : GameState.game ≠ .statistics) (.inr awake) (fun _ => positive)
  have source : moveTo .checkActions .game { pressed with timer := seconds } =
      ⟨.checkActions, .timers, .game, some seconds⟩ := by
    rw [← reached.shown, ← shown]
    rfl
  rw [source] at entered
  exact ⟨next, changed, entered.moved, entered.shown, entered.awake, entered.button, entered.timed⟩

/-- Waiting for the end of a game. -/
theorem Reached.timeUp (reached : Reached loaded file walk .game s) :
    ∃ next, Reached loaded file (walk ++ [⟨.updateTimer, .game, .statistics, none⟩]) .statistics
      next := by
  obtain ⟨next, ticking, ended⟩ := timeRunsOut reached.ledger reached.waiting.awake
    reached.shown (reached.timed rfl)
  refine reached.further ⟨_, ticking⟩ ?_ (by rw [ended.mouse]; exact reached.waiting.aligned)
  exact
    { moved := ended.moved
      shown := ended.shown
      awake := by
        rw [ended.key]
        exact reached.waiting.awake
      button := ended.button
      timed := GameState.noConfusion }

/-- Every way out of a screen can be taken. -/
theorem Reached.follow (reached : Reached loaded file walk screen s) (way : Way move)
    (source : move.source = screen) :
    ∃ next, Reached loaded file (walk ++ [move]) move.target next := by
  subst source
  cases way with
  | enter => exact reached.enter
  | escape away => exact reached.escape away
  | click leads =>
      have shown := reached.shown
      cases leads with
      | play =>
          have member : (playSprite, setGameState default .checkActions .timers) ∈
              screenButtons default s := by simp [screenButtons, shown]
          exact reached.pressPlain (by decide) member (by decide) (by decide) (by decide)
      | instructions =>
          have member : (instructionsSprite, setGameState default .checkActions .instructions) ∈
              screenButtons default s := by simp [screenButtons, shown]
          exact reached.pressPlain (by decide) member (by decide) (by decide) (by decide)
      | highscores =>
          have member : (highscoresSprite, setGameState default .checkActions .highscores) ∈
              screenButtons default s := by simp [screenButtons, shown]
          exact reached.pressPlain (by decide) member (by decide) (by decide) (by decide)
      | playAgain =>
          have member : (playAgainSprite, setGameState default .checkActions .timers) ∈
              screenButtons default s := by simp [screenButtons, shown]
          exact reached.pressPlain (by decide) member (by decide) (by decide) (by decide)
      | back =>
          have member : (s.backToMenuHighscore, setGameState default .checkActions .menu) ∈
              screenButtons default s := by simp [screenButtons, shown]
          exact reached.pressPlain (by decide) member ⟨reached.waiting.width, reached.waiting.height⟩
            (by decide) (by decide)
  | backToMenu => exact reached.backToMenu
  | choose offered =>
      have shown := reached.shown
      rcases offered with rfl | rfl | rfl
      · have member : (timer15Sprite, fun s : State =>
            setGameState default .checkActions .game { s with timer := 15 }) ∈
              screenButtons default s := by simp [screenButtons, shown]
        exact reached.choose member (by decide) (by decide)
      · have member : (timer30Sprite, fun s : State =>
            setGameState default .checkActions .game { s with timer := 30 }) ∈
              screenButtons default s := by simp [screenButtons, shown]
        exact reached.choose member (by decide) (by decide)
      · have member : (timer60Sprite, fun s : State =>
            setGameState default .checkActions .game { s with timer := 60 }) ∈
              screenButtons default s := by simp [screenButtons, shown]
        exact reached.choose member (by decide) (by decide)
  | timeUp => exact reached.timeUp

/-- Every walk of the map goes on from wherever a run waits. -/
theorem Reached.walk_on {later : List Move} {target : GameState}
    (walked : AbstractRun Navigates screen later target)
    (reached : Reached loaded file walk screen s) :
    ∃ next, Reached loaded file (walk ++ later) target next := by
  induction walked generalizing walk s with
  | nil screen =>
      rw [List.append_nil]
      exact ⟨s, reached⟩
  | @cons screen middle target move later navigates _ inductionHypothesis =>
      obtain ⟨way, source, rfl⟩ := navigates
      obtain ⟨next, further⟩ := reached.follow way source
      obtain ⟨finish, arrived⟩ := inductionHypothesis further
      rw [List.append_assoc] at arrived
      exact ⟨finish, arrived⟩

end Walking

/-- The program refines the map, and nothing of the map is out of its reach: whatever sprites are
loaded and whatever the high-score file holds, the screen changes of the runs that end in a screen are
exactly the walks through the map from the menu to that screen. -/
theorem walks_are_runs (loaded : LoadedSprites) (file : List Char) (walk : List Move)
    (target : GameState) :
    (∃ messages s, run loaded file messages = .ok s ∧ moves s.log = opened :: walk ∧
      s.currentState = target) ↔ AbstractRun Navigates .menu walk target := by
  constructor
  · rintro ⟨messages, s, ran, made, rfl⟩
    obtain ⟨walked, log, navigated⟩ := run_walks ran
    have same : opened :: walked = opened :: walk := log.symm.trans made
    rw [List.cons_inj_right] at same
    rw [← same]
    exact navigated
  · intro walked
    have start : Reached loaded file [] .menu (setup file) :=
      { ran := ⟨[], rfl⟩
        moved := rfl
        shown := rfl
        waiting := ⟨Key.noConfusion, rfl, by change (0 : Int) ≤ 170; decide,
          by change (0 : Int) ≤ 68; decide⟩
        timed := GameState.noConfusion }
    obtain ⟨s, reached⟩ := Reached.walk_on walked start
    obtain ⟨messages, ran⟩ := reached.ran
    exact ⟨messages, s, ran, reached.moved, reached.shown⟩

end TypingTutor
