/-
Module: TypingTutor.Proofs.Screens
Layer: Proofs
Purpose: Screen changes.  What `setGameState` makes of each screen, the buttons of a screen, of which
  at most one is hit, and the automaton that `checkActions` runs in a game.
Trusted boundary: none
Main exports: setGameState_game, setGameState_statistics, setGameState_statistics_inv,
  setGameState_enteredFrom, screenButtons, hitButton, checkActions_eq, gestureStep, checkActions_cases
-/
import TypingTutor.Proofs.Edits

namespace TypingTutor

open Runs

/-! ### Screen changes -/

/-- The test that a game starts with: the pool and the count of `setGameState` pass the checks of
`initializeTest`. -/
def freshTest (env : Env) : TypingTest :=
  { words :=
      (List.range 40).map (fun i => newWord (poolWord (env.rand i % 100)) (env.junk i)) ++
        [sentinelWord]
    wordCount := 40
    currentWordIndex := 0
    currentInputIndex := 0
    currentInput := List.replicate maxWordLength '\x00'
    numberOfLines := -1 }

theorem initializeTest_game (env : Env) : initializeTest env 100 40 = .ok (freshTest env) := by
  have poolFits : ¬ (100 > poolSize ∨ 100 = 0) := by decide
  have countFits : ¬ (40 = 0 ∨ 40 > maxWords) := by decide
  rw [initializeTest, if_neg poolFits, if_neg countFits]
  rfl

/-- A game always starts. -/
theorem setGameState_game (env : Env) (caller : Caller) (s : State) :
    setGameState env caller .game s =
      .ok { s with
        currentState := .game
        gameStateChange := true
        stars := 3
        test := .live s.nextToken (freshTest env)
        stats := .live (s.nextToken + 1) (initializeStats s.timer)
        nextToken := s.nextToken + 2
        log := .initializeStats (s.nextToken + 1) s.timer :: .initializeTest s.nextToken ::
          .setGameState caller s.currentState .game s.timer s.gestureState :: s.log } := by
  simp only [setGameState, startGame, initializeTest_game]
  rfl

/-- The state after a game is finished. -/
def gameFinished (env : Env) (caller : Caller) (testToken token : Nat) (stats : Statistics)
    (s : State) : State :=
  { s with
    currentState := .statistics
    gameStateChange := true
    test := .freed testToken
    scores := updateHighScores env.fopen (gameSpeed stats) (env.rtc 0) s.scores
    log := .updateHighScores token stats (gameSpeed stats).toInt (env.rtc 0) ::
      .destroyTest testToken ::
        .setGameState caller s.currentState .statistics s.timer s.gestureState :: s.log }

/-- With live objects and a nonzero duration a game is finished. -/
theorem setGameState_statistics (env : Env) (caller : Caller) {s : State} {testToken : Nat}
    {test : TypingTest} {token : Nat} {stats : Statistics} (hasTest : s.test = .live testToken test)
    (hasStats : s.stats = .live token stats) (timed : stats.time ≠ 0) :
    setGameState env caller .statistics s =
      .ok (gameFinished env caller testToken token stats s) := by
  simp only [setGameState, finishGame, destroyTest, hasTest, hasStats, Ptr.deref_live]
  simp [gameFinished, hasStats, Ptr.free, Ptr.token?, bind, Except.bind, pure, Except.pure, timed]

/-- The only ways to fail: a dead object, or a division by zero. -/
theorem setGameState_statistics_inv {env : Env} {caller : Caller} {s next : State}
    (changed : setGameState env caller .statistics s = .ok next) :
    ∃ testToken token stats, next = gameFinished env caller testToken token stats s := by
  have steps := changed
  simp only [setGameState, finishGame, destroyTest, bind_eq_ok] at steps
  obtain ⟨stats, hasStats, freed, ⟨pointer, freeing, -⟩, divided⟩ := steps
  obtain ⟨token, hasStats⟩ := Ptr.deref_eq_ok hasStats
  have timed : stats.time ≠ 0 := by
    intro zero
    rw [if_pos zero] at divided
    cases divided
  cases hasTest : s.test with
  | null => simp [hasTest, Ptr.free] at freeing
  | freed testToken => simp [hasTest, Ptr.free] at freeing
  | live testToken test =>
      rw [setGameState_statistics env caller hasTest hasStats timed] at changed
      cases changed
      exact ⟨testToken, token, stats, rfl⟩

/-- The call is a screen change. -/
def Call.changesScreen : Call → Bool
  | .setGameState _ _ _ _ _ => true
  | _ => false

/-- The state after a screen change: the target is shown, and the change is recorded behind the calls
made for it. -/
def EnteredFrom (caller : Caller) (target : GameState) (s next : State) : Prop :=
  ∃ key stars test stats scores token made, next =
    { s with
      currentKey := key
      currentState := target
      gameStateChange := true
      stars := stars
      test := test
      stats := stats
      scores := scores
      nextToken := token
      log := made ++ .setGameState caller s.currentState target s.timer s.gestureState :: s.log } ∧
    ∀ call ∈ made, call.changesScreen = false

theorem setGameState_enteredFrom {env : Env} {caller : Caller} {target : GameState} {s next : State}
    (changed : setGameState env caller target s = .ok next) : EnteredFrom caller target s next := by
  cases target with
  | menu | timers | instructions =>
      cases changed
      exact ⟨_, _, _, _, _, _, [], rfl, by simp⟩
  | highscores =>
      cases changed
      exact ⟨_, _, _, _, _, _, [.loadHighScores], rfl, by simp [Call.changesScreen]⟩
  | game =>
      rw [setGameState_game] at changed
      cases changed
      exact ⟨_, _, _, _, _, _, [.initializeStats _ _, .initializeTest _], rfl,
        by simp [Call.changesScreen]⟩
  | statistics =>
      obtain ⟨testToken, token, stats, rfl⟩ := setGameState_statistics_inv changed
      exact ⟨_, _, _, _, _, _, [.updateHighScores _ _ _ _, .destroyTest _], rfl,
        by simp [Call.changesScreen]⟩

/-! ### Buttons

`checkActions` tests the buttons of a screen one after the other, and goes on testing after a hit.
The buttons of one screen do not overlap, so at most one of them is hit. -/

/-- A button and what pressing it does. -/
abbrev Button := Sprite × (State → Except Fault State)

/-- The tests of one screen in order. -/
def pressEach (buttons : List Button) (s : State) : Except Fault State :=
  buttons.foldlM (fun s button => onPress button.1 button.2 s) s

/-- The rectangles have no point in common. -/
def Apart (first second : Sprite) : Prop :=
  first.y + first.height < second.y ∨ first.x + first.width < second.x

/-- The action leaves the cursor, the mouse and the scancode as they are. -/
def KeepsDevices (action : State → Except Fault State) : Prop :=
  ∀ s next, action s = .ok next →
    next.cursor = s.cursor ∧ next.mouse = s.mouse ∧ next.data = s.data

theorem pressedButton_congr {s next : State} (button : Sprite) (cursor : next.cursor = s.cursor)
    (mouse : next.mouse = s.mouse) : pressedButton button next = pressedButton button s := by
  simp only [pressedButton, cursor, mouse]

theorem pressedButton_apart {first second : Sprite} {s : State} (apart : Apart first second)
    (pressed : pressedButton first s = true) : pressedButton second s = false := by
  simp only [pressedButton, Bool.and_eq_true, decide_eq_true_eq] at pressed
  simp only [pressedButton, Bool.and_eq_false_iff, decide_eq_false_iff_not]
  rcases apart with below | right
  · omega
  · omega

/-- When no button is under the cursor, nothing happens. -/
theorem pressEach_of_none {buttons : List Button} {s : State}
    (missed : ∀ button ∈ buttons, pressedButton button.1 s = false) :
    pressEach buttons s = .ok s := by
  induction buttons with
  | nil => rfl
  | cons button buttons inductionHypothesis =>
      have here : onPress button.1 button.2 s = .ok s := by
        simp [onPress, missed button List.mem_cons_self]
      rw [pressEach, List.foldlM_cons, here]
      exact inductionHypothesis fun other member => missed other (List.mem_cons_of_mem _ member)

/-- Non-overlapping buttons: the tests amount to the action of the one button that is hit. -/
theorem pressEach_eq {buttons : List Button}
    (apart : buttons.Pairwise fun first second => Apart first.1 second.1)
    (keeps : ∀ button ∈ buttons, KeepsDevices button.2) (s : State) :
    pressEach buttons s =
      match buttons.find? fun button => pressedButton button.1 s with
      | some button => button.2 s
      | none => .ok s := by
  induction buttons with
  | nil => rfl
  | cons button buttons inductionHypothesis =>
      rw [List.pairwise_cons] at apart
      rw [pressEach, List.foldlM_cons]
      cases hit : pressedButton button.1 s with
      | true =>
          have here : onPress button.1 button.2 s = button.2 s := by simp [onPress, hit]
          rw [List.find?_cons_of_pos (p := fun button : Button => pressedButton button.1 s) hit, here]
          change (button.2 s >>= pressEach buttons) = button.2 s
          cases acted : button.2 s with
          | error fault => rfl
          | ok next =>
              obtain ⟨cursor, mouse, -⟩ := keeps button List.mem_cons_self s next acted
              refine pressEach_of_none ?_
              intro other member
              rw [pressedButton_congr other.1 cursor mouse]
              exact pressedButton_apart (apart.1 other member) hit
      | false =>
          have here : onPress button.1 button.2 s = .ok s := by simp [onPress, hit]
          rw [List.find?_cons_of_neg (by simp [hit]), here]
          exact inductionHypothesis apart.2
            fun other member => keeps other (List.mem_cons_of_mem _ member)

/-- A screen change leaves the devices alone. -/
theorem setGameState_keepsDevices (env : Env) (caller : Caller) (state : GameState) :
    KeepsDevices (setGameState env caller state) := by
  intro s next changed
  obtain ⟨_, _, _, _, _, _, _, rfl, -⟩ := setGameState_enteredFrom changed
  exact ⟨rfl, rfl, rfl⟩

/-- The buttons of each screen, as `checkActions` tests them. -/
def screenButtons (env : Env) (s : State) : List Button :=
  match s.currentState with
  | .menu =>
      [(playSprite, setGameState env .checkActions .timers),
        (instructionsSprite, setGameState env .checkActions .instructions),
        (highscoresSprite, setGameState env .checkActions .highscores)]
  | .timers =>
      [(timer15Sprite, fun s => setGameState env .checkActions .game { s with timer := 15 }),
        (timer30Sprite, fun s => setGameState env .checkActions .game { s with timer := 30 }),
        (timer60Sprite, fun s => setGameState env .checkActions .game { s with timer := 60 })]
  | .statistics =>
      [(backToMenuSprite, fun s => setGameState env .checkActions .menu s >>= destroyStats),
        (playAgainSprite, setGameState env .checkActions .timers)]
  | .highscores => [(s.backToMenuHighscore, setGameState env .checkActions .menu)]
  | .game => []
  | .instructions => []

/-- The button under the cursor, when the left button is down. -/
def hitButton (env : Env) (s : State) : Option Button :=
  (screenButtons env s).find? fun button => pressedButton button.1 s

theorem screenButtons_apart (env : Env) (s : State) :
    (screenButtons env s).Pairwise fun first second => Apart first.1 second.1 := by
  have menuApart : Apart playSprite instructionsSprite ∧ Apart playSprite highscoresSprite ∧
      Apart instructionsSprite highscoresSprite := by
    simp only [Apart]
    decide
  have timersApart : Apart timer15Sprite timer30Sprite ∧ Apart timer15Sprite timer60Sprite ∧
      Apart timer30Sprite timer60Sprite := by
    simp only [Apart]
    decide
  have statisticsApart : Apart backToMenuSprite playAgainSprite := by
    simp only [Apart]
    decide
  cases screen : s.currentState with
  | menu => simp [screenButtons, screen, menuApart]
  | timers => simp [screenButtons, screen, timersApart]
  | statistics => simp [screenButtons, screen, statisticsApart]
  | highscores | game | instructions => simp [screenButtons, screen]

/-- What holds of every screen change that a button makes holds of every button. -/
theorem forall_screenButtons {env : Env} {Kept : (State → Except Fault State) → Prop}
    (change : ∀ state, Kept (setGameState env .checkActions state))
    (choose : ∀ seconds : Int,
      Kept fun s => setGameState env .checkActions .game { s with timer := seconds })
    (back : Kept fun s => setGameState env .checkActions .menu s >>= destroyStats) (s : State) :
    ∀ button ∈ screenButtons env s, Kept button.2 := by
  cases screen : s.currentState with
  | menu => simp [screenButtons, screen, change]
  | timers => simp [screenButtons, screen, choose]
  | statistics => simp [screenButtons, screen, back, change]
  | highscores => simp [screenButtons, screen, change]
  | game | instructions => simp [screenButtons, screen]

/-- The state after the action of a button: another screen is shown, the game and the scores have been
attended to, and the remembered key is kept or forgotten. -/
def PressedFrom (s next : State) : Prop :=
  ∃ key screen timer stars test stats scores token log,
    (key = s.currentKey ∨ key = .noneKey) ∧
      next =
        { s with
          currentKey := key
          currentState := screen
          gameStateChange := true
          timer := timer
          stars := stars
          test := test
          stats := stats
          scores := scores
          nextToken := token
          log := log }

theorem setGameState_pressedFrom {env : Env} {caller : Caller} {target : GameState} {s next : State}
    (changed : setGameState env caller target s = .ok next) : PressedFrom s next := by
  cases target with
  | menu =>
      cases changed
      exact ⟨_, _, _, _, _, _, _, _, _, .inr rfl, rfl⟩
  | timers | instructions | highscores =>
      cases changed
      exact ⟨_, _, _, _, _, _, _, _, _, .inl rfl, rfl⟩
  | game =>
      rw [setGameState_game] at changed
      cases changed
      exact ⟨_, _, _, _, _, _, _, _, _, .inl rfl, rfl⟩
  | statistics =>
      obtain ⟨testToken, token, stats, rfl⟩ := setGameState_statistics_inv changed
      exact ⟨_, _, _, _, _, _, _, _, _, .inl rfl, rfl⟩

theorem screenButtons_pressedFrom (env : Env) (s : State) :
    ∀ button ∈ screenButtons env s, ∀ s next, button.2 s = .ok next → PressedFrom s next := by
  apply @forall_screenButtons env fun action => ∀ s next, action s = .ok next → PressedFrom s next
  · intro target s next changed
    exact setGameState_pressedFrom changed
  · intro seconds s next changed
    obtain ⟨_, _, _, _, _, _, _, _, _, key, rfl⟩ := setGameState_pressedFrom changed
    exact ⟨_, _, _, _, _, _, _, _, _, key, rfl⟩
  · intro s next pressed
    obtain ⟨middle, changed, freed⟩ := bind_eq_ok.mp pressed
    obtain ⟨_, _, _, _, _, _, _, _, _, key, rfl⟩ := setGameState_pressedFrom changed
    obtain ⟨stats, -, returned⟩ := bind_eq_ok.mp freed
    cases returned
    exact ⟨_, _, _, _, _, _, _, _, _, key, rfl⟩

theorem screenButtons_keepDevices (env : Env) (s : State) :
    ∀ button ∈ screenButtons env s, KeepsDevices button.2 := by
  intro button member s next pressed
  obtain ⟨_, _, _, _, _, _, _, _, _, -, rfl⟩ :=
    screenButtons_pressedFrom env _ button member s next pressed
  exact ⟨rfl, rfl, rfl⟩

/-- `checkActions` outside `GAME` performs the action of the button under the cursor, if there is
one. -/
theorem checkActions_eq (loaded : LoadedSprites) (env : Env) {s : State}
    (outside : s.currentState ≠ .game) :
    checkActions loaded env s =
      match hitButton env s with
      | some button => button.2 s
      | none => .ok s := by
  have tested : checkActions loaded env s = pressEach (screenButtons env s) s := by
    cases screen : s.currentState with
    | game => exact absurd screen outside
    | menu | timers | statistics | highscores | instructions =>
        simp [checkActions, screen, screenButtons, pressEach]
  rw [tested, pressEach_eq (screenButtons_apart env s) (screenButtons_keepDevices env s), hitButton]

/-! ### The gesture automaton -/

/-- The distance swept after a packet. -/
def sweep (xGesture : Int) (pp : Packet) : Int :=
  if pp.deltaX > 0 then xGesture + pp.deltaX else xGesture

/-- One packet through the automaton of `checkGesture`: the next automaton state and accumulator, or
`none` when the word is filled. -/
def gestureStep (stars : Int) (gesture : GestureState) (xGesture : Int) (pp : Packet) :
    Option (GestureState × Int) :=
  if stars = 0 then some (gesture, xGesture)
  else
    match gesture with
    | .zero => some (if pp.lb then .lb else .zero, xGesture)
    | .lb =>
        if pp.lb = false then some (.zero, 0)
        else if sweep xGesture pp > 400 then none
        else some (.lb, sweep xGesture pp)

section Gesture

variable {loaded : LoadedSprites} {s : State} {testToken statsToken : Nat} {game : Game}

/-- The core after a packet that does not fill the word. -/
def Core.gestured (core : Core) (pp : Packet) (gesture : GestureState) (xGesture : Int) : Core :=
  { core with
    gestureState := gesture
    xGesture := xGesture
    log := .checkGesture pp false core.stars :: core.log }

/-- The core after a packet that fills the word. -/
def Core.filled (core : Core) (pp : Packet) (testToken statsToken : Nat) (game : Game) : Core :=
  { core.withGame testToken statsToken game with
    stars := core.stars - 1
    gestureState := .zero
    xGesture := 0
    log := .checkGesture pp true (core.stars - 1) :: core.log }

/-- A packet with the button held down in the middle of a swipe. -/
theorem checkGesture_held (unspent : s.stars ≠ 0) (swiping : s.gestureState = .lb)
    (pressed : s.mouse.pp.lb = true) :
    checkGesture loaded s =
      if sweep s.xGesture s.mouse.pp > 400 then do
        let filled ← fillCurrentWord loaded { s with xGesture := sweep s.xGesture s.mouse.pp }
        return { filled with gestureState := .zero, xGesture := 0 }.record
          (.checkGesture s.mouse.pp true filled.stars)
      else
        .ok ({ s with xGesture := sweep s.xGesture s.mouse.pp }.record
          (.checkGesture s.mouse.pp false s.stars)) := by
  have swept : (if s.mouse.pp.deltaX > 0 then
      { s with xGesture := s.xGesture + s.mouse.pp.deltaX } else s) =
        { s with xGesture := sweep s.xGesture s.mouse.pp } := by
    unfold sweep
    split
    · rfl
    · rfl
  simp only [checkGesture, swept]
  simp only [if_pos unspent, swiping, pressed, Bool.true_eq_false, if_false]
  rfl

theorem checkGesture_of_some {gesture : GestureState} {xGesture : Int}
    (moved : gestureStep s.stars s.gestureState s.xGesture s.mouse.pp = some (gesture, xGesture)) :
    ∃ next, checkGesture loaded s = .ok next ∧
      next.core = s.core.gestured s.mouse.pp gesture xGesture := by
  unfold gestureStep at moved
  by_cases spent : s.stars = 0
  · rw [if_pos spent] at moved
    cases moved
    rw [checkGesture, if_neg (not_not.mpr spent)]
    exact ⟨_, rfl, rfl⟩
  rw [if_neg spent] at moved
  cases automaton : s.gestureState with
  | zero =>
      simp only [automaton, Option.some.injEq, Prod.mk.injEq] at moved
      obtain ⟨rfl, rfl⟩ := moved
      rw [checkGesture, if_pos spent, automaton]
      refine ⟨_, rfl, ?_⟩
      cases pressed : s.mouse.pp.lb with
      | true => rfl
      | false => simp [State.record, State.core, Core.gestured, automaton]
  | lb =>
      simp only [automaton] at moved
      cases pressed : s.mouse.pp.lb with
      | false =>
          simp only [pressed, if_true, Option.some.injEq, Prod.mk.injEq] at moved
          obtain ⟨rfl, rfl⟩ := moved
          rw [checkGesture, if_pos spent, automaton]
          simp only [pressed, if_true]
          exact ⟨_, rfl, rfl⟩
      | true =>
          rw [checkGesture_held spent automaton pressed]
          simp only [pressed, Bool.true_eq_false, if_false] at moved
          split at moved
          · cases moved
          · rename_i short
            cases moved
            rw [if_neg short]
            exact ⟨_, rfl, by simp [State.record, State.core, Core.gestured, automaton]⟩

theorem checkGesture_of_none (holds : s.core.Holds testToken statsToken game)
    (full : gestureStep s.stars s.gestureState s.xGesture s.mouse.pp = none) :
    (∃ filled next, edit loaded .fill game = .ok filled ∧ checkGesture loaded s = .ok next ∧
        next.core = s.core.filled s.mouse.pp testToken statsToken filled) ∨
      ∃ fault, edit loaded .fill game = .error fault ∧ checkGesture loaded s = .error fault := by
  unfold gestureStep at full
  split at full
  · cases full
  rename_i unspent
  cases automaton : s.gestureState with
  | zero => simp [automaton] at full
  | lb =>
      cases pressed : s.mouse.pp.lb with
      | false => simp [automaton, pressed] at full
      | true =>
          simp only [automaton, pressed, Bool.true_eq_false, if_false] at full
          split at full
          · rename_i long
            rw [checkGesture_held unspent automaton pressed, if_pos long]
            have swept : { s with xGesture := sweep s.xGesture s.mouse.pp }.core.Holds testToken
                statsToken game := ⟨holds.test, holds.stats⟩
            rcases applies_iff.mp (fillCurrentWord_applies swept) with
              ⟨filled, next, filling, done, core⟩ | ⟨fault, filling, failed⟩
            · left
              refine ⟨filled, _, filling, by rw [done]; rfl, ?_⟩
              have stars : next.stars = s.stars - 1 := congrArg Core.stars core
              simp only [State.record, State.core, Core.filled, stars]
              simp only [State.core, Core.withGame, Core.mk.injEq] at core
              simp [core, Core.withGame]
            · right
              exact ⟨fault, filling, by rw [failed]; rfl⟩
          · cases full

/-- A packet in a game moves the automaton, or fills the word and starts the automaton over. -/
theorem checkGesture_cases {next : State} (acted : checkGesture loaded s = .ok next) :
    (∃ gesture xGesture, next = { s with gestureState := gesture, xGesture := xGesture }.record
        (.checkGesture s.mouse.pp false s.stars)) ∨
      ∃ xGesture filled, fillCurrentWord loaded { s with xGesture := xGesture } = .ok filled ∧
        next = { filled with gestureState := .zero, xGesture := 0 }.record
          (.checkGesture s.mouse.pp true filled.stars) := by
  by_cases spent : s.stars = 0
  · rw [checkGesture, if_neg (not_not.mpr spent)] at acted
    cases acted
    exact .inl ⟨_, _, rfl⟩
  cases automaton : s.gestureState with
  | zero =>
      rw [checkGesture, if_pos spent, automaton] at acted
      cases acted
      split
      · exact .inl ⟨_, _, rfl⟩
      · exact .inl ⟨_, _, rfl⟩
  | lb =>
      cases pressed : s.mouse.pp.lb with
      | false =>
          rw [checkGesture, if_pos spent, automaton] at acted
          simp only [pressed, if_true] at acted
          cases acted
          exact .inl ⟨_, _, rfl⟩
      | true =>
          rw [checkGesture_held spent automaton pressed] at acted
          split at acted
          · obtain ⟨filled, filling, returned⟩ := bind_eq_ok.mp acted
            cases returned
            refine .inr ⟨sweep s.xGesture s.mouse.pp, filled, ?_, rfl⟩
            rw [← automaton]
            exact filling
          · cases acted
            exact .inl ⟨_, _, rfl⟩

theorem fillCurrentWord_inv {next : State} (filling : fillCurrentWord loaded s = .ok next) :
    ∃ test word, next = { redrawWords loaded (fillWord word test) s with stars := s.stars - 1 } := by
  simp only [fillCurrentWord, bind_eq_ok] at filling
  obtain ⟨test, -, word, -, returned⟩ := filling
  cases returned
  exact ⟨test, word, rfl⟩

/-- The state after a packet in a game: the automaton, the stars and the word have moved on, and the
packet has been recorded. -/
def GesturedFrom (s next : State) : Prop :=
  ∃ gesture xGesture stars test view filled left, next =
    { s with
      gestureState := gesture
      xGesture := xGesture
      stars := stars
      test := test
      view := view
      log := .checkGesture s.mouse.pp filled left :: s.log }

theorem checkGesture_gesturedFrom {next : State} (acted : checkGesture loaded s = .ok next) :
    GesturedFrom s next := by
  rcases checkGesture_cases acted with ⟨gesture, xGesture, rfl⟩ | ⟨xGesture, filled, filling, rfl⟩
  · exact ⟨_, _, _, _, _, _, _, rfl⟩
  · obtain ⟨test, word, rfl⟩ := fillCurrentWord_inv filling
    exact ⟨_, _, _, _, _, _, _, rfl⟩

/-- `checkActions` in `GAME` leads the packet to the automaton. -/
theorem checkActions_game (env : Env) (playing : s.currentState = .game) :
    checkActions loaded env s = checkGesture loaded s := by
  simp [checkActions, playing]

/-- `checkActions` leads a packet to the automaton or to the button under the cursor. -/
theorem checkActions_cases (env : Env) {next : State} (acted : checkActions loaded env s = .ok next) :
    GesturedFrom s next ∨ next = s ∨ ∃ button ∈ screenButtons env s, button.2 s = .ok next := by
  by_cases playing : s.currentState = .game
  · rw [checkActions_game env playing] at acted
    exact .inl (checkGesture_gesturedFrom acted)
  · rw [checkActions_eq loaded env playing] at acted
    cases hit : hitButton env s with
    | none =>
        rw [hit] at acted
        cases acted
        exact .inr (.inl rfl)
    | some button =>
        rw [hit] at acted
        exact .inr (.inr ⟨button, List.mem_of_find?_eq_some hit, acted⟩)

theorem checkActions_keepsDevices (env : Env) : KeepsDevices (checkActions loaded env) := by
  intro s next acted
  rcases checkActions_cases env acted with gestured | rfl | ⟨button, member, pressed⟩
  · obtain ⟨_, _, _, _, _, _, _, rfl⟩ := gestured
    exact ⟨rfl, rfl, rfl⟩
  · exact ⟨rfl, rfl, rfl⟩
  · exact screenButtons_keepDevices env s button member s next pressed

end Gesture

end TypingTutor
