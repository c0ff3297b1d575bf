/-
Module: TypingTutor.Proofs.Scoreboard
Layer: Proofs
Purpose: The numbers that a player sees.  Along every run the counters of a game add up, its stars are
  three less the words that swipes have filled, and its remaining time stays between zero and its
  duration; the statistics screen shows, digit by digit, the counters of the game that has just run out
  of time and the speed recorded for it.
Trusted boundary: none
Main exports: CountsAddUp, Scoreboard, run_scoreboard, readNumber, game_frame_is_true, StatisticsUp,
  statistics_screen_is_true
-/
import TypingTutor.Proofs.FreshFrames
import TypingTutor.Proofs.GameSpeed
import TypingTutor.Proofs.Swipes

namespace TypingTutor

open Runs CFormat DoubleBuffer Binary64

/-! ### Counters that add up -/

/-- Every typed word and every typed letter is counted as correct or as incorrect. -/
structure CountsAddUp (stats : Statistics) : Prop where
  words : stats.typedWords = stats.correctWords + stats.incorrectWords
  letters : stats.typedLetters = stats.correctLetters + stats.incorrectLetters
  correctWords : 0 ≤ stats.correctWords
  incorrectWords : 0 ≤ stats.incorrectWords
  correctLetters : 0 ≤ stats.correctLetters
  incorrectLetters : 0 ≤ stats.incorrectLetters

theorem CountsAddUp.typedWords_nonneg {stats : Statistics} (counts : CountsAddUp stats) :
    0 ≤ stats.typedWords := by
  have total := counts.words
  have correct := counts.correctWords
  have incorrect := counts.incorrectWords
  omega

theorem countsAddUp_initialize (seconds : Int) : CountsAddUp (initializeStats seconds) where
  words := rfl
  letters := rfl
  correctWords := Int.le_refl 0
  incorrectWords := Int.le_refl 0
  correctLetters := Int.le_refl 0
  incorrectLetters := Int.le_refl 0

theorem CountsAddUp.typeLetter {c : Char} {word : Word} {test : TypingTest} {stats : Statistics}
    (counts : CountsAddUp stats) : CountsAddUp (typeLetter c word test stats).2 := by
  obtain ⟨words, letters, correctWords, incorrectWords, correctLetters, incorrectLetters⟩ := counts
  unfold TypingTutor.typeLetter
  dsimp only
  split
  · constructor
    all_goals
      dsimp only
      omega
  · constructor
    all_goals
      dsimp only
      omega

theorem CountsAddUp.judgeWord {word : Word} {test : TypingTest} {stats : Statistics}
    (counts : CountsAddUp stats) : CountsAddUp (judgeWord word test stats).2 := by
  obtain ⟨words, letters, correctWords, incorrectWords, correctLetters, incorrectLetters⟩ := counts
  unfold TypingTutor.judgeWord
  dsimp only
  split
  · constructor
    all_goals
      dsimp only
      omega
  · constructor
    all_goals
      dsimp only
      omega

/-- Every edit keeps the counters in order. -/
theorem edit_countsAddUp {loaded : LoadedSprites} {change : Edit} {game edited : Game}
    (counts : CountsAddUp game.stats) (done : edit loaded change game = .ok edited) :
    CountsAddUp edited.stats := by
  cases change with
  | letter c =>
      obtain ⟨word, -, done⟩ := bind_eq_ok.mp done
      split at done
      · cases done
        exact counts.typeLetter
      · cases done
        exact counts
  | delete =>
      obtain ⟨word, -, done⟩ := bind_eq_ok.mp done
      cases done
      exact counts
  | fill =>
      obtain ⟨word, -, done⟩ := bind_eq_ok.mp done
      cases done
      exact counts
  | space env =>
      obtain ⟨word, -, done⟩ := bind_eq_ok.mp done
      cases done
      exact counts.judgeWord
  | draw =>
      cases done
      exact counts

/-! ### The invariant -/

/-- What the core says of the game being played, and of the game that has just ended. -/
structure Scoreboard (core : Core) : Prop where
  playing : core.currentState = .game → ∃ testToken statsToken game,
    core.Holds testToken statsToken game ∧ CountsAddUp game.stats ∧ Offered game.stats.time ∧
      (0 ≤ core.timer ∧ core.timer ≤ game.stats.time) ∧
      (fills (gesturesOfGame core.log) : Int) = 3 - core.stars ∧ 0 ≤ core.stars
  finished : core.currentState = .statistics → ∃ token stats,
    core.stats = .live token stats ∧ CountsAddUp stats ∧ Offered stats.time ∧
      (scoreCalls core.log).head? =
        some (token, stats, (gameSpeed stats).toInt)

/-- Nothing is claimed of other screens. -/
theorem Scoreboard.other {core : Core} (noGame : core.currentState ≠ .game)
    (noStatistics : core.currentState ≠ .statistics) : Scoreboard core :=
  ⟨fun game => absurd game noGame, fun statistics => absurd statistics noStatistics⟩

section Steps

variable {core next : Core} {testToken statsToken : Nat} {game edited : Game}

/-- The game goes on. -/
theorem Scoreboard.goOn (board : Scoreboard core) (playing : core.currentState = .game)
    (holds : core.Holds testToken statsToken game) (screen : next.currentState = .game)
    (holdsNext : next.Holds testToken statsToken edited)
    (counts : CountsAddUp game.stats → CountsAddUp edited.stats)
    (time : edited.stats.time = game.stats.time)
    (timer : 0 ≤ core.timer ∧ core.timer ≤ game.stats.time →
      0 ≤ next.timer ∧ next.timer ≤ game.stats.time)
    (stars : (fills (gesturesOfGame core.log) : Int) = 3 - core.stars ∧ 0 ≤ core.stars →
      (fills (gesturesOfGame next.log) : Int) = 3 - next.stars ∧ 0 ≤ next.stars) :
    Scoreboard next := by
  refine ⟨fun _ => ?_, fun statistics => by rw [screen] at statistics; cases statistics⟩
  obtain ⟨_, _, held, holdsHeld, counted, offered, timed, starred⟩ := board.playing playing
  obtain rfl : held = game := by
    have tests := holdsHeld.test.symm.trans holds.test
    have stats := holdsHeld.stats.symm.trans holds.stats
    simp only [Ptr.live.injEq] at tests stats
    obtain ⟨heldTest, heldStats⟩ := held
    rw [Game.mk.injEq]
    exact ⟨tests.2, stats.2⟩
  refine ⟨testToken, statsToken, edited, holdsNext, counts counted, ?_, ?_, stars starred⟩
  · rw [time]
    exact offered
  · rw [time]
    exact timer timed

end Steps

/-- A screen without a game. -/
theorem setGameState_scoreboard {env : Env} {caller : Caller} {target : GameState} {s : State}
    (noGame : target ≠ .game) (noStatistics : target ≠ .statistics) :
    Outcome (fun s => Scoreboard s.core) (fun _ => True) (setGameState env caller target s) := by
  cases changed : setGameState env caller target s with
  | error fault => trivial
  | ok next =>
      have shown : next.core.currentState = target := (setGameState_enteredFrom changed).shown
      exact .other (shown ▸ noGame) (shown ▸ noStatistics)

/-- An edit leaves time and stars. -/
theorem edit_scoreboard {loaded : LoadedSprites} {s : State} {outcome : Except Fault State}
    {testToken statsToken : Nat} {game : Game} {change : Edit} (board : Scoreboard s.core)
    (playing : s.currentState = .game) (holds : s.core.Holds testToken statsToken game)
    (applied : Applies s.core testToken statsToken (edit loaded change game) outcome) :
    Outcome (fun s => Scoreboard s.core) (fun _ => True) outcome := by
  rcases applies_iff.mp applied with ⟨edited, next, done, rfl, core⟩ | ⟨fault, -, rfl⟩
  · change Scoreboard next.core
    rw [core]
    exact board.goOn playing holds playing ⟨rfl, rfl⟩ (fun counts => edit_countsAddUp counts done)
      (edit_later done).time id id
  · trivial

/-- A swipe that fills the word spends a star. -/
theorem fill_spends {gestures : List (Packet × Bool)} {stars : Int} {pp : Packet}
    (unspent : stars ≠ 0) :
    (fills gestures : Int) = 3 - stars ∧ 0 ≤ stars →
      (fills ((pp, true) :: gestures) : Int) = 3 - (stars - 1) ∧ 0 ≤ stars - 1 := by
  have more : fills ((pp, true) :: gestures) = fills gestures + 1 := List.countP_cons_of_pos rfl
  rintro ⟨counted, nonnegative⟩
  rw [more]
  omega

/-- A new game has its whole time and three stars. -/
theorem startGame_scoreboard (env : Env) {s : State} {seconds : Int} (offered : Offered seconds) :
    Outcome (fun s => Scoreboard s.core) (fun _ => True)
      (setGameState env .checkActions .game { s with timer := seconds }) := by
  rw [setGameState_game]
  refine ⟨fun _ => ?_, fun statistics => GameState.noConfusion statistics⟩
  have lasting : 0 ≤ seconds := by
    rcases offered with rfl | rfl | rfl
    all_goals decide
  exact ⟨_, _, ⟨freshTest env, initializeStats seconds⟩, ⟨rfl, rfl⟩, countsAddUp_initialize seconds,
    offered, ⟨lasting, Int.le_refl seconds⟩, rfl, by change (0 : Int) ≤ 3; decide⟩

theorem step_scoreboard {loaded : LoadedSprites} {s : State} {outcome : Except Fault State}
    (ledger : GameLedger s.core) (board : Scoreboard s.core) (step : Step loaded s outcome) :
    Outcome (fun s => Scoreboard s.core) (fun _ => True) outcome := by
  cases step with
  | space env playing holds applied => exact edit_scoreboard board playing holds applied
  | action action =>
      cases action with
      | dead dead => exact absurd ledger.live dead
      | @frame next same =>
          change Scoreboard next.core
          rw [same]
          exact board
      | edit change stays playing holds applied => exact edit_scoreboard board playing holds applied
      | @gesture next pp gesture xGesture playing moved core =>
          obtain ⟨testToken, statsToken, game, holds⟩ := ledger.live.game playing
          change Scoreboard next.core
          rw [core]
          exact board.goOn playing holds playing ⟨holds.test, holds.stats⟩ id rfl id id
      | @fill next testToken statsToken game filled pp playing full holds filling core =>
          change Scoreboard next.core
          rw [core]
          have unspent : s.stars ≠ 0 := by
            intro spent
            simp [gestureStep, spent] at full
          exact board.goOn playing holds playing ⟨rfl, rfl⟩
            (fun counts => edit_countsAddUp counts filling) (edit_later filling).time id
            (fill_spends unspent)
      | enter env shown => exact setGameState_scoreboard (by decide) (by decide)
      | escape env shown => exact setGameState_scoreboard (by decide) (by decide)
      | timeUp env playing expired =>
          obtain ⟨testToken, statsToken, game, holds, counts, offered, -⟩ := board.playing playing
          rw [setGameState_statistics env .updateTimer holds.test holds.stats
            (ledger.timed playing holds)]
          refine ⟨fun game => GameState.noConfusion game, fun _ => ?_⟩
          exact ⟨statsToken, game.stats, holds.stats, counts, offered, rfl⟩
      | countDown playing running =>
          obtain ⟨testToken, statsToken, game, holds⟩ := ledger.live.game playing
          refine board.goOn playing holds playing ⟨holds.test, holds.stats⟩ id rfl ?_ id
          rintro ⟨nonnegative, lasting⟩
          change 0 ≤ s.timer at nonnegative
          change s.timer ≤ game.stats.time at lasting
          change 0 ≤ s.timer - 1 ∧ s.timer - 1 ≤ game.stats.time
          omega
      | packet pp =>
          have games : gesturesOfGame (.parse pp :: s.log) = gesturesOfGame s.log := rfl
          refine ⟨fun playing => ?_, board.finished⟩
          obtain ⟨testToken, statsToken, game, holds, counts, offered, timed, starred⟩ :=
            board.playing playing
          refine ⟨testToken, statsToken, game, ⟨holds.test, holds.stats⟩, counts, offered, timed, ?_⟩
          change (fills (gesturesOfGame (.parse pp :: s.log)) : Int) = 3 - s.stars ∧ 0 ≤ s.stars
          rw [games]
          exact starred
      | button env target leads =>
          have plain : target ≠ .game ∧ target ≠ .statistics := by
            generalize s.currentState = before at leads
            cases leads with
            | play | instructions | highscores | playAgain | back => decide
          exact setGameState_scoreboard plain.1 plain.2
      | chooseTimer env seconds shown offered =>
          exact startGame_scoreboard env offered
      | backToMenu env shown =>
          obtain ⟨token, stats, hasStats⟩ := ledger.live.statistics shown
          rw [backToMenu_eq env hasStats]
          exact .other GameState.noConfusion GameState.noConfusion

theorem setup_scoreboard (file : List Char) : Scoreboard (setup file).core :=
  .other GameState.noConfusion GameState.noConfusion

theorem scoreboard_of_chain {loaded : LoadedSprites} {s next : State} {outcome : Except Fault State}
    (chain : Chain (Step loaded) s outcome) (kept : GameLedger s.core ∧ Scoreboard s.core)
    (done : outcome = .ok next) : GameLedger next.core ∧ Scoreboard next.core := by
  have both : Outcome (fun s => GameLedger s.core ∧ Scoreboard s.core) (fun _ => True) outcome := by
    refine chain.keeps ?_ kept
    rintro s outcome ⟨ledger, board⟩ step
    exact ((step_ledger s outcome ledger step).mono (fun _ kept => kept) fun _ _ => trivial).and
      (step_scoreboard ledger board step)
  rw [done] at both
  exact both

/-- Every run keeps the scoreboard. -/
theorem run_scoreboard {loaded : LoadedSprites} {file : List Char} {messages : List Notification}
    {s : State} (ran : run loaded file messages = .ok s) : GameLedger s.core ∧ Scoreboard s.core :=
  scoreboard_of_chain (run_chain loaded file messages) ⟨setup_ledger file, setup_scoreboard file⟩ ran

section Handlers

variable {loaded : LoadedSprites} {s next : State}

theorem updateTimer_scoreboard {env : Env} (kept : GameLedger s.core ∧ Scoreboard s.core)
    (updated : updateTimer env s = .ok next) : GameLedger next.core ∧ Scoreboard next.core :=
  scoreboard_of_chain
    ((updateTimer_chain env s : Chain (Action everySprite) s _).mono fun _ _ => .action) kept updated

theorem perform_scoreboard {call : HandlerCall} (kept : GameLedger s.core ∧ Scoreboard s.core)
    (performed : perform loaded s call = .ok next) : GameLedger next.core ∧ Scoreboard next.core := by
  cases call with
  | keyboard ports env => exact scoreboard_of_chain (keyHandler_chain ports env s) kept performed
  | timer env =>
      exact scoreboard_of_chain ((timerInterrupt_chain env s).mono fun _ _ => .action) kept performed
  | mouse ports env =>
      exact scoreboard_of_chain ((updateMouse_chain ports env s).mono fun _ _ => .action) kept performed

end Handlers

/-! ### Numbers on the screen -/

def digits : List Char := ['0', '1', '2', '3', '4', '5', '6', '7', '8', '9']

/-- The sprites of the digits are loaded. -/
def DigitsLoaded (loaded : LoadedSprites) : Prop :=
  ∀ digit ∈ digits, loaded (.glyph (charToKey digit)) = true

/-- The digit that a stroke shows. -/
def digitShown : DrawOp → Option Char
  | .sprite (.glyph key) _ _ _ => digits.find? fun digit => charToKey digit = key
  | _ => none

/-- The number that a row of strokes shows from left to right. -/
def readNumber (row : List DrawOp) : Option Int :=
  match scanNumber (row.filterMap digitShown) with
  | some (value, []) => some value
  | _ => none

/-- A number of `drawInt`, newest stroke first. -/
def numberRow (loaded : LoadedSprites) (value x y : Int) : List DrawOp :=
  (glyphRow loaded 16 (printInt value) x y).reverse

theorem mem_digits {c : Char} (digit : c.isDigit = true) : c ∈ digits := by
  have low : 48 ≤ c.toNat := by
    simp only [Char.isDigit, Bool.and_eq_true, decide_eq_true_eq] at digit
    exact digit.1
  have high : c.toNat ≤ 57 := by
    simp only [Char.isDigit, Bool.and_eq_true, decide_eq_true_eq] at digit
    exact digit.2
  have all : ∀ code < 58, 48 ≤ code → Char.ofNat code ∈ digits := by decide
  rw [← Char.ofNat_toNat c]
  exact all c.toNat (by omega) low

theorem digitShown_glyph {digit : Char} (member : digit ∈ digits) (x y : Int) (color : Option UInt32) :
    digitShown (.sprite (.glyph (charToKey digit)) x y color) = some digit := by
  have all : (digits.all fun digit =>
      (digits.find? fun other => charToKey other = charToKey digit) = some digit) = true := by decide
  exact of_decide_eq_true (List.all_eq_true.mp all digit member)

section Numbers

variable {loaded : LoadedSprites}

theorem keySpriteMap_digit (complete : DigitsLoaded loaded) {digit : Char} (member : digit ∈ digits) :
    keySpriteMap loaded (charToKey digit) = some (.glyph (charToKey digit)) := by
  have present := complete digit member
  have all : (digits.all fun digit => charToKey digit ≠ .noneKey ∧ charToKey digit ≠ .enter ∧
      charToKey digit ≠ .back ∧ charToKey digit ≠ .esc) = true := by decide
  obtain ⟨none, enter, back, esc⟩ := of_decide_eq_true (List.all_eq_true.mp all digit member)
  generalize charToKey digit = key at present none enter back esc
  cases key with
  | noneKey => exact absurd rfl none
  | enter => exact absurd rfl enter
  | back => exact absurd rfl back
  | esc => exact absurd rfl esc
  | _ => exact if_pos present

/-- A row of digits is complete. -/
theorem glyphRow_digits (complete : DigitsLoaded loaded) (step : Int) {text : List Char}
    (number : ∀ c ∈ text, c ∈ digits) (x y : Int) :
    (glyphRow loaded step text x y).filterMap digitShown = text := by
  induction text generalizing x with
  | nil => rfl
  | cons c text inductionHypothesis =>
      have member := number c List.mem_cons_self
      have rest := inductionHypothesis
        (fun c later => number c (List.mem_cons_of_mem _ later)) (x + step)
      rw [glyphRow, keySpriteMap_digit complete member]
      change ((_ :: _ : List DrawOp).filterMap digitShown) = _
      rw [List.filterMap_cons_some (digitShown_glyph member x y none), rest]

/-- The glyphs of a number go over the background. -/
theorem drawGlyphs_digits (complete : DigitsLoaded loaded) (step : Int) {text : List Char}
    (number : ∀ c ∈ text, c ∈ digits) (x y : Int) (view : View) :
    drawGlyphs loaded false step text x y view =
      ({ view with
          secondaryFrameBufferNoMouse :=
            (glyphRow loaded step text x y).reverse ++ view.secondaryFrameBufferNoMouse }, false) := by
  induction text generalizing x view with
  | nil => rfl
  | cons c text inductionHypothesis =>
      have member := number c List.mem_cons_self
      have rest := inductionHypothesis
        (fun c later => number c (List.mem_cons_of_mem _ later)) (x + step)
      simp only [drawGlyphs, glyphRow, keySpriteMap_digit complete member, drawSpriteXPM, rest]
      simp

theorem printInt_digits {value : Int} (nonnegative : 0 ≤ value) : ∀ c ∈ printInt value, c ∈ digits := by
  intro c member
  rw [printInt, if_neg (by omega)] at member
  exact mem_digits (isDigit_of_mem_decimal member)

/-- A row of glyphs reads as the number it was printed from. -/
theorem readNumber_glyphRow (complete : DigitsLoaded loaded) (step : Int) {value : Int}
    (nonnegative : 0 ≤ value) (x y : Int) :
    readNumber (glyphRow loaded step (printInt value) x y) = some value := by
  have scanned := @scanNumber_printInt value [] (by simp [NoDigit])
  rw [List.append_nil] at scanned
  rw [readNumber, glyphRow_digits complete step (printInt_digits nonnegative), scanned]

theorem drawInt_row (complete : DigitsLoaded loaded) {value : Int} (nonnegative : 0 ≤ value) (x y : Int)
    (view : View) :
    drawInt loaded value x y view =
      ({ view with
          secondaryFrameBufferNoMouse :=
            numberRow loaded value x y ++ view.secondaryFrameBufferNoMouse }, false) :=
  drawGlyphs_digits complete 16 (printInt_digits nonnegative) x y view

theorem readNumber_numberRow (complete : DigitsLoaded loaded) {value : Int} (nonnegative : 0 ≤ value)
    (x y : Int) : readNumber (numberRow loaded value x y).reverse = some value := by
  rw [numberRow, List.reverse_reverse]
  exact readNumber_glyphRow complete 16 nonnegative x y

end Numbers

/-! ### The game -/

theorem starRow_eq (loaded : LoadedSprites) (count : Nat) :
    starRow loaded count 0 =
      (List.range count).map fun (k : Nat) => .sprite .star (10 + k * 30) 10 none := by
  rw [starRow, if_pos (loaded.unchecked .star (by decide))]
  simp only [starSprite, Int.zero_add]

theorem cursorSprites_eq (loaded : LoadedSprites) (cursor : Sprite) :
    cursorSprites loaded cursor =
      [.sprite .cursor (clampCursor cursor).x (clampCursor cursor).y none] :=
  if_pos (loaded.unchecked .cursor (by decide))

/-- A tick that stays in a game neither enters a screen nor moves the cursor. -/
theorem updateTimer_inGame {env : Env} {s ticked : State} (updated : updateTimer env s = .ok ticked)
    (playing : ticked.currentState = .game) :
    ticked.gameStateChange = s.gameStateChange ∧ ticked.cursor = s.cursor := by
  rw [updateTimer_eq] at updated
  split_ifs at updated with inGame expired second
  · have shown := (setGameState_enteredFrom updated).shown
    rw [playing] at shown
    cases shown
  all_goals
    cases updated
    exact ⟨rfl, rfl⟩

/-- Numbers below 100 take two glyphs at most. -/
theorem length_timeSprites {loaded : LoadedSprites} {timer : Int} (nonnegative : 0 ≤ timer)
    (small : timer ≤ 60) : (timeSprites loaded timer).length < 5 := by
  have short : (printInt timer).length ≤ 3 := by
    rw [length_printInt_le_iff (by decide)]
    omega
  have shorter : ∀ (text : List Char) (x : Int),
      (glyphRow loaded 13 text x (yResolution - 40)).length ≤ text.length := by
    intro text
    induction text with
    | nil => exact fun x => Nat.le_refl 0
    | cons c text inductionHypothesis =>
        intro x
        rw [glyphRow]
        cases keySpriteMap loaded (charToKey c) with
        | none => exact Nat.zero_le _
        | some name => exact Nat.succ_le_succ (inductionHypothesis (x + 13))
  have most := shorter (printInt timer) 10
  rw [timeSprites]
  omega

/-- In every run, every tick of a game draws over the background the clock, the remaining time, the
stars and the cursor, and nothing else; its first frame draws time and clock twice.  The time reads
as a number between zero and the duration of the game, and fits the five bytes of `timer_string`;
there is one star for each of the three that no swipe has spent. -/
theorem game_frame_is_true (loaded : LoadedSprites) (complete : DigitsLoaded loaded) (file : List Char)
    (messages : List Notification) (s : State) (ran : run loaded file messages = .ok s) (env : Env)
    (next : State) (drawn : perform loaded s (.timer env) = .ok next)
    (playing : next.currentState = .game) :
    ∃ stars newest older,
      next.view.secondaryFrameBuffer =
        overlay
          ((if s.gameStateChange then
              timeSprites loaded next.timer ++ clockSprites loaded (env.rtc 2) else []) ++
            (clockSprites loaded (env.rtc 3) ++ timeSprites loaded next.timer ++
              (List.range stars).map (fun (k : Nat) => .sprite .star (10 + k * 30) 10 none)) ++
            [.sprite .cursor next.cursor.x next.cursor.y none])
          s.view.secondaryFrameBufferNoMouse ∧
      readNumber (timeSprites loaded next.timer) = some next.timer ∧
      (timeSprites loaded next.timer).length < 5 ∧
      playedGames next.log = newest :: older ∧ newest.ending = none ∧
      0 ≤ next.timer ∧ next.timer ≤ newest.duration ∧
      stars + fills (gesturesOfGame next.log) = 3 := by
  obtain ⟨ticked, updated, frame⟩ := bind_eq_ok.mp drawn
  obtain ⟨ledgerTicked, boardTicked⟩ := updateTimer_scoreboard (run_scoreboard ran) updated
  have painted := (gameDrawer_paints frame).composed
  rw [updateTimer_buffers updated] at painted
  have cursor := gameDrawer_cursor frame
  obtain ⟨_, _, _, _, _, rfl⟩ := gameDrawer_drawnFrom frame
  change ticked.currentState = .game at playing
  change _ = clampCursor ticked.cursor at cursor
  have opening := (updateTimer_inGame updated playing).1
  obtain ⟨_, _, game, holds, -, offered, ⟨nonnegative, lasting⟩, counted, left⟩ :=
    boardTicked.playing playing
  obtain ⟨newest, older, games, ⟨running, -, -, duration, -⟩, -, -⟩ := ledgerTicked.newest playing holds
  change 0 ≤ ticked.timer at nonnegative
  change ticked.timer ≤ game.stats.time at lasting
  have small : ticked.timer ≤ 60 := by
    rcases offered with time | time | time
    all_goals omega
  refine ⟨ticked.stars.toNat, newest, older, ?_, ?_, ?_, games, running, nonnegative, ?_, ?_⟩
  · rw [movingSprites, if_pos playing, opening, starRow_eq, cursorSprites_eq, ← cursor] at painted
    exact painted
  · exact readNumber_glyphRow complete 13 nonnegative 10 (yResolution - 40)
  · exact length_timeSprites nonnegative small
  · rw [duration]
    exact lasting
  · change (fills (gesturesOfGame ticked.log) : Int) = 3 - ticked.stars at counted
    change 0 ≤ ticked.stars at left
    change _ + fills (gesturesOfGame ticked.log) = 3
    omega

/-- A game of a minute, a swipe that fills a word, and a tick. -/
def afterSwipe : List Notification :=
  intoGame ++ mousePacket 0x09 1 0 ++ mousePacket 0x09 255 0 ++ mousePacket 0x09 255 0

theorem two_stars_left :
    ∃ s next, run everySprite [] afterSwipe = .ok s ∧
      perform everySprite s (.timer default) = .ok next ∧ next.currentState = .game ∧
      next.stars = 2 ∧
      ∃ stars newest older,
        next.view.secondaryFrameBuffer =
          overlay
            ((if s.gameStateChange then
                timeSprites everySprite next.timer ++
                  clockSprites everySprite ((default : Env).rtc 2) else []) ++
              (clockSprites everySprite ((default : Env).rtc 3) ++ timeSprites everySprite next.timer ++
                (List.range stars).map (fun (k : Nat) => .sprite .star (10 + k * 30) 10 none)) ++
              [.sprite .cursor next.cursor.x next.cursor.y none])
            s.view.secondaryFrameBufferNoMouse ∧
        readNumber (timeSprites everySprite next.timer) = some next.timer ∧
        (timeSprites everySprite next.timer).length < 5 ∧
        playedGames next.log = newest :: older ∧ newest.ending = none ∧
        0 ≤ next.timer ∧ next.timer ≤ newest.duration ∧
        stars + fills (gesturesOfGame next.log) = 3 := by
  have checked : (run everySprite [] afterSwipe).toOption.any (fun s =>
      (perform everySprite s (.timer default)).toOption.any fun next =>
        next.currentState == .game && next.stars == 2) = true := by
    decide +kernel
  obtain ⟨s, ran, ticks⟩ := exists_ok_of_any checked
  obtain ⟨next, drawn, final⟩ := exists_ok_of_any ticks
  simp only [Bool.and_eq_true, beq_iff_eq] at final
  exact ⟨s, next, ran, drawn, final.1, final.2,
    game_frame_is_true everySprite (fun _ _ => rfl) [] afterSwipe s ran default next drawn final.1⟩

/-! ### The statistics -/

section Rounding

variable {stats : Statistics}

theorem roundHalfAway_of_nonneg {value : ℚ} (nonnegative : 0 ≤ value) :
    roundHalfAway value = ⌊value + 1 / 2⌋ := by
  rw [roundHalfAway, if_pos nonnegative]

theorem roundHalfAway_nonneg {value : ℚ} (nonnegative : 0 ≤ value) : 0 ≤ roundHalfAway value := by
  rw [roundHalfAway_of_nonneg nonnegative]
  exact Int.floor_nonneg.mpr (by linarith)

theorem shownSpeed_nonneg (counts : CountsAddUp stats) (offered : Offered stats.time) :
    0 ≤ shownSpeed stats := by
  obtain ⟨factor, product, positive, -, one, -⟩ := offered.factor
  have typed := counts.typedWords_nonneg
  apply roundHalfAway_nonneg
  apply nearest_nonneg
  rw [nearest_minutes offered, perMinute_eq product positive]
  exact_mod_cast mul_nonneg typed (by omega)

/-- The share of correct words is a number between 0 and 1. -/
theorem CountsAddUp.share (counts : CountsAddUp stats) :
    0 ≤ (stats.correctWords : ℚ) / stats.typedWords ∧
      (stats.correctWords : ℚ) / stats.typedWords ≤ 1 := by
  have typed : (0 : ℚ) ≤ stats.typedWords := by exact_mod_cast counts.typedWords_nonneg
  have correct : (0 : ℚ) ≤ stats.correctWords := by exact_mod_cast counts.correctWords
  have most : (stats.correctWords : ℚ) ≤ stats.typedWords := by
    have total := counts.words
    have incorrect := counts.incorrectWords
    exact_mod_cast (by omega : stats.correctWords ≤ stats.typedWords)
  exact ⟨div_nonneg correct typed, div_le_one_of_le₀ most typed⟩

theorem shownAccuracy_nonneg (counts : CountsAddUp stats) : 0 ≤ shownAccuracy stats := by
  rw [shownAccuracy]
  split
  · apply roundHalfAway_nonneg
    apply nearest_nonneg
    exact mul_nonneg (nearest_nonneg counts.share.1) (by norm_num)
  · exact Int.le_refl 0

/-- The accuracy is the percentage of correct words among those typed, to the nearest whole number: the
errors of the doubles are too small to be seen. -/
theorem shownAccuracy_nearest (counts : CountsAddUp stats) (few : stats.typedWords ≤ mostWords) :
    shownAccuracy stats ≤ 100 ∧
      2 * (100 * stats.correctWords) ≤ (2 * shownAccuracy stats + 1) * stats.typedWords ∧
      (2 * shownAccuracy stats - 1) * stats.typedWords ≤ 2 * (100 * stats.correctWords) := by
  have correct := counts.correctWords
  have total := counts.words
  have incorrect := counts.incorrectWords
  rw [mostWords] at few
  by_cases none : stats.typedWords = 0
  · rw [shownAccuracy, if_neg (not_not.mpr none), none]
    omega
  · have typed : (0 : ℚ) < stats.typedWords := by exact_mod_cast (by omega : 0 < stats.typedWords)
    have fewCorrect : (stats.correctWords : ℚ) ≤ 35791394 := by
      exact_mod_cast (by omega : stats.correctWords ≤ 35791394)
    have correctRat : (0 : ℚ) ≤ stats.correctWords := by exact_mod_cast correct
    have share : (stats.correctWords : ℚ) / stats.typedWords * stats.typedWords = stats.correctWords :=
      div_mul_cancel₀ _ typed.ne'
    have close := abs_nearest_mul_sub_le ((stats.correctWords : ℚ) / stats.typedWords) 100
    have positive := nearest_nonneg
      (mul_nonneg (nearest_nonneg counts.share.1) (by norm_num : (0 : ℚ) ≤ 100))
    obtain ⟨nonnegative, one⟩ := counts.share
    rw [shownAccuracy, if_pos none, roundHalfAway_of_nonneg positive]
    generalize nearest (nearest ((stats.correctWords : ℚ) / stats.typedWords) * 100) = percent at *
    generalize (stats.correctWords : ℚ) / stats.typedWords = ratio at *
    rw [abs_of_nonneg (by positivity : 0 ≤ ratio * 100), abs_le] at close
    obtain ⟨low, high⟩ := close
    have least := Int.floor_le (percent + 1 / 2)
    have most := Int.lt_floor_add_one (percent + 1 / 2)
    generalize ⌊percent + 1 / 2⌋ = shown at *
    refine ⟨?_, ?_, ?_⟩
    · have below : (shown : ℚ) < 101 := by linarith
      exact Int.lt_add_one_iff.mp (by exact_mod_cast below)
    · have scaled : (ratio * 100 - ratio * 100 / 2 ^ 51 + 1 / 2) * stats.typedWords =
          100 * stats.correctWords - 100 * stats.correctWords / 2 ^ 51 + stats.typedWords / 2 := by
        rw [← share]
        ring
      have reached : (ratio * 100 - ratio * 100 / 2 ^ 51 + 1 / 2) * stats.typedWords ≤
          (shown + 1) * stats.typedWords :=
        mul_le_mul_of_nonneg_right (by linarith) typed.le
      have upper : (2 : ℚ) * (100 * stats.correctWords) < (2 * shown + 1) * stats.typedWords + 1 := by
        linarith
      exact Int.lt_add_one_iff.mp (by exact_mod_cast upper)
    · have scaled : (ratio * 100 + ratio * 100 / 2 ^ 51 + 1 / 2) * stats.typedWords =
          100 * stats.correctWords + 100 * stats.correctWords / 2 ^ 51 + stats.typedWords / 2 := by
        rw [← share]
        ring
      have reached : shown * stats.typedWords ≤
          (ratio * 100 + ratio * 100 / 2 ^ 51 + 1 / 2) * stats.typedWords :=
        mul_le_mul_of_nonneg_right (by linarith) typed.le
      have lower : (2 * (shown : ℚ) - 1) * stats.typedWords < 2 * (100 * stats.correctWords) + 1 := by
        linarith
      exact Int.lt_add_one_iff.mp (by exact_mod_cast lower)

end Rounding

/-- The screen of the statistics, newest stroke first: over the white box and the labels the four
numbers, each at its place beside its label, and over them the two buttons. -/
structure ShowsStatistics (loaded : LoadedSprites) (stats : Statistics) (background : List DrawOp) :
    Prop where
  rows : ∃ before : View, background =
    [.sprite .playAgain playAgainSprite.x playAgainSprite.y none,
      .sprite .backToMenu backToMenuSprite.x backToMenuSprite.y none] ++
      (numberRow loaded stats.incorrectLetters (statisticsBoxX + 238) (statisticsBoxY + 176) ++
        (numberRow loaded stats.typedWords (statisticsBoxX + 258) (statisticsBoxY + 154) ++
          (numberRow loaded (shownSpeed stats) (statisticsBoxX + 322) (statisticsBoxY + 132) ++
            (numberRow loaded (shownAccuracy stats) (statisticsBoxX + 368) (statisticsBoxY + 110) ++
              (drawText loaded statisticsMessage grey statisticsBoxX
                (statisticsBoxX + statisticsBoxSizeX) statisticsBoxY
                (drawRectangle statisticsBoxX statisticsBoxY statisticsBoxSizeX statisticsBoxSizeY white
                  before)).secondaryFrameBufferNoMouse))))

/-- The statistics screen is drawn as soon as it is entered, and it stays. -/
structure StatisticsUp (loaded : LoadedSprites) (s : State) : Prop where
  drawn : s.currentState = .statistics → s.gameStateChange = false
  stats : s.currentState = .statistics → ∃ token stats, s.stats = .live token stats ∧
    ShowsStatistics loaded stats s.view.secondaryFrameBufferNoMouse

section Drawing

variable {loaded : LoadedSprites} {stats : Statistics}

theorem drawStatistics_background (complete : DigitsLoaded loaded) (counts : CountsAddUp stats)
    (offered : Offered stats.time) (view : View) :
    (drawStatistics loaded stats view).secondaryFrameBufferNoMouse =
      numberRow loaded stats.incorrectLetters (statisticsBoxX + 238) (statisticsBoxY + 176) ++
        (numberRow loaded stats.typedWords (statisticsBoxX + 258) (statisticsBoxY + 154) ++
          (numberRow loaded (shownSpeed stats) (statisticsBoxX + 322) (statisticsBoxY + 132) ++
            (numberRow loaded (shownAccuracy stats) (statisticsBoxX + 368) (statisticsBoxY + 110) ++
              view.secondaryFrameBufferNoMouse))) := by
  simp only [drawStatistics, drawInt_row complete (shownAccuracy_nonneg counts),
    drawInt_row complete (shownSpeed_nonneg counts offered),
    drawInt_row complete counts.typedWords_nonneg, drawInt_row complete counts.incorrectLetters]
  rfl

/-- A sprite that is loaded goes over the background. -/
theorem drawStatic_background {name : SpriteName} (placed : name ∈ uncheckedSprites) (sprite : Sprite)
    (view : View) :
    (drawStatic loaded name sprite view).secondaryFrameBufferNoMouse =
      .sprite name sprite.x sprite.y none :: view.secondaryFrameBufferNoMouse := by
  rw [drawStatic, spritePointer, if_pos (loaded.unchecked name placed)]
  rfl

/-- Drawing the statistics screen. -/
theorem gameDrawer_statistics {env : Env} {s next : State} {token : Nat}
    (complete : DigitsLoaded loaded) (counts : CountsAddUp stats) (offered : Offered stats.time)
    (shown : s.currentState = .statistics) (changed : s.gameStateChange = true)
    (hasStats : s.stats = .live token stats) (drawn : gameDrawer loaded env s = .ok next) :
    next.gameStateChange = false ∧ next.stats = .live token stats ∧
      ShowsStatistics loaded stats next.view.secondaryFrameBufferNoMouse := by
  rw [gameDrawer_eq, if_pos changed] at drawn
  obtain ⟨screen, drawing, frame⟩ := bind_eq_ok.mp drawn
  obtain ⟨screenShown, screenStats, shows⟩ : screen.currentState = .statistics ∧
      screen.stats = .live token stats ∧
      ShowsStatistics loaded stats screen.view.secondaryFrameBufferNoMouse := by
    rw [drawScreen, shown, hasStats] at drawing
    cases drawing
    refine ⟨rfl, rfl, s.view, ?_⟩
    rw [drawStatic_background (by decide), drawStatic_background (by decide),
      drawStatistics_background complete counts offered]
    rfl
  rw [drawFrame, screenShown] at frame
  cases frame
  have floats := @drawCursor_floats loaded screen.cursor screen.view
  have same : (drawCursor loaded (clampCursor screen.cursor) screen.view).secondaryFrameBufferNoMouse =
      screen.view.secondaryFrameBufferNoMouse := floats.background
  refine ⟨rfl, screenStats, ?_⟩
  change ShowsStatistics loaded stats
    (drawCursor loaded (clampCursor screen.cursor) screen.view).secondaryFrameBufferNoMouse
  rw [same]
  exact shows

end Drawing

section Handlers

variable {loaded : LoadedSprites} {s next : State}

/-- Keyboard and mouse neither enter the statistics nor draw in them. -/
structure Bystands (s next : State) : Prop where
  shown : next.currentState = .statistics → s.currentState = .statistics
  same : next.currentState = .statistics → next.gameStateChange = s.gameStateChange ∧
    next.stats = s.stats ∧ next.view = s.view

theorem Bystands.leave (left : next.currentState ≠ .statistics) : Bystands s next :=
  ⟨fun statistics => absurd statistics left, fun statistics => absurd statistics left⟩

theorem StatisticsUp.bystand (up : StatisticsUp loaded s) (bystands : Bystands s next) :
    StatisticsUp loaded next := by
  constructor
  · intro statistics
    rw [(bystands.same statistics).1]
    exact up.drawn (bystands.shown statistics)
  · intro statistics
    obtain ⟨-, stats, view⟩ := bystands.same statistics
    rw [stats, view]
    exact up.stats (bystands.shown statistics)

theorem keyHandler_bystands {ports : PortReads} {env : Env}
    (done : keyHandler loaded ports env s = .ok next) : Bystands s next := by
  rw [keyHandler_eq] at done
  obtain ⟨typed, updated, left⟩ := bind_eq_ok.mp done
  -- The dispatcher draws in games only, and stays in them.
  have dispatched : Bystands s typed := by
    rcases dispatchScancode_cases loaded env { s with data := kbcIh ports s.data } with
      ⟨key, same⟩ | ⟨_, playing, -⟩ | ⟨-, playing, -⟩ | ⟨playing, -⟩
    · cases same.symm.trans updated
      exact ⟨id, fun _ => ⟨rfl, rfl, rfl⟩⟩
    all_goals
      obtain ⟨_, _, _, _, _, _, rfl⟩ := updateKeyboard_typedFrom updated
      change s.currentState = .game at playing
      apply Bystands.leave
      change s.currentState ≠ .statistics
      rw [playing]
      exact GameState.noConfusion
  unfold leaveByKey at left
  split_ifs at left with inMenu enter escape
  · have entered : next.currentState = .timers := (setGameState_enteredFrom left).shown
    exact .leave (by rw [entered]; exact GameState.noConfusion)
  · cases left
    exact dispatched
  · obtain ⟨changed, change, cleared⟩ := bind_eq_ok.mp left
    cases cleared
    have entered : changed.currentState = .menu := (setGameState_enteredFrom change).shown
    apply Bystands.leave
    change changed.currentState ≠ .statistics
    rw [entered]
    exact GameState.noConfusion
  · cases left
    exact dispatched

theorem checkActions_bystands {env : Env} (acting : checkActions loaded env s = .ok next) :
    Bystands s next := by
  by_cases playing : s.currentState = .game
  · rw [checkActions_game env playing] at acting
    obtain ⟨_, _, _, _, _, _, _, rfl⟩ := checkGesture_gesturedFrom acting
    apply Bystands.leave
    change s.currentState ≠ .statistics
    rw [playing]
    exact GameState.noConfusion
  · rw [checkActions_eq loaded env playing] at acting
    cases hit : hitButton env s with
    | none =>
        rw [hit] at acting
        cases acting
        exact ⟨id, fun _ => ⟨rfl, rfl, rfl⟩⟩
    | some button =>
        rw [hit] at acting
        have opening := screenButtons_open env s button (List.mem_of_find?_eq_some hit) s next acting
        exact .leave opening.shown

theorem updateMouse_bystands {ports : PortReads} {env : Env}
    (done : updateMouse loaded ports env s = .ok next) : Bystands s next := by
  rcases updateMouse_inv done with ⟨pp, acted, acting, rfl⟩ | ⟨-, rfl⟩
  · obtain ⟨shown, same⟩ := checkActions_bystands acting
    exact ⟨shown, same⟩
  · exact ⟨id, fun _ => ⟨rfl, rfl, rfl⟩⟩

/-- The statistics screen once drawn, at the next ticks. -/
theorem StatisticsUp.again {env : Env} {ticked : State} (up : StatisticsUp loaded s)
    (updated : updateTimer env s = .ok ticked) (drawn : gameDrawer loaded env ticked = .ok next)
    (shown : ticked.currentState = .statistics) (unchanged : ticked.gameStateChange ≠ true) :
    next.gameStateChange = false ∧ ∃ token stats, next.stats = .live token stats ∧
      ShowsStatistics loaded stats next.view.secondaryFrameBufferNoMouse := by
  have background := congrArg Buffers.background (updateTimer_buffers updated)
  obtain ⟨before, stats⟩ : s.currentState = .statistics ∧ ticked.stats = s.stats := by
    rw [updateTimer_eq] at updated
    split_ifs at updated with playing expired second
    · obtain ⟨_, _, _, _, _, _, _, rfl, -⟩ := setGameState_enteredFrom updated
      exact absurd rfl unchanged
    all_goals
      cases updated
      exact ⟨shown, rfl⟩
  obtain ⟨token, live, hasStats, shows⟩ := up.stats before
  rw [gameDrawer_eq, if_neg unchanged, drawFrame, shown] at drawn
  cases drawn
  have floats := (@drawCursor_floats loaded ticked.cursor ticked.view).background
  refine ⟨eq_false_of_ne_true unchanged, token, live, stats.trans hasStats, ?_⟩
  have same : (drawCursor loaded (clampCursor ticked.cursor) ticked.view).secondaryFrameBufferNoMouse =
      s.view.secondaryFrameBufferNoMouse := floats.trans background
  change ShowsStatistics loaded live
    (drawCursor loaded (clampCursor ticked.cursor) ticked.view).secondaryFrameBufferNoMouse
  rw [same]
  exact shows

/-- A tick enters the statistics and draws them, or leaves them as they are. -/
theorem timerInterrupt_statisticsUp {env : Env} (complete : DigitsLoaded loaded)
    (kept : GameLedger s.core ∧ Scoreboard s.core) (up : StatisticsUp loaded s)
    (performed : perform loaded s (.timer env) = .ok next) : StatisticsUp loaded next := by
  obtain ⟨ticked, updated, drawn⟩ := bind_eq_ok.mp performed
  suffices statistics : ticked.currentState = .statistics → next.gameStateChange = false ∧
      ∃ token stats, next.stats = .live token stats ∧
        ShowsStatistics loaded stats next.view.secondaryFrameBufferNoMouse by
    have screen : next.currentState = ticked.currentState := by
      obtain ⟨_, _, _, _, _, rfl⟩ := gameDrawer_drawnFrom drawn
      rfl
    constructor
    · rw [screen]
      exact fun shown => (statistics shown).1
    · rw [screen]
      exact fun shown => (statistics shown).2
  intro shown
  obtain ⟨-, board⟩ := updateTimer_scoreboard kept updated
  obtain ⟨token, stats, hasStats, counts, offered, scored⟩ := board.finished shown
  by_cases changed : ticked.gameStateChange = true
  · obtain ⟨drawnNow, live, shows⟩ :=
      gameDrawer_statistics complete counts offered shown changed hasStats drawn
    exact ⟨drawnNow, token, stats, live, shows⟩
  · exact up.again updated drawn shown changed

theorem foldlM_statisticsUp {calls : List HandlerCall} (complete : DigitsLoaded loaded)
    (kept : GameLedger s.core ∧ Scoreboard s.core) (up : StatisticsUp loaded s)
    (ran : calls.foldlM (perform loaded) s = .ok next) : StatisticsUp loaded next := by
  induction calls generalizing s with
  | nil =>
      cases ran
      exact up
  | cons call calls inductionHypothesis =>
      rw [List.foldlM_cons, bind_eq_ok] at ran
      obtain ⟨middle, performed, later⟩ := ran
      apply inductionHypothesis (perform_scoreboard kept performed) _ later
      cases call with
      | keyboard ports env => exact up.bystand (keyHandler_bystands performed)
      | timer env => exact timerInterrupt_statisticsUp complete kept up performed
      | mouse ports env => exact up.bystand (updateMouse_bystands performed)

end Handlers

/-- In every run, as long as the statistics screen is up, its background ends with the labels of the
statistics, four numbers at their places beside them, and the two buttons.  The numbers are of the
game that was scored last: the words, the wrong letters, and, unless more than 35791394 words were
typed, the share of correct words to the nearest percent and the speed that the score table was
given.  Every word and every letter is counted once, as correct or as incorrect. -/
theorem statistics_screen_is_true (loaded : LoadedSprites) (complete : DigitsLoaded loaded)
    (file : List Char) (messages : List Notification) (s : State)
    (ran : run loaded file messages = .ok s) (shown : s.currentState = .statistics) :
    ∃ token stats wpm speed percent before, s.stats = .live token stats ∧ CountsAddUp stats ∧
      (scoreCalls s.log).head? = some (token, stats, wpm) ∧
      s.view.secondaryFrameBufferNoMouse =
        [.sprite .playAgain playAgainSprite.x playAgainSprite.y none,
          .sprite .backToMenu backToMenuSprite.x backToMenuSprite.y none] ++
          (numberRow loaded stats.incorrectLetters (statisticsBoxX + 238) (statisticsBoxY + 176) ++
            (numberRow loaded stats.typedWords (statisticsBoxX + 258) (statisticsBoxY + 154) ++
              (numberRow loaded speed (statisticsBoxX + 322) (statisticsBoxY + 132) ++
                (numberRow loaded percent (statisticsBoxX + 368) (statisticsBoxY + 110) ++
                  (drawText loaded statisticsMessage grey statisticsBoxX
                    (statisticsBoxX + statisticsBoxSizeX) statisticsBoxY
                    (drawRectangle statisticsBoxX statisticsBoxY statisticsBoxSizeX statisticsBoxSizeY
                      white before)).secondaryFrameBufferNoMouse)))) ∧
      (∀ value ∈ [stats.incorrectLetters, stats.typedWords, speed, percent], ∀ x y,
        readNumber (numberRow loaded value x y).reverse = some value) ∧
      (stats.typedWords ≤ mostWords →
        speed = wpm ∧ wpm * stats.time = stats.typedWords * 60 ∧ 0 ≤ percent ∧ percent ≤ 100 ∧
          (2 * percent - 1) * stats.typedWords ≤ 2 * (100 * stats.correctWords) ∧
          2 * (100 * stats.correctWords) ≤ (2 * percent + 1) * stats.typedWords) := by
  have start : StatisticsUp loaded (setup file) :=
    ⟨fun statistics => GameState.noConfusion statistics, fun statistics =>
      GameState.noConfusion statistics⟩
  have up : StatisticsUp loaded s := by
    apply foldlM_statisticsUp complete ⟨setup_ledger file, setup_scoreboard file⟩ start
    rw [foldlM_runCalls]
    exact ran
  obtain ⟨token, stats, hasStats, counts, offered, scored⟩ := (run_scoreboard ran).2.finished shown
  obtain ⟨_, _, hasStats', shows⟩ := up.stats shown
  change s.stats = .live token stats at hasStats
  rw [hasStats, Ptr.live.injEq] at hasStats'
  obtain ⟨-, rfl⟩ := hasStats'
  obtain ⟨before, background⟩ := shows.rows
  refine ⟨token, stats, _, shownSpeed stats, shownAccuracy stats, before, hasStats, counts, scored,
    background, ?_, fun few => ?_⟩
  · have nonnegative : ∀ value ∈
        [stats.incorrectLetters, stats.typedWords, shownSpeed stats, shownAccuracy stats],
        0 ≤ value := by
      simp only [List.forall_mem_cons, List.not_mem_nil, IsEmpty.forall_iff, implies_true, and_true]
      exact ⟨counts.incorrectLetters, counts.typedWords_nonneg, shownSpeed_nonneg counts offered,
        shownAccuracy_nonneg counts⟩
    intro value member
    exact readNumber_numberRow complete (nonnegative value member)
  · have speed := (exactSpeed_iff offered counts.typedWords_nonneg).mpr few
    obtain ⟨most, upper, lower⟩ := shownAccuracy_nearest counts few
    exact ⟨speed.shown.symm, speed.quotient, shownAccuracy_nonneg counts, most, lower, upper⟩

/-- A game of fifteen seconds, in which a word is given up after its first letter. -/
def playedOut : List Notification :=
  mousePacket 0x29 0 236 ++ mousePacket 0x09 0 110 ++
    [keyPress 0x1E, keyPress keySpace] ++ List.replicate 901 tickMessage

theorem played_out_shows :
    ∃ s, run everySprite [] playedOut = .ok s ∧ s.currentState = .statistics ∧
      ∃ token stats wpm speed percent before, s.stats = .live token stats ∧ CountsAddUp stats ∧
        (scoreCalls s.log).head? = some (token, stats, wpm) ∧
        s.view.secondaryFrameBufferNoMouse =
          [.sprite .playAgain playAgainSprite.x playAgainSprite.y none,
            .sprite .backToMenu backToMenuSprite.x backToMenuSprite.y none] ++
            (numberRow everySprite stats.incorrectLetters (statisticsBoxX + 238)
              (statisticsBoxY + 176) ++
              (numberRow everySprite stats.typedWords (statisticsBoxX + 258) (statisticsBoxY + 154) ++
                (numberRow everySprite speed (statisticsBoxX + 322) (statisticsBoxY + 132) ++
                  (numberRow everySprite percent (statisticsBoxX + 368) (statisticsBoxY + 110) ++
                    (drawText everySprite statisticsMessage grey statisticsBoxX
                      (statisticsBoxX + statisticsBoxSizeX) statisticsBoxY
                      (drawRectangle statisticsBoxX statisticsBoxY statisticsBoxSizeX statisticsBoxSizeY
                        white before)).secondaryFrameBufferNoMouse)))) ∧
        (∀ value ∈ [stats.incorrectLetters, stats.typedWords, speed, percent], ∀ x y,
          readNumber (numberRow everySprite value x y).reverse = some value) ∧
        (stats.typedWords ≤ mostWords →
          speed = wpm ∧ wpm * stats.time = stats.typedWords * 60 ∧ 0 ≤ percent ∧ percent ≤ 100 ∧
            (2 * percent - 1) * stats.typedWords ≤ 2 * (100 * stats.correctWords) ∧
            2 * (100 * stats.correctWords) ≤ (2 * percent + 1) * stats.typedWords) := by
  have checked : (run everySprite [] playedOut).toOption.any
      (fun s => s.currentState == .statistics) = true := by
    decide +kernel
  obtain ⟨s, ran, shown⟩ := exists_ok_of_any checked
  rw [beq_iff_eq] at shown
  exact ⟨s, ran, shown, statistics_screen_is_true everySprite (fun _ _ => rfl) [] playedOut s ran shown⟩

end TypingTutor
