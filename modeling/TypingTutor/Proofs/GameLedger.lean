/-
Module: TypingTutor.Proofs.GameLedger
Layer: Proofs
Purpose: The games of a run, read off the log.  A game starts with fresh statistics that carry its
  duration, and ends in one of two ways: its time runs out, which scores it once from that same
  statistics object, or it is left with ESC, which scores nothing.
Trusted boundary: none
Main exports: PlayedGame, playedGames, RanOut, Escaped, GameLedger, run_ledger
-/
import TypingTutor.Proofs.Actions

namespace TypingTutor

open Runs

/-! ### Games in the log -/

/-- A game as the log shows it: the statistics object made for it and the time stored there, the
screen change that left it, and the calls of `update_high_scores` since it started. -/
structure PlayedGame where
  token : Nat
  duration : Int
  ending : Option (Caller × GameState × Int)
  scored : List (Nat × Statistics × Int)
deriving Repr, DecidableEq

/-- The screen change that leaves the game. -/
def PlayedGame.leave (caller : Caller) (after : GameState) (timer : Int) (game : PlayedGame) :
    PlayedGame :=
  { game with ending := some (caller, after, timer) }

/-- A call of `update_high_scores`. -/
def PlayedGame.score (token : Nat) (stats : Statistics) (wpm : Int) (game : PlayedGame) :
    PlayedGame :=
  { game with scored := (token, stats, wpm) :: game.scored }

/-- The games of a log, newest first.  A game starts with the calls of `setGameState(GAME)`. -/
def playedGames : List Call → List PlayedGame
  | [] => []
  | .initializeStats token time :: .initializeTest _ :: .setGameState _ _ .game _ _ :: earlier =>
      { token := token, duration := time, ending := none, scored := [] } :: playedGames earlier
  | .setGameState caller .game after timer _ :: earlier =>
      (playedGames earlier).modifyHead (PlayedGame.leave caller after timer)
  | .updateHighScores token stats wpm _ :: earlier =>
      (playedGames earlier).modifyHead (PlayedGame.score token stats wpm)
  | _ :: earlier => playedGames earlier

/-- The calls of `update_high_scores` in a log, newest first. -/
def scoreCalls (log : List Call) : List (Nat × Statistics × Int) :=
  log.filterMap fun call =>
    match call with
    | .updateHighScores token stats wpm _ => some (token, stats, wpm)
    | _ => none

/-- The times a game can be given. -/
def Offered (seconds : Int) : Prop := seconds = 15 ∨ seconds = 30 ∨ seconds = 60

instance (seconds : Int) : Decidable (Offered seconds) :=
  inferInstanceAs (Decidable (_ ∨ _ ∨ _))

/-- The game ran out its time, and was scored once, from its own statistics. -/
def RanOut (game : PlayedGame) : Prop :=
  game.ending = some (.updateTimer, .statistics, 0) ∧
    ∃ stats, game.scored = [(game.token, stats, (gameSpeed stats).toInt)] ∧
      stats.time = game.duration ∧ 0 ≤ stats.typedWords

/-- The game was left with ESC and not scored. -/
def Escaped (game : PlayedGame) : Prop :=
  (∃ timer, game.ending = some (.keyHandler, .menu, timer)) ∧ game.scored = []

/-- The game is still being played, on the statistics object of its start. -/
def StillPlayed (token : Nat) (stats : Statistics) (game : PlayedGame) : Prop :=
  game.ending = none ∧ game.scored = [] ∧ game.token = token ∧ game.duration = stats.time ∧
    0 ≤ stats.typedWords

/-! ### What edits keep -/

/-- An edit faults only when the word cursor has left the array. -/
theorem edit_error {loaded : LoadedSprites} {change : Edit} {game : Game} {fault : Fault}
    (failed : edit loaded change game = .error fault) : fault = .outOfBounds := by
  have reading : ∀ found, game.test.currentWord = .error found → found = .outOfBounds := by
    intro found missing
    unfold TypingTest.currentWord at missing
    split at missing
    · cases missing
    · cases missing
      rfl
  cases word : game.test.currentWord with
  | error found =>
      cases change with
      | draw => cases failed
      | letter c | delete | fill | space env =>
          simp only [edit, word] at failed
          cases failed
          exact reading fault word
  | ok found =>
      cases change with
      | letter c =>
          simp only [edit, word, bind, Except.bind] at failed
          split at failed
          · cases failed
          · cases failed
      | delete | fill | space env | draw =>
          simp only [edit, word] at failed
          cases failed

/-- Statistics of the same game, no earlier. -/
structure Later (before after : Statistics) : Prop where
  time : after.time = before.time
  words : before.typedWords ≤ after.typedWords

theorem Later.refl (stats : Statistics) : Later stats stats := ⟨rfl, le_refl _⟩

/-- No edit changes the duration or takes back a word. -/
theorem edit_later {loaded : LoadedSprites} {change : Edit} {game edited : Game}
    (done : edit loaded change game = .ok edited) : Later game.stats edited.stats := by
  have typed : ∀ c word, Later game.stats (typeLetter c word game.test game.stats).2 := by
    intro c word
    simp only [typeLetter]
    split
    · exact ⟨rfl, le_refl _⟩
    · exact ⟨rfl, le_refl _⟩
  have judged : ∀ word, Later game.stats (judgeWord word game.test game.stats).2 := by
    intro word
    have more : game.stats.typedWords ≤ game.stats.typedWords + 1 := by omega
    simp only [judgeWord]
    split
    · exact ⟨rfl, more⟩
    · exact ⟨rfl, more⟩
  cases change with
  | draw =>
      cases done
      exact .refl _
  | delete | fill =>
      simp only [edit, bind_eq_ok] at done
      obtain ⟨word, -, returned⟩ := done
      cases returned
      exact .refl _
  | space env =>
      simp only [edit, bind_eq_ok] at done
      obtain ⟨word, -, returned⟩ := done
      cases returned
      exact judged word
  | letter c =>
      simp only [edit, bind_eq_ok] at done
      obtain ⟨word, -, returned⟩ := done
      split at returned
      · cases returned
        exact typed c word
      · cases returned
        exact .refl _

/-! ### The invariant -/

/-- The games of the log are accounted for, and the newest one is the game in memory while it is being
played. -/
structure GameLedger (core : Core) : Prop where
  live : core.Live
  playing : core.currentState = .game → ∃ testToken statsToken game newest older,
    core.Holds testToken statsToken game ∧ playedGames core.log = newest :: older ∧
      StillPlayed statsToken game.stats newest ∧
      ∀ played ∈ older, RanOut played ∨ Escaped played
  idle : core.currentState ≠ .game → ∀ played ∈ playedGames core.log, RanOut played ∨ Escaped played
  offered : ∀ played ∈ playedGames core.log, Offered played.duration
  statistics : ∀ caller before timer gesture,
    .setGameState caller before .statistics timer gesture ∈ core.log →
      caller = .updateTimer ∧ before = .game ∧ timer = 0
  scored : scoreCalls core.log = (playedGames core.log).flatMap (·.scored)

/-- The log has grown by calls that concern no game. -/
structure SameGames (core next : Core) : Prop where
  games : playedGames next.log = playedGames core.log
  scores : scoreCalls next.log = scoreCalls core.log
  statistics : ∀ caller before timer gesture,
    .setGameState caller before .statistics timer gesture ∈ next.log →
      .setGameState caller before .statistics timer gesture ∈ core.log

/-- Calls that neither start, end nor score a game. -/
def Call.Incidental : Call → Prop
  | .setGameState _ before after _ _ => before ≠ .game ∧ after ≠ .statistics
  | .initializeStats _ _ => False
  | .updateHighScores _ _ _ _ => False
  | _ => True

theorem playedGames_cons {call : Call} (incidental : call.Incidental) (log : List Call) :
    playedGames (call :: log) = playedGames log := by
  cases call with
  | setGameState caller before after timer gesture =>
      cases before with
      | game => exact absurd rfl incidental.1
      | menu | instructions | statistics | timers | highscores => simp [playedGames]
  | initializeStats token time => exact incidental.elim
  | updateHighScores token stats wpm time => exact incidental.elim
  | initializeTest | destroyTest | destroyStats | loadHighScores | parse | checkGesture =>
      simp [playedGames]

theorem scoreCalls_cons {call : Call} (incidental : call.Incidental) (log : List Call) :
    scoreCalls (call :: log) = scoreCalls log := by
  cases call with
  | updateHighScores token stats wpm time => exact incidental.elim
  | setGameState | initializeTest | initializeStats | destroyTest | destroyStats | loadHighScores
  | parse | checkGesture => rfl

theorem SameGames.refl {core next : Core} (log : next.log = core.log) : SameGames core next :=
  ⟨by rw [log], by rw [log], by rw [log]; exact fun _ _ _ _ member => member⟩

theorem SameGames.cons {core middle next : Core} {call : Call} (same : SameGames core middle)
    (log : next.log = call :: middle.log) (incidental : call.Incidental) : SameGames core next := by
  refine ⟨?_, ?_, ?_⟩
  · rw [log, playedGames_cons incidental, same.games]
  · rw [log, scoreCalls_cons incidental, same.scores]
  · intro caller before timer gesture member
    rw [log] at member
    rcases List.mem_cons.mp member with here | earlier
    · subst here
      exact absurd rfl incidental.2
    · exact same.statistics caller before timer gesture earlier

section Steps

variable {core next : Core} {testToken statsToken : Nat} {game : Game}

/-- The newest game of the log is the one in memory. -/
theorem GameLedger.newest (ledger : GameLedger core) (playing : core.currentState = .game)
    (holds : core.Holds testToken statsToken game) :
    ∃ newest older, playedGames core.log = newest :: older ∧
      StillPlayed statsToken game.stats newest ∧
      (∀ played ∈ older, RanOut played ∨ Escaped played) ∧ Offered game.stats.time := by
  obtain ⟨testToken', statsToken', game', newest, older, holds', games, still, done⟩ :=
    ledger.playing playing
  -- Both descriptions of the game in memory are of the same pointers.
  obtain ⟨rfl, sameStats⟩ : statsToken' = statsToken ∧ game'.stats = game.stats := by
    have pointers := holds'.stats.symm.trans holds.stats
    simp only [Ptr.live.injEq] at pointers
    exact pointers
  rw [sameStats] at still
  have offered := ledger.offered newest (by rw [games]; exact List.mem_cons_self)
  rw [still.2.2.2.1] at offered
  exact ⟨newest, older, games, still, done, offered⟩

/-- A game goes on: its objects are overwritten in place and keep their duration. -/
theorem GameLedger.goOn (ledger : GameLedger core) (same : SameGames core next)
    (playing : core.currentState = .game) (stillPlaying : next.currentState = .game)
    (holds : core.Holds testToken statsToken game) (edited : Game)
    (holdsNext : next.Holds testToken statsToken edited)
    (later : Later game.stats edited.stats) : GameLedger next := by
  obtain ⟨newest, older, games, still, done, -⟩ := ledger.newest playing holds
  refine
    { live := ⟨fun _ => ⟨testToken, statsToken, edited, holdsNext⟩, ?_⟩
      playing := ?_
      idle := fun notPlaying => absurd stillPlaying notPlaying
      offered := by rw [same.games]; exact ledger.offered
      statistics := fun caller before timer gesture member =>
        ledger.statistics caller before timer gesture
          (same.statistics caller before timer gesture member)
      scored := by rw [same.scores, same.games]; exact ledger.scored }
  · intro shown
    rw [stillPlaying] at shown
    cases shown
  · intro _
    obtain ⟨ending, scored, token, duration, words⟩ := still
    exact ⟨testToken, statsToken, edited, newest, older, holdsNext, same.games.trans games,
      ⟨ending, scored, token, duration.trans later.time.symm, words.trans later.words⟩, done⟩

/-- Screens outside games follow one another. -/
theorem GameLedger.stayIdle (ledger : GameLedger core) (same : SameGames core next)
    (idle : core.currentState ≠ .game) (stillIdle : next.currentState ≠ .game)
    (shows : next.currentState ≠ .statistics ∨
      next.currentState = core.currentState ∧ next.stats = core.stats) : GameLedger next := by
  refine
    { live := ⟨fun shown => absurd shown stillIdle, ?_⟩
      playing := fun shown => absurd shown stillIdle
      idle := fun _ => by rw [same.games]; exact ledger.idle idle
      offered := by rw [same.games]; exact ledger.offered
      statistics := fun caller before timer gesture member =>
        ledger.statistics caller before timer gesture
          (same.statistics caller before timer gesture member)
      scored := by rw [same.scores, same.games]; exact ledger.scored }
  intro shown
  rcases shows with other | ⟨screen, stats⟩
  · exact absurd shown other
  · rw [stats]
    exact ledger.live.statistics (screen ▸ shown)

/-- A game is left with ESC. -/
theorem GameLedger.escape (ledger : GameLedger core) (playing : core.currentState = .game)
    (screen : next.currentState = .menu)
    (log : next.log = .setGameState .keyHandler .game .menu core.timer core.gestureState ::
      core.log) : GameLedger next := by
  obtain ⟨testToken, statsToken, game, newest, older, -, games, still, done⟩ :=
    ledger.playing playing
  have gamesNext : playedGames next.log = newest.leave .keyHandler .menu core.timer :: older := by
    rw [log, playedGames, games]
    rfl
  have escaped : Escaped (newest.leave .keyHandler .menu core.timer) :=
    ⟨⟨core.timer, rfl⟩, still.2.1⟩
  refine
    { live := ⟨fun shown => ?_, fun shown => ?_⟩
      playing := fun shown => ?_
      idle := fun _ => ?_
      offered := ?_
      statistics := ?_
      scored := ?_ }
  · rw [screen] at shown
    cases shown
  · rw [screen] at shown
    cases shown
  · rw [screen] at shown
    cases shown
  · rw [gamesNext]
    exact List.forall_mem_cons.mpr ⟨.inr escaped, done⟩
  · have offered := ledger.offered
    rw [games] at offered
    rw [gamesNext]
    exact List.forall_mem_cons.mpr
      ⟨offered newest List.mem_cons_self, fun played member =>
        offered played (List.mem_cons_of_mem _ member)⟩
  · intro caller before timer gesture member
    rw [log] at member
    rcases List.mem_cons.mp member with here | earlier
    · cases here
    · exact ledger.statistics caller before timer gesture earlier
  · have scored := ledger.scored
    rw [games] at scored
    rw [gamesNext, log]
    exact scored

/-- A game runs out its time and is scored. -/
theorem GameLedger.timeUp (ledger : GameLedger core) (playing : core.currentState = .game)
    (expired : core.timer = 0) (holds : core.Holds testToken statsToken game) (clock : RealTimeInfo)
    (screen : next.currentState = .statistics) (stats : next.stats = core.stats)
    (log : next.log =
      .updateHighScores statsToken game.stats (gameSpeed game.stats).toInt clock ::
        .destroyTest testToken ::
          .setGameState .updateTimer .game .statistics core.timer core.gestureState :: core.log) :
    GameLedger next := by
  obtain ⟨newest, older, games, still, done, -⟩ := ledger.newest playing holds
  have offered := ledger.offered
  rw [games] at offered
  have scored := ledger.scored
  rw [games] at scored
  obtain ⟨-, unscored, token, duration, words⟩ := still
  have gamesNext : playedGames next.log =
      (newest.leave .updateTimer .statistics core.timer).score statsToken game.stats
        (gameSpeed game.stats).toInt :: older := by
    simp [log, playedGames, games]
  have ranOut : RanOut ((newest.leave .updateTimer .statistics core.timer).score statsToken
      game.stats (gameSpeed game.stats).toInt) := by
    refine ⟨by rw [expired]; rfl, game.stats, ?_, duration.symm, words⟩
    simp [PlayedGame.score, PlayedGame.leave, unscored, token]
  refine
    { live := ⟨fun entered => ?_, fun _ => ⟨statsToken, game.stats, stats.trans holds.stats⟩⟩
      playing := fun entered => ?_
      idle := fun _ => ?_
      offered := ?_
      statistics := ?_
      scored := ?_ }
  · rw [screen] at entered
    cases entered
  · rw [screen] at entered
    cases entered
  · rw [gamesNext]
    exact List.forall_mem_cons.mpr ⟨.inl ranOut, done⟩
  · rw [gamesNext]
    exact List.forall_mem_cons.mpr
      ⟨offered newest List.mem_cons_self, fun played member =>
        offered played (List.mem_cons_of_mem _ member)⟩
  · intro caller before timer gesture member
    rw [log] at member
    simp only [List.mem_cons, reduceCtorEq, false_or] at member
    rcases member with here | earlier
    · cases here
      exact ⟨rfl, rfl, expired⟩
    · exact ledger.statistics caller before timer gesture earlier
  · rw [gamesNext, log]
    exact congrArg (List.cons _) scored

/-- A game starts. -/
theorem GameLedger.start (ledger : GameLedger core) (idle : core.currentState ≠ .game)
    (seconds : Int) (offered : Offered seconds) (caller : Caller) (gesture : GestureState)
    (screen : next.currentState = .game) {test : TypingTest}
    (holds : next.Holds testToken statsToken { test := test, stats := initializeStats seconds })
    (log : next.log =
      .initializeStats statsToken seconds :: .initializeTest testToken ::
        .setGameState caller core.currentState .game seconds gesture :: core.log) :
    GameLedger next := by
  have gamesNext : playedGames next.log =
      { token := statsToken, duration := seconds, ending := none, scored := [] } ::
        playedGames core.log := by
    rw [log, playedGames]
  refine
    { live := ⟨fun _ => ⟨testToken, statsToken, _, holds⟩, fun entered => ?_⟩
      playing := fun _ => ⟨testToken, statsToken, _, _, _, holds, gamesNext,
        ⟨rfl, rfl, rfl, rfl, le_refl _⟩, ledger.idle idle⟩
      idle := fun notPlaying => absurd screen notPlaying
      offered := ?_
      statistics := ?_
      scored := ?_ }
  · rw [screen] at entered
    cases entered
  · rw [gamesNext]
    exact List.forall_mem_cons.mpr ⟨offered, ledger.offered⟩
  · intro caller' before timer gesture' member
    rw [log] at member
    simp only [List.mem_cons, reduceCtorEq, Call.setGameState.injEq, false_and, and_false,
      false_or] at member
    exact ledger.statistics caller' before timer gesture' member
  · rw [gamesNext, log]
    exact ledger.scored

end Steps

/-! ### Every run keeps the ledger -/

/-- The faults a run can end with: only the word cursor can leave its array. -/
def OnlyOutOfBounds (fault : Fault) : Prop := fault = .outOfBounds

/-- An edit of the game being played fails. -/
def EditFault (loaded : LoadedSprites) (core : Core) (fault : Fault) : Prop :=
  core.currentState = .game ∧ ∃ change testToken statsToken game,
    core.Holds testToken statsToken game ∧ edit loaded change game = .error fault

/-- An edit of the game in memory. -/
theorem applied_ledger {loaded : LoadedSprites} {s : State} {outcome : Except Fault State}
    {testToken statsToken : Nat} {game : Game} {change : Edit} (ledger : GameLedger s.core)
    (playing : s.currentState = .game) (holds : s.core.Holds testToken statsToken game)
    (applied : Applies s.core testToken statsToken (edit loaded change game) outcome) :
    Outcome (fun s => GameLedger s.core) (EditFault loaded s.core) outcome := by
  rcases applies_iff.mp applied with ⟨edited, next, done, rfl, core⟩ | ⟨fault, failed, rfl⟩
  · have same : SameGames s.core next.core := .refl (by rw [core]; rfl)
    refine ledger.goOn same playing ?_ holds edited ?_ (edit_later done)
    · rw [core]
      exact playing
    · rw [core]
      exact ⟨rfl, rfl⟩
  · exact ⟨playing, change, testToken, statsToken, game, holds, failed⟩

/-- A screen change that neither starts nor ends a game. -/
theorem screen_ledger {s : State} {Allowed : Fault → Prop} (ledger : GameLedger s.core) (env : Env)
    (caller : Caller) {target : GameState} (idle : s.currentState ≠ .game) (noGame : target ≠ .game)
    (noStatistics : target ≠ .statistics) :
    Outcome (fun s => GameLedger s.core) Allowed (setGameState env caller target s) := by
  have entered : ∀ next : Core,
      next.log = .setGameState caller s.currentState target s.timer s.gestureState :: s.log →
        SameGames s.core next :=
    fun next log => .cons (.refl rfl) log ⟨idle, noStatistics⟩
  cases target with
  | game => exact absurd rfl noGame
  | statistics => exact absurd rfl noStatistics
  | menu | timers | instructions =>
      exact ledger.stayIdle (entered _ rfl) idle (by simp [State.core]) (.inl (by simp [State.core]))
  | highscores =>
      have opened : ∀ next : Core, next.log = .loadHighScores ::
          .setGameState caller s.currentState .highscores s.timer s.gestureState :: s.log →
          SameGames s.core next :=
        fun next log => .cons (entered { s.core with log := _ :: s.log } rfl) log trivial
      exact ledger.stayIdle (opened _ rfl) idle (by simp [State.core]) (.inl (by simp [State.core]))

/-- The duration of a game is one of those offered. -/
theorem GameLedger.timed {core : Core} {testToken statsToken : Nat} {game : Game}
    (ledger : GameLedger core) (playing : core.currentState = .game)
    (holds : core.Holds testToken statsToken game) : game.stats.time ≠ 0 := by
  obtain ⟨-, -, -, -, -, offered⟩ := ledger.newest playing holds
  rcases offered with time | time | time
  · omega
  · omega
  · omega

/-- The time of a game is up.  Nothing is divided by zero. -/
theorem timeUp_ledger {s : State} {Allowed : Fault → Prop} (ledger : GameLedger s.core) (env : Env)
    (playing : s.currentState = .game) (expired : s.timer = 0) :
    Outcome (fun s => GameLedger s.core) Allowed (setGameState env .updateTimer .statistics s) := by
  obtain ⟨testToken, statsToken, game, holds⟩ := ledger.live.game playing
  have timed := ledger.timed playing holds
  rw [setGameState_statistics env .updateTimer holds.test holds.stats timed]
  refine ledger.timeUp playing expired holds (env.rtc 0) rfl rfl ?_
  rw [← playing]
  rfl

/-- BACK TO MENU of a finished game. -/
theorem backToMenu_eq {s : State} (env : Env) {token : Nat} {stats : Statistics}
    (hasStats : s.core.stats = .live token stats) :
    (setGameState env .checkActions .menu s >>= destroyStats) =
      .ok { s with
        currentKey := .noneKey
        currentState := .menu
        gameStateChange := true
        stats := .freed token
        log := .destroyStats token ::
          .setGameState .checkActions s.currentState .menu s.timer s.gestureState ::
            s.log } := by
  have pointer : s.stats = .live token stats := hasStats
  simp only [setGameState, bind, Except.bind, destroyStats, pointer]
  rfl

/-- The statistics are destroyed on the way back to the menu. -/
theorem backToMenu_ledger {s : State} {Allowed : Fault → Prop} (ledger : GameLedger s.core) (env : Env)
    (shown : s.currentState = .statistics) :
    Outcome (fun s => GameLedger s.core) Allowed
      (setGameState env .checkActions .menu s >>= destroyStats) := by
  obtain ⟨token, stats, hasStats⟩ := ledger.live.statistics shown
  rw [backToMenu_eq env hasStats]
  have entered : SameGames s.core { s.core with
      log := .setGameState .checkActions s.currentState .menu s.timer s.gestureState ::
        s.log } :=
    .cons (.refl rfl) rfl ⟨by rw [shown]; simp, by simp⟩
  exact ledger.stayIdle (.cons entered rfl trivial) (by rw [State.core, shown]; simp)
    (by simp [State.core]) (.inl (by simp [State.core]))

/-- Every step keeps the ledger, and only an edit can fail. -/
theorem step_ledger {loaded : LoadedSprites} (s : State) (outcome : Except Fault State)
    (ledger : GameLedger s.core) (step : Step loaded s outcome) :
    Outcome (fun s => GameLedger s.core) (EditFault loaded s.core) outcome := by
  cases step with
  | space env playing holds applied => exact applied_ledger ledger playing holds applied
  | action action =>
      cases action with
      | dead dead => exact absurd ledger.live dead
      | @frame next same =>
          change GameLedger next.core
          rw [same]
          exact ledger
      | edit change stays playing holds applied =>
          exact applied_ledger ledger playing holds applied
      | @gesture next pp gesture xGesture playing moved core =>
          obtain ⟨testToken, statsToken, game, holds⟩ := ledger.live.game playing
          have same : SameGames s.core next.core :=
            .cons (.refl rfl) (congrArg Core.log core) trivial
          refine ledger.goOn same playing (by rw [core]; exact playing) holds game ?_ (.refl _)
          rw [core]
          exact ⟨holds.test, holds.stats⟩
      | @fill next testToken statsToken game filled pp playing full holds filling core =>
          have same : SameGames s.core next.core :=
            .cons (.refl rfl) (congrArg Core.log core) trivial
          refine ledger.goOn same playing (by rw [core]; exact playing) holds filled ?_
            (edit_later filling)
          rw [core]
          exact ⟨rfl, rfl⟩
      | enter env shown =>
          exact screen_ledger ledger env .keyHandler (by rw [shown]; simp) (by simp) (by simp)
      | escape env shown =>
          by_cases playing : s.currentState = .game
          · refine ledger.escape playing rfl ?_
            rw [← playing]
            rfl
          · exact screen_ledger ledger env .keyHandler playing (by simp) (by simp)
      | timeUp env playing expired => exact timeUp_ledger ledger env playing expired
      | countDown playing running =>
          obtain ⟨testToken, statsToken, game, holds⟩ := ledger.live.game playing
          exact ledger.goOn (.refl rfl) playing playing holds game ⟨holds.test, holds.stats⟩ (.refl _)
      | packet pp =>
          have same : SameGames s.core (s.record (.parse pp)).core :=
            .cons (.refl rfl) rfl trivial
          by_cases playing : s.currentState = .game
          · obtain ⟨testToken, statsToken, game, holds⟩ := ledger.live.game playing
            exact ledger.goOn same playing playing holds game ⟨holds.test, holds.stats⟩ (.refl _)
          · exact ledger.stayIdle same playing playing (.inr ⟨rfl, rfl⟩)
      | button env target leads =>
          have screens : s.currentState ≠ .game ∧ target ≠ .game ∧ target ≠ .statistics := by
            generalize s.currentState = before at leads
            cases leads with
            | play | instructions | highscores | playAgain | back => decide
          exact screen_ledger ledger env .checkActions screens.1 screens.2.1 screens.2.2
      | chooseTimer env seconds shown offered =>
          rw [setGameState_game]
          exact ledger.start (by rw [State.core, shown]; simp) seconds offered .checkActions
            s.gestureState rfl ⟨rfl, rfl⟩ rfl
      | backToMenu env shown => exact backToMenu_ledger ledger env shown

theorem setup_ledger (file : List Char) : GameLedger (setup file).core := by
  refine
    { live := ⟨fun shown => (by cases shown), fun shown => (by cases shown)⟩
      playing := fun shown => (by cases shown)
      idle := fun _ played member => ?_
      offered := fun played member => ?_
      statistics := ?_
      scored := rfl }
  · simp [setup, State.core, playedGames] at member
  · simp [setup, State.core, playedGames] at member
  · intro caller before timer gesture member
    simp [setup, State.core] at member

/-- Every run keeps the ledger; the only fault it can end with is a word cursor out of bounds. -/
theorem run_ledger (loaded : LoadedSprites) (file : List Char) (messages : List Notification) :
    Outcome (fun s => GameLedger s.core) OnlyOutOfBounds (run loaded file messages) := by
  refine (run_chain loaded file messages).keeps ?_ (setup_ledger file)
  intro s outcome ledger step
  apply (step_ledger s outcome ledger step).mono fun _ kept => kept
  rintro fault ⟨-, change, _, _, game, -, failed⟩
  exact edit_error failed

end TypingTutor
