/-
Module: TypingTutor.Proofs.Lifetimes
Layer: Proofs
Purpose: The heap objects of a run.  The test is owned by the game screen, the statistics by the game
  and statistics screens.  No handler uses a dead object, and no object is freed twice.  Objects are
  lost when a screen is left by another way than the one that frees them, and the sprites are not freed
  once each by any run.
Trusted boundary: none
Main exports: Lifetimes, run_lifetimes, objects_used_while_live, no_run_releases_everything
-/
import TypingTutor.Core.Lifecycle
import TypingTutor.Proofs.GameLedger
import Mathlib.Data.List.Count

namespace TypingTutor

open Runs Ownership

/-! ### Owners of the game objects -/

/-- The game is left without `destroy_test`. -/
def Call.losesTest : Call → Bool
  | .setGameState _ .game after _ _ => after != .statistics
  | _ => false

/-- The game, or its statistics, are left without `destroy_stats`. -/
def Call.losesStats : Call → Bool
  | .setGameState _ .game after _ _ => after != .statistics
  | .setGameState caller .statistics after _ _ => !(caller == .checkActions && after == .menu)
  | _ => false

/-- The test that the screen owns. -/
def Core.heldTest (core : Core) : Option Nat :=
  if core.currentState = .game then core.test.token? else none

/-- The statistics that the screen owns. -/
def Core.heldStats (core : Core) : Option Nat :=
  if core.currentState = .game ∨ core.currentState = .statistics then core.stats.token? else none

/-- The screens own the objects, and new tokens are unused. -/
structure Lifetimes (core : Core) : Prop where
  tests : Owner (testEvents core.log) (core.log.countP Call.losesTest) core.heldTest
  stats : Owner (statsEvents core.log) (core.log.countP Call.losesStats) core.heldStats
  freshTests : ∀ token, .alloc token ∈ testEvents core.log → token < core.nextToken
  freshStats : ∀ token, .alloc token ∈ statsEvents core.log → token < core.nextToken

/-- Calls that concern no object. -/
def Call.Silent (call : Call) : Prop :=
  call.testEvent = none ∧ call.statsEvent = none ∧ call.losesTest = false ∧ call.losesStats = false

/-- Nothing is lost with a screen that owns nothing. -/
theorem silent_of_idle {caller : Caller} {before after : GameState} {timer : Int}
    {gesture : GestureState} (idle : before ≠ .game ∧ before ≠ .statistics) :
    Call.Silent (.setGameState caller before after timer gesture) := by
  cases before with
  | game => exact absurd rfl idle.1
  | statistics => exact absurd rfl idle.2
  | menu | instructions | timers | highscores => exact ⟨rfl, rfl, rfl, rfl⟩

section Traces

variable {call : Call} {log : List Call}

theorem testEvents_cons : testEvents (call :: log) = call.testEvent.toList ++ testEvents log := by
  rw [testEvents, List.filterMap_cons]
  cases call.testEvent with
  | none => rfl
  | some event => rfl

theorem statsEvents_cons : statsEvents (call :: log) = call.statsEvent.toList ++ statsEvents log := by
  rw [statsEvents, List.filterMap_cons]
  cases call.statsEvent with
  | none => rfl
  | some event => rfl

end Traces

/-- The same objects are owned after silent calls. -/
theorem Lifetimes.silent {core next : Core} (lifetimes : Lifetimes core) {calls : List Call}
    (log : next.log = calls ++ core.log) (silent : ∀ call ∈ calls, call.Silent)
    (test : next.heldTest = core.heldTest) (stats : next.heldStats = core.heldStats)
    (token : next.nextToken = core.nextToken) : Lifetimes next := by
  have traces : testEvents next.log = testEvents core.log ∧
      statsEvents next.log = statsEvents core.log ∧
      next.log.countP Call.losesTest = core.log.countP Call.losesTest ∧
      next.log.countP Call.losesStats = core.log.countP Call.losesStats := by
    rw [log]
    clear log
    induction calls with
    | nil => exact ⟨rfl, rfl, rfl, rfl⟩
    | cons call calls inductionHypothesis =>
        obtain ⟨noTest, noStats, keepsTest, keepsStats⟩ := silent call List.mem_cons_self
        obtain ⟨tests, statistics, lostTests, lostStats⟩ := inductionHypothesis
          fun other member => silent other (List.mem_cons_of_mem call member)
        refine ⟨?_, ?_, ?_, ?_⟩
        · rw [List.cons_append, testEvents_cons, noTest, tests]
          rfl
        · rw [List.cons_append, statsEvents_cons, noStats, statistics]
          rfl
        · rw [List.cons_append, List.countP_cons_of_neg (by simp [keepsTest]), lostTests]
        · rw [List.cons_append, List.countP_cons_of_neg (by simp [keepsStats]), lostStats]
  obtain ⟨tests, statistics, lostTests, lostStats⟩ := traces
  constructor
  · rw [tests, lostTests, test]
    exact lifetimes.tests
  · rw [statistics, lostStats, stats]
    exact lifetimes.stats
  · rw [tests, token]
    exact lifetimes.freshTests
  · rw [statistics, token]
    exact lifetimes.freshStats

/-- Silent calls on top of a trace. -/
theorem Lifetimes.extend {next : Core} {calls older : List Call}
    (lifetimes : Lifetimes { next with log := older }) (log : next.log = calls ++ older)
    (silent : ∀ call ∈ calls, call.Silent) : Lifetimes next :=
  lifetimes.silent log silent rfl rfl rfl

/-! ### What each step does to the objects -/

section Held

variable {core : Core} {testToken statsToken : Nat}

theorem Core.heldTest_eq_some {test : TypingTest} (playing : core.currentState = .game)
    (live : core.test = .live testToken test) : core.heldTest = some testToken := by
  rw [Core.heldTest, if_pos playing, live]
  rfl

theorem Core.heldTest_eq_none (idle : core.currentState ≠ .game) : core.heldTest = none :=
  if_neg idle

theorem Core.heldStats_eq_some {stats : Statistics}
    (owned : core.currentState = .game ∨ core.currentState = .statistics)
    (live : core.stats = .live statsToken stats) : core.heldStats = some statsToken := by
  rw [Core.heldStats, if_pos owned, live]
  rfl

theorem Core.heldStats_eq_none (idle : core.currentState ≠ .game)
    (hidden : core.currentState ≠ .statistics) : core.heldStats = none := by
  apply if_neg
  rintro (playing | shown)
  · exact idle playing
  · exact hidden shown

end Held

section Steps

variable {core next : Core} {testToken statsToken : Nat} {game edited : Game}

/-- The game goes on with the same objects. -/
theorem Lifetimes.goOn (lifetimes : Lifetimes core) (playing : core.currentState = .game)
    (holds : core.Holds testToken statsToken game) (screen : next.currentState = .game)
    (held : next.Holds testToken statsToken edited) {calls : List Call}
    (log : next.log = calls ++ core.log) (silent : ∀ call ∈ calls, call.Silent)
    (token : next.nextToken = core.nextToken) : Lifetimes next := by
  apply lifetimes.silent log silent
  · rw [Core.heldTest_eq_some screen held.test, Core.heldTest_eq_some playing holds.test]
  · rw [Core.heldStats_eq_some (.inl screen) held.stats,
      Core.heldStats_eq_some (.inl playing) holds.stats]
  · exact token

/-- A screen change that makes and frees no object; what the screen held may be lost. -/
theorem Lifetimes.change (lifetimes : Lifetimes core) {caller : Caller} {before after : GameState}
    {timer : Int} {gesture : GestureState} {call : Call}
    (change : call = .setGameState caller before after timer gesture)
    (log : next.log = call :: core.log) (token : next.nextToken = core.nextToken)
    (tests : Owner (testEvents core.log)
      (core.log.countP Call.losesTest + if call.losesTest then 1 else 0) next.heldTest)
    (stats : Owner (statsEvents core.log)
      (core.log.countP Call.losesStats + if call.losesStats then 1 else 0) next.heldStats) :
    Lifetimes next := by
  have sameTests : testEvents next.log = testEvents core.log := by
    rw [log, testEvents_cons, change]
    rfl
  have sameStats : statsEvents next.log = statsEvents core.log := by
    rw [log, statsEvents_cons, change]
    rfl
  constructor
  · rw [sameTests, log, List.countP_cons]
    exact tests
  · rw [sameStats, log, List.countP_cons]
    exact stats
  · rw [sameTests, token]
    exact lifetimes.freshTests
  · rw [sameStats, token]
    exact lifetimes.freshStats

/-- A screen that holds no object is left for another. -/
theorem Lifetimes.stayIdle (lifetimes : Lifetimes core) {calls : List Call}
    (log : next.log = calls ++ core.log) (silent : ∀ call ∈ calls, call.Silent)
    (token : next.nextToken = core.nextToken)
    (idle : core.currentState ≠ .game ∧ core.currentState ≠ .statistics)
    (idleNext : next.currentState ≠ .game ∧ next.currentState ≠ .statistics) : Lifetimes next := by
  apply lifetimes.silent log silent
  · rw [Core.heldTest_eq_none idle.1, Core.heldTest_eq_none idleNext.1]
  · rw [Core.heldStats_eq_none idle.1 idle.2, Core.heldStats_eq_none idleNext.1 idleNext.2]
  · exact token

/-- `GAME` is left for a screen that owns nothing: test and statistics are lost. -/
theorem Lifetimes.loseGame (lifetimes : Lifetimes core) (playing : core.currentState = .game)
    (holds : core.Holds testToken statsToken game) {caller : Caller} {after : GameState}
    {timer : Int} {gesture : GestureState} (away : after ≠ .statistics)
    (log : next.log = .setGameState caller .game after timer gesture :: core.log)
    (token : next.nextToken = core.nextToken)
    (idle : next.currentState ≠ .game ∧ next.currentState ≠ .statistics) : Lifetimes next := by
  have tests := lifetimes.tests
  have stats := lifetimes.stats
  rw [Core.heldTest_eq_some playing holds.test] at tests
  rw [Core.heldStats_eq_some (.inl playing) holds.stats] at stats
  apply lifetimes.change rfl log token
  · rw [Core.heldTest_eq_none idle.1, if_pos (by simp [Call.losesTest, away])]
    exact tests.lose
  · rw [Core.heldStats_eq_none idle.1 idle.2, if_pos (by simp [Call.losesStats, away])]
    exact stats.lose

/-- `STATISTICS` is left without `destroy_stats`. -/
theorem Lifetimes.loseStats (lifetimes : Lifetimes core) (shown : core.currentState = .statistics)
    {stats : Statistics} (live : core.stats = .live statsToken stats) {caller : Caller}
    {after : GameState} {timer : Int} {gesture : GestureState}
    (leaving : Call.losesStats (.setGameState caller .statistics after timer gesture) = true)
    (log : next.log = .setGameState caller .statistics after timer gesture :: core.log)
    (token : next.nextToken = core.nextToken)
    (idle : next.currentState ≠ .game ∧ next.currentState ≠ .statistics) : Lifetimes next := by
  have tests := lifetimes.tests
  have owner := lifetimes.stats
  rw [Core.heldTest_eq_none (by rw [shown]; simp)] at tests
  rw [Core.heldStats_eq_some (.inr shown) live] at owner
  apply lifetimes.change rfl log token
  · rw [Core.heldTest_eq_none idle.1]
    exact tests
  · rw [Core.heldStats_eq_none idle.1 idle.2, if_pos leaving]
    exact owner.lose

/-- A game ends: `destroy_test` frees its test, and the statistics stay. -/
theorem Lifetimes.finish (lifetimes : Lifetimes core) (playing : core.currentState = .game)
    (holds : core.Holds testToken statsToken game) {caller : Caller} {timer : Int}
    {gesture : GestureState}
    (log : next.log = .destroyTest testToken ::
      .setGameState caller .game .statistics timer gesture :: core.log)
    (screen : next.currentState = .statistics) (stats : next.stats = core.stats)
    (token : next.nextToken = core.nextToken) : Lifetimes next := by
  have tests := lifetimes.tests
  rw [Core.heldTest_eq_some playing holds.test] at tests
  have owner := lifetimes.stats
  rw [Core.heldStats_eq_some (.inl playing) holds.stats] at owner
  constructor
  · rw [log, Core.heldTest_eq_none (by rw [screen]; simp)]
    exact tests.free
  · rw [log, Core.heldStats_eq_some (.inr screen) (stats.trans holds.stats)]
    exact owner
  · intro other allocated
    rw [log] at allocated
    rw [token]
    rcases List.mem_cons.mp allocated with here | earlier
    · cases here
    · exact lifetimes.freshTests other earlier
  · rw [log, token]
    exact lifetimes.freshStats

/-- A game starts with two objects of its own. -/
theorem Lifetimes.start (lifetimes : Lifetimes core)
    (idle : core.currentState ≠ .game ∧ core.currentState ≠ .statistics) {caller : Caller}
    {before : GameState} {timer seconds : Int} {gesture : GestureState}
    (left : before ≠ .game ∧ before ≠ .statistics)
    (log : next.log = .initializeStats (core.nextToken + 1) seconds ::
      .initializeTest core.nextToken :: .setGameState caller before .game timer gesture :: core.log)
    (screen : next.currentState = .game) {test : TypingTest} {stats : Statistics}
    (liveTest : next.test = .live core.nextToken test)
    (liveStats : next.stats = .live (core.nextToken + 1) stats)
    (token : next.nextToken = core.nextToken + 2) : Lifetimes next := by
  have quiet : Call.Silent (.setGameState caller before .game timer gesture) := silent_of_idle left
  have tests := lifetimes.tests
  rw [Core.heldTest_eq_none idle.1] at tests
  have owner := lifetimes.stats
  rw [Core.heldStats_eq_none idle.1 idle.2] at owner
  have testTrace : testEvents next.log = .alloc core.nextToken :: testEvents core.log := by
    rw [log]
    simp only [testEvents_cons, quiet.1]
    rfl
  have statsTrace : statsEvents next.log = .alloc (core.nextToken + 1) :: statsEvents core.log := by
    rw [log]
    simp only [statsEvents_cons, quiet.2.1]
    rfl
  have lostTests : next.log.countP Call.losesTest = core.log.countP Call.losesTest := by
    rw [log]
    simp [List.countP_cons, quiet.2.2.1]
    simp [Call.losesTest]
  have lostStats : next.log.countP Call.losesStats = core.log.countP Call.losesStats := by
    rw [log]
    simp [List.countP_cons, quiet.2.2.2]
    simp [Call.losesStats]
  constructor
  · rw [testTrace, lostTests, Core.heldTest_eq_some screen liveTest]
    apply tests.alloc
    intro allocated
    exact absurd (lifetimes.freshTests _ allocated) (Nat.lt_irrefl _)
  · rw [statsTrace, lostStats, Core.heldStats_eq_some (.inl screen) liveStats]
    apply owner.alloc
    intro allocated
    have older := lifetimes.freshStats _ allocated
    omega
  · intro other allocated
    rw [testTrace] at allocated
    rw [token]
    rcases List.mem_cons.mp allocated with here | earlier
    · cases here
      omega
    · have older := lifetimes.freshTests _ earlier
      omega
  · intro other allocated
    rw [statsTrace] at allocated
    rw [token]
    rcases List.mem_cons.mp allocated with here | earlier
    · cases here
      omega
    · have older := lifetimes.freshStats _ earlier
      omega

/-- BACK TO MENU frees the statistics. -/
theorem Lifetimes.freeStats (lifetimes : Lifetimes core) (shown : core.currentState = .statistics)
    {stats : Statistics} (live : core.stats = .live statsToken stats) {timer : Int}
    {gesture : GestureState}
    (log : next.log = .destroyStats statsToken ::
      .setGameState .checkActions .statistics .menu timer gesture :: core.log)
    (screen : next.currentState = .menu) (token : next.nextToken = core.nextToken) :
    Lifetimes next := by
  have tests := lifetimes.tests
  rw [Core.heldTest_eq_none (by rw [shown]; simp)] at tests
  have owner := lifetimes.stats
  rw [Core.heldStats_eq_some (.inr shown) live] at owner
  constructor
  · rw [log, Core.heldTest_eq_none (by rw [screen]; simp)]
    exact tests
  · rw [log, Core.heldStats_eq_none (by rw [screen]; simp) (by rw [screen]; simp)]
    exact owner.free
  · rw [log, token]
    exact lifetimes.freshTests
  · intro other allocated
    rw [log] at allocated
    rw [token]
    rcases List.mem_cons.mp allocated with here | earlier
    · cases here
    · exact lifetimes.freshStats other earlier

end Steps

/-! ### Every run keeps the owners -/

/-- A screen that owns nothing is entered.  Test and statistics of a game that is left are lost, and
so are the statistics unless they are destroyed next. -/
theorem screen_lifetimes {s : State} (ledger : GameLedger s.core) (lifetimes : Lifetimes s.core)
    (env : Env) (caller : Caller) {target : GameState}
    (away : target ≠ .game ∧ target ≠ .statistics)
    (losing : s.currentState = .statistics → ¬ (caller = .checkActions ∧ target = .menu)) :
    Outcome (fun s => Lifetimes s.core) (fun _ => True) (setGameState env caller target s) := by
  have entered : ∀ next : Core, next.currentState = target → next.nextToken = s.nextToken →
      next.log = .setGameState caller s.currentState target s.timer s.gestureState :: s.log →
      Lifetimes next := by
    intro next screen token log
    rw [← screen] at away
    by_cases playing : s.currentState = .game
    · obtain ⟨testToken, statsToken, game, holds⟩ := ledger.live.game playing
      rw [playing] at log
      exact lifetimes.loseGame playing holds (screen ▸ away.2) log token away
    by_cases shown : s.currentState = .statistics
    · obtain ⟨statsToken, stats, live⟩ := ledger.live.statistics shown
      rw [shown] at log
      refine lifetimes.loseStats shown live ?_ log token away
      have kept := losing shown
      simp only [Call.losesStats, Bool.not_eq_true', Bool.and_eq_false_iff, beq_eq_false_iff_ne]
      exact not_and_or.mp kept
    · have logged : next.log =
          [.setGameState caller s.currentState target s.timer s.gestureState] ++ s.log := log
      refine lifetimes.stayIdle logged ?_ token ⟨playing, shown⟩ away
      exact List.forall_mem_singleton.mpr (silent_of_idle ⟨playing, shown⟩)
  cases target with
  | game => exact absurd rfl away.1
  | statistics => exact absurd rfl away.2
  | menu | timers | instructions => exact entered _ rfl rfl rfl
  | highscores =>
      have opened := entered { s.core with
        currentState := .highscores
        log := .setGameState caller s.currentState .highscores s.timer s.gestureState :: s.log }
        rfl rfl rfl
      have logged : ∀ older : List Call, Call.loadHighScores :: older = [.loadHighScores] ++ older :=
        fun _ => rfl
      exact opened.silent (logged _) (List.forall_mem_singleton.mpr ⟨rfl, rfl, rfl, rfl⟩) rfl rfl rfl

/-- The time of a game is up. -/
theorem timeUp_lifetimes {s : State} (ledger : GameLedger s.core) (lifetimes : Lifetimes s.core)
    (env : Env) (playing : s.currentState = .game) :
    Outcome (fun s => Lifetimes s.core) (fun _ => True)
      (setGameState env .updateTimer .statistics s) := by
  obtain ⟨testToken, statsToken, game, holds⟩ := ledger.live.game playing
  rw [setGameState_statistics env .updateTimer holds.test holds.stats (ledger.timed playing holds)]
  have scored : ∀ (call : Call) (older : List Call), call :: older = [call] ++ older :=
    fun _ _ => rfl
  refine Lifetimes.extend ?_ (scored _ _) (List.forall_mem_singleton.mpr ⟨rfl, rfl, rfl, rfl⟩)
  exact lifetimes.finish playing holds (by rw [← playing]; rfl) rfl rfl rfl

/-- Every step keeps the owners; the ledger of the games says that the objects it uses are live. -/
theorem step_lifetimes {loaded : LoadedSprites} {s : State} {outcome : Except Fault State}
    (ledger : GameLedger s.core) (lifetimes : Lifetimes s.core) (step : Step loaded s outcome) :
    Outcome (fun s => Lifetimes s.core) (fun _ => True) outcome := by
  have edits : ∀ {outcome : Except Fault State} {testToken statsToken : Nat} {game : Game}
      {change : Edit}, s.currentState = .game → s.core.Holds testToken statsToken game →
      Applies s.core testToken statsToken (edit loaded change game) outcome →
      Outcome (fun s => Lifetimes s.core) (fun _ => True) outcome := by
    intro outcome testToken statsToken game change playing holds applied
    rcases applies_iff.mp applied with ⟨edited, next, -, rfl, core⟩ | ⟨fault, -, rfl⟩
    · change Lifetimes next.core
      rw [core]
      exact lifetimes.goOn playing holds playing ⟨rfl, rfl⟩ (List.nil_append _).symm (by simp) rfl
    · trivial
  cases step with
  | space env playing holds applied => exact edits playing holds applied
  | action action =>
      cases action with
      | dead dead => exact absurd ledger.live dead
      | @frame next same =>
          change Lifetimes next.core
          rw [same]
          exact lifetimes
      | edit change stays playing holds applied => exact edits playing holds applied
      | @gesture next pp gesture xGesture playing moved core =>
          obtain ⟨testToken, statsToken, game, holds⟩ := ledger.live.game playing
          change Lifetimes next.core
          rw [core]
          have logged : (s.core.gestured pp gesture xGesture).log =
              [.checkGesture pp false s.stars] ++ s.log := rfl
          exact lifetimes.goOn playing holds playing ⟨holds.test, holds.stats⟩ logged
            (List.forall_mem_singleton.mpr ⟨rfl, rfl, rfl, rfl⟩) rfl
      | @fill next testToken statsToken game filled pp playing full holds filling core =>
          change Lifetimes next.core
          rw [core]
          have logged : (s.core.filled pp testToken statsToken filled).log =
              [.checkGesture pp true (s.stars - 1)] ++ s.log := rfl
          exact lifetimes.goOn playing holds playing ⟨rfl, rfl⟩ logged
            (List.forall_mem_singleton.mpr ⟨rfl, rfl, rfl, rfl⟩) rfl
      | enter env shown =>
          exact screen_lifetimes ledger lifetimes env .keyHandler (by simp) (by simp)
      | escape env shown =>
          exact screen_lifetimes ledger lifetimes env .keyHandler (by simp) (by simp)
      | timeUp env playing expired => exact timeUp_lifetimes ledger lifetimes env playing
      | countDown playing running =>
          obtain ⟨testToken, statsToken, game, holds⟩ := ledger.live.game playing
          exact lifetimes.goOn playing holds playing ⟨holds.test, holds.stats⟩
            (List.nil_append _).symm (by simp) rfl
      | packet pp =>
          have logged : (s.record (.parse pp)).core.log = [.parse pp] ++ s.log := rfl
          exact lifetimes.silent logged (List.forall_mem_singleton.mpr ⟨rfl, rfl, rfl, rfl⟩) rfl rfl
            rfl
      | button env target leads =>
          refine screen_lifetimes ledger lifetimes env .checkActions ?_ ?_
          · generalize s.currentState = before at leads
            cases leads with
            | play | instructions | highscores | playAgain | back => decide
          · intro shown
            rw [shown] at leads
            cases leads with
            | playAgain => decide
      | chooseTimer env seconds shown offered =>
          rw [setGameState_game]
          have idle : s.currentState ≠ .game ∧ s.currentState ≠ .statistics := by simp [shown]
          exact lifetimes.start idle idle rfl rfl rfl rfl rfl
      | backToMenu env shown =>
          obtain ⟨token, stats, live⟩ := ledger.live.statistics shown
          rw [backToMenu_eq env live]
          exact lifetimes.freeStats shown live (by rw [← shown]; rfl) rfl rfl

theorem setup_lifetimes (file : List Char) : Lifetimes (setup file).core := by
  have nothing : Owner ([] : List (Event Nat)) 0 none :=
    { disciplined := trivial
      holds := by simp
      count := rfl }
  exact
    { tests := nothing
      stats := nothing
      freshTests := by simp [setup, State.core, testEvents, Call.testEvent]
      freshStats := by simp [setup, State.core, statsEvents, Call.statsEvent] }

/-- Every run keeps the owners. -/
theorem run_lifetimes (loaded : LoadedSprites) (file : List Char) (messages : List Notification) :
    Outcome (fun s => GameLedger s.core ∧ Lifetimes s.core) OnlyOutOfBounds
      (run loaded file messages) := by
  refine (run_chain loaded file messages).keeps ?_ ⟨setup_ledger file, setup_lifetimes file⟩
  rintro s outcome ⟨ledger, lifetimes⟩ step
  refine Outcome.and ?_ (step_lifetimes ledger lifetimes step)
  apply (step_ledger s outcome ledger step).mono fun _ kept => kept
  rintro fault ⟨-, change, _, _, game, -, failed⟩
  exact edit_error failed

/-- No run uses a dead object: a game has a live test and live statistics, the statistics screen has
live statistics, and an object is live when it is freed. -/
theorem objects_used_while_live (loaded : LoadedSprites) (file : List Char)
    (messages : List Notification) :
    run loaded file messages ≠ .error .deadPointer ∧
      ∀ s, run loaded file messages = .ok s →
        (s.currentState = .game →
          (∃ token test, s.test = .live token test) ∧ ∃ token stats, s.stats = .live token stats) ∧
        (s.currentState = .statistics → ∃ token stats, s.stats = .live token stats) ∧
        (∀ token earlier, .free token :: earlier <:+ testEvents s.log → token ∈ live earlier) ∧
        ∀ token earlier, .free token :: earlier <:+ statsEvents s.log → token ∈ live earlier := by
  have kept := run_lifetimes loaded file messages
  constructor
  · intro dead
    rw [dead] at kept
    cases kept
  · intro s ran
    rw [ran] at kept
    obtain ⟨ledger, lifetimes⟩ := kept
    refine ⟨fun playing => ?_, ledger.live.statistics, ?_, ?_⟩
    · obtain ⟨testToken, statsToken, game, holds⟩ := ledger.live.game playing
      exact ⟨⟨testToken, game.test, holds.test⟩, statsToken, game.stats, holds.stats⟩
    · intro token earlier freed
      exact lifetimes.tests.disciplined.mem_live_of_free freed
    · intro token earlier freed
      exact lifetimes.stats.disciplined.mem_live_of_free freed

/-! ### Releasing everything -/

/-- `initialize_sprites` leaves the sprites that could be loaded, and goes through if and only if the
pointers that it goes on to use are among them. -/
theorem foldlM_createSprite_iff {loaded : SpriteName → Bool} {calls : List (SpriteName × Bool)}
    {before created : List SpriteName} :
    calls.foldlM (createSprite loaded) before = .ok created ↔
      created = before ++ (calls.map Prod.fst).filter loaded ∧
        ∀ call ∈ calls, call.2 = true → loaded call.1 = true := by
  induction calls generalizing before with
  | nil =>
      rw [List.foldlM_nil, List.map_nil, List.filter_nil, List.append_nil]
      constructor
      · rintro ⟨⟩
        exact ⟨rfl, fun call member => absurd member List.not_mem_nil⟩
      · rintro ⟨rfl, -⟩
        rfl
  | cons call calls inductionHypothesis =>
      rw [List.foldlM_cons, List.forall_mem_cons, List.map_cons]
      cases found : loaded call.1 with
      | true =>
          have here : createSprite loaded before call = .ok (before ++ [call.1]) := if_pos found
          rw [here, List.filter_cons_of_pos found]
          change List.foldlM _ _ calls = _ ↔ _
          rw [inductionHypothesis]
          simp
      | false =>
          have missing : ¬ loaded call.1 = true := by simp [found]
          rw [createSprite, if_neg missing, List.filter_cons_of_neg missing]
          cases call.2 with
          | true => simp [bind, Except.bind]
          | false =>
              change List.foldlM _ _ calls = _ ↔ _
              rw [inductionHypothesis]
              simp

/-- The sprites that `initialize_sprites` places are among the unchecked ones. -/
theorem initializeSprites_ok (loaded : LoadedSprites) :
    initializeSprites loaded.isLoaded = .ok ((createCalls.map Prod.fst).filter loaded.isLoaded) := by
  refine foldlM_createSprite_iff.mpr ⟨rfl, fun call member placed => loaded.unchecked call.1 ?_⟩
  exact (by decide : ∀ call ∈ createCalls, call.2 = true → call.1 ∈ uncheckedSprites) call member placed

/-- At the end of a run every object has been released once, and never have two tests, or two
statistics, been allocated at a time. -/
structure EverythingReleased (loaded : LoadedSprites) (created : List SpriteName) (log : List Call) :
    Prop where
  sprites : ReleasedOnce (spriteEvents created (destroySprites loaded))
  tests : ReleasedOnce (testEvents log)
  stats : ReleasedOnce (statsEvents log)
  oneTest : OneAtATime (testEvents log)
  oneStats : OneAtATime (statsEvents log)

theorem count_free_spriteEvents (created freed : List SpriteName) (name : SpriteName) :
    (spriteEvents created freed).count (.free name) = freed.count name := by
  rw [spriteEvents, List.count_append, List.count_reverse, List.count_reverse]
  have none : (created.map Event.alloc).count (.free name) = 0 := by
    rw [List.count_eq_zero]
    intro member
    obtain ⟨_, -, same⟩ := List.mem_map.mp member
    cases same
  rw [none, Nat.add_zero]
  exact List.count_map_of_injective freed Event.free (fun _ _ same => Event.free.inj same) name

/-- The sprite of the high-score button is created by every complete run and freed by none. -/
theorem sprites_not_released {loaded : LoadedSprites} {created : List SpriteName}
    (initialized : initializeSprites loaded.isLoaded = .ok created) :
    ¬ ReleasedOnce (spriteEvents created (destroySprites loaded)) := by
  intro released
  obtain ⟨rfl, -⟩ := foldlM_createSprite_iff.mp initialized
  have found : loaded .highscores = true := loaded.unchecked .highscores (by decide)
  have listed : .highscores ∈ (createCalls.map Prod.fst).filter loaded.isLoaded :=
    List.mem_filter.mpr ⟨by decide, found⟩
  have allocated : .alloc .highscores ∈
      spriteEvents ([] ++ (createCalls.map Prod.fst).filter loaded.isLoaded)
        (destroySprites loaded) := by
    simpa [spriteEvents] using listed
  have once := released .highscores allocated
  rw [count_free_spriteEvents, destroySprites, List.count_filter found] at once
  exact absurd once (by decide)

/-- No complete run releases every object once: the sprite of the high-score button is never freed, and
the digits that are loaded are freed twice.  The tests are all released exactly when every game ran out
its time, and the statistics exactly when every statistics screen was also left by BACK TO MENU. -/
theorem no_run_releases_everything (loaded : LoadedSprites) (file : List Char)
    (messages : List Notification) (created : List SpriteName) (s : State)
    (complete : CompleteRun loaded file messages created s) :
    ¬ EverythingReleased loaded created s.log ∧
      (∀ key ∈ digitKeys, loaded (.glyph key) = true →
        (spriteEvents created (destroySprites loaded)).count (.free (.glyph key)) = 2) ∧
      (ReleasedOnce (testEvents s.log) ↔ ∀ call ∈ s.log, call.losesTest = false) ∧
      (ReleasedOnce (statsEvents s.log) ↔ ∀ call ∈ s.log, call.losesStats = false) := by
  have kept := run_lifetimes loaded file messages
  rw [complete.ran] at kept
  obtain ⟨-, lifetimes⟩ := kept
  have inMenu : s.currentState = .menu := by
    have exited := complete.exited
    rw [exitRequested, Bool.and_eq_true, beq_iff_eq] at exited
    exact exited.1
  have tests := lifetimes.tests
  rw [Core.heldTest_eq_none (by simp [State.core, inMenu])] at tests
  have stats := lifetimes.stats
  rw [Core.heldStats_eq_none (by simp [State.core, inMenu]) (by simp [State.core, inMenu])] at stats
  refine ⟨?_, ?_, ?_, ?_⟩
  · intro released
    exact sprites_not_released complete.initialized released.sprites
  · intro key digit found
    rw [count_free_spriteEvents, destroySprites, List.count_filter found]
    exact (by decide : ∀ key ∈ digitKeys, destroyCalls.count (.glyph key) = 2) key digit
  · rw [show testEvents s.log = testEvents s.core.log from rfl, tests.releasedOnce_iff]
    simp [List.countP_eq_zero, State.core]
  · rw [show statsEvents s.log = statsEvents s.core.log from rfl, stats.releasedOnce_iff]
    simp [List.countP_eq_zero, State.core]

/-- A game of a minute left with ESC, and the program left with ESC. -/
theorem escaped_game_releases_too_little :
    ∃ created s, CompleteRun everySprite [] (intoGame ++ [keyPress keyEsc, keyPress keyEsc]) created s ∧
      ¬ ReleasedOnce (spriteEvents created (destroySprites everySprite)) ∧
      ¬ ReleasedOnce (testEvents s.log) ∧ ¬ ReleasedOnce (statsEvents s.log) := by
  have checked : (run everySprite [] (intoGame ++ [keyPress keyEsc, keyPress keyEsc])).toOption.any
      (fun s => exitRequested s && (testEvents s.log == [.alloc 0]) &&
        (statsEvents s.log == [.alloc 1])) = true := by
    decide +kernel
  obtain ⟨s, ran, final⟩ := exists_ok_of_any checked
  simp only [Bool.and_eq_true, beq_iff_eq] at final
  obtain ⟨⟨exited, tests⟩, stats⟩ := final
  have initialized := initializeSprites_ok everySprite
  refine ⟨_, s, ⟨initialized, ran, exited⟩, sprites_not_released initialized, ?_, ?_⟩
  · intro released
    exact absurd (released 0 (by simp [tests])) (by simp [tests])
  · intro released
    exact absurd (released 1 (by simp [stats])) (by simp [stats])

/-- The shortest complete run: ESC in the menu. -/
theorem escape_releases_too_little :
    ∃ created s, CompleteRun everySprite [] [keyPress keyEsc] created s ∧
      ¬ EverythingReleased everySprite created s.log := by
  have checked : (run everySprite [] [keyPress keyEsc]).toOption.any exitRequested = true := by
    decide +kernel
  obtain ⟨s, ran, exited⟩ := exists_ok_of_any checked
  have complete : CompleteRun everySprite [] [keyPress keyEsc] _ s :=
    ⟨initializeSprites_ok everySprite, ran, exited⟩
  exact ⟨_, s, complete, (no_run_releases_everything everySprite [] _ _ s complete).1⟩

end TypingTutor
