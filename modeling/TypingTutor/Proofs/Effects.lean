/-
Module: TypingTutor.Proofs.Effects
Layer: Proofs
Purpose: The effect of a successful step on the core state, in six cases: nothing that a game notices,
  an edit of the game, a packet through the gesture automaton, a filled word, the start of a game, and
  a change to a screen without a game.  Invariants of games are checked against these.
Trusted boundary: none
Main exports: Call.Neutral, Effect, action_effect, step_effect, InPlay, effect_inPlay, action_keeps,
  run_keeps
-/
import TypingTutor.Proofs.GameLedger

namespace TypingTutor

open Runs

/-- Calls that neither start a game nor handle a gesture. -/
def Call.Neutral : Call → Prop
  | .setGameState _ _ after _ _ => after ≠ .game
  | .checkGesture _ _ _ => False
  | _ => True

/-- The log has grown by neutral calls. -/
def GrownBy (log next : List Call) : Prop :=
  ∃ calls, next = calls ++ log ∧ ∀ call ∈ calls, call.Neutral

theorem GrownBy.refl (log : List Call) : GrownBy log log := ⟨[], rfl, by simp⟩

theorem GrownBy.cons {log middle : List Call} {call : Call} (grown : GrownBy log middle)
    (neutral : call.Neutral) : GrownBy log (call :: middle) := by
  obtain ⟨calls, rfl, neutrals⟩ := grown
  exact ⟨call :: calls, rfl, List.forall_mem_cons.mpr ⟨neutral, neutrals⟩⟩

/-- What a successful step makes of the core, when it makes permitted edits only. -/
inductive Effect (loaded : LoadedSprites) (Permitted : Edit → Prop) (core : Core) : Core → Prop where
  | quiet {next : Core} (screen : next.currentState = core.currentState)
      (test : next.test = core.test) (stats : next.stats = core.stats)
      (gesture : next.gestureState = core.gestureState) (xGesture : next.xGesture = core.xGesture)
      (stars : next.stars = core.stars) (log : GrownBy core.log next.log) :
      Effect loaded Permitted core next
  | edit {testToken statsToken : Nat} {game edited : Game} (change : Edit)
      (permitted : Permitted change) (playing : core.currentState = .game)
      (holds : core.Holds testToken statsToken game)
      (done : TypingTutor.edit loaded change game = .ok edited) :
      Effect loaded Permitted core (core.withGame testToken statsToken edited)
  | gesture (pp : Packet) (gesture : GestureState) (xGesture : Int)
      (playing : core.currentState = .game)
      (moved : gestureStep core.stars core.gestureState core.xGesture pp = some (gesture, xGesture)) :
      Effect loaded Permitted core (core.gestured pp gesture xGesture)
  | fill {testToken statsToken : Nat} {game filled : Game} (pp : Packet)
      (playing : core.currentState = .game)
      (full : gestureStep core.stars core.gestureState core.xGesture pp = none)
      (holds : core.Holds testToken statsToken game)
      (filling : TypingTutor.edit loaded .fill game = .ok filled) :
      Effect loaded Permitted core (core.filled pp testToken statsToken filled)
  | start {next : Core} {testToken statsToken : Nat} (env : Env) (seconds : Int)
      (screen : next.currentState = .game)
      (holds : next.Holds testToken statsToken
        { test := freshTest env, stats := initializeStats seconds })
      (gesture : next.gestureState = core.gestureState) (xGesture : next.xGesture = core.xGesture)
      (stars : next.stars = 3)
      (log : next.log = .initializeStats statsToken seconds :: .initializeTest testToken ::
        .setGameState .checkActions core.currentState .game seconds core.gestureState :: core.log) :
      Effect loaded Permitted core next
  | leave {next : Core} (screen : next.currentState ≠ .game)
      (gesture : next.gestureState = core.gestureState) (xGesture : next.xGesture = core.xGesture)
      (log : GrownBy core.log next.log) : Effect loaded Permitted core next

section Cases

variable {loaded : LoadedSprites} {Permitted : Edit → Prop} {s next : State}

/-- A screen change away from games. -/
theorem setGameState_effect {env : Env} {caller : Caller} {target : GameState}
    (noGame : target ≠ .game) (changed : setGameState env caller target s = .ok next) :
    Effect loaded Permitted s.core next.core := by
  have entered : GrownBy s.log
      (.setGameState caller s.currentState target s.timer s.gestureState :: s.log) :=
    (GrownBy.refl s.log).cons noGame
  cases target with
  | game => exact absurd rfl noGame
  | menu | timers | instructions =>
      cases changed
      exact .leave (by simp [State.core]) rfl rfl entered
  | highscores =>
      cases changed
      exact .leave (by simp [State.core]) rfl rfl (entered.cons trivial)
  | statistics =>
      obtain ⟨testToken, token, stats, rfl⟩ := setGameState_statistics_inv changed
      refine .leave (by simp [gameFinished, State.core]) rfl rfl (.cons (.cons entered ?_) ?_)
      · trivial
      · trivial

/-- One edit that went through. -/
theorem applied_effect {testToken statsToken : Nat} {game : Game} {change : Edit}
    (permitted : Permitted change) (playing : s.currentState = .game)
    (holds : s.core.Holds testToken statsToken game)
    (applied : Applies s.core testToken statsToken (edit loaded change game) (.ok next)) :
    Effect loaded Permitted s.core next.core := by
  rcases applies_iff.mp applied with ⟨edited, same, done, returned, core⟩ | ⟨fault, -, impossible⟩
  · cases returned
    rw [core]
    exact .edit change permitted playing holds done
  · cases impossible

/-- The edit stays on the current word. -/
def Edit.Stays (change : Edit) : Prop := ∀ env, change ≠ .space env

theorem action_effect (live : s.core.Live) (action : Action loaded s (.ok next)) :
    Effect loaded Edit.Stays s.core next.core := by
  generalize result : (Except.ok next : Except Fault State) = outcome at action
  cases action with
  | dead dead => exact absurd live dead
  | frame same =>
      cases result
      rw [same]
      exact .quiet rfl rfl rfl rfl rfl rfl (.refl _)
  | edit change stays playing holds applied =>
      subst result
      exact applied_effect stays playing holds applied
  | gesture pp gesture xGesture playing moved core =>
      cases result
      rw [core]
      exact .gesture pp gesture xGesture playing moved
  | fill pp playing full holds filling core =>
      cases result
      rw [core]
      exact .fill pp playing full holds filling
  | enter env shown => exact setGameState_effect (by simp) result.symm
  | escape env shown => exact setGameState_effect (by simp) result.symm
  | timeUp env playing expired => exact setGameState_effect (by simp) result.symm
  | countDown playing running =>
      cases result
      exact .quiet rfl rfl rfl rfl rfl rfl (.refl _)
  | packet pp =>
      cases result
      exact .quiet rfl rfl rfl rfl rfl rfl ((GrownBy.refl _).cons trivial)
  | button env target leads =>
      have noGame : target ≠ .game := by
        generalize s.currentState = before at leads
        cases leads with
        | play | instructions | highscores | playAgain | back => decide
      exact setGameState_effect noGame result.symm
  | chooseTimer env seconds shown offered =>
      rw [setGameState_game] at result
      cases result
      exact .start env seconds rfl ⟨rfl, rfl⟩ rfl rfl rfl rfl
  | backToMenu env shown =>
      obtain ⟨middle, changed, freed⟩ := bind_eq_ok.mp result.symm
      cases changed
      simp only [destroyStats, bind_eq_ok] at freed
      obtain ⟨stats, -, returned⟩ := freed
      cases returned
      have entered : GrownBy s.log
          (.setGameState .checkActions s.currentState .menu s.timer s.gestureState :: s.log) :=
        (GrownBy.refl s.log).cons (by simp [Call.Neutral])
      exact .leave (by simp [State.core]) rfl rfl (entered.cons trivial)

theorem Effect.mono {Permitted' : Edit → Prop} {core after : Core}
    (wider : ∀ change, Permitted change → Permitted' change)
    (effect : Effect loaded Permitted core after) : Effect loaded Permitted' core after := by
  cases effect with
  | quiet screen test stats gesture xGesture stars log =>
      exact .quiet screen test stats gesture xGesture stars log
  | edit change permitted playing holds done =>
      exact .edit change (wider change permitted) playing holds done
  | gesture pp gesture xGesture playing moved => exact .gesture pp gesture xGesture playing moved
  | fill pp playing full holds filling => exact .fill pp playing full holds filling
  | start env seconds screen holds gesture xGesture stars log =>
      exact .start env seconds screen holds gesture xGesture stars log
  | leave screen gesture xGesture log => exact .leave screen gesture xGesture log

theorem step_effect (live : s.core.Live) (step : Step loaded s (.ok next)) :
    Effect loaded (fun _ => True) s.core next.core := by
  generalize result : (Except.ok next : Except Fault State) = outcome at step
  cases step with
  | space env playing holds applied =>
      subst result
      exact applied_effect trivial playing holds applied
  | action action =>
      subst result
      exact (action_effect live action).mono fun _ _ => trivial

end Cases

/-! ### Invariants of the game in play -/

/-- A property of the game, whenever one is being played. -/
def InPlay (Invariant : Game → Prop) (core : Core) : Prop :=
  core.currentState = .game → ∃ testToken statsToken game,
    core.Holds testToken statsToken game ∧ Invariant game

theorem InPlay.of_holds {Invariant : Game → Prop} {core : Core} (inPlay : InPlay Invariant core)
    (playing : core.currentState = .game) {testToken statsToken : Nat} {game : Game}
    (holds : core.Holds testToken statsToken game) : Invariant game := by
  obtain ⟨_, _, other, otherHolds, invariant⟩ := inPlay playing
  have tests := holds.test.symm.trans otherHolds.test
  have stats := holds.stats.symm.trans otherHolds.stats
  simp only [Ptr.live.injEq] at tests stats
  have same : game = other := by
    obtain ⟨test, counted⟩ := game
    obtain ⟨otherTest, otherStats⟩ := other
    rw [Game.mk.injEq]
    exact ⟨tests.2, stats.2⟩
  rw [same]
  exact invariant

/-- What holds when a game starts and survives every permitted edit holds while a game is played. -/
theorem effect_inPlay {loaded : LoadedSprites} {Permitted : Edit → Prop} {Invariant : Game → Prop}
    (fresh : ∀ env seconds, Invariant { test := freshTest env, stats := initializeStats seconds })
    (edits : ∀ change game edited, Permitted change → Invariant game →
      edit loaded change game = .ok edited → Invariant edited)
    (fillPermitted : Permitted .fill) (core next : Core) (_live : core.Live)
    (inPlay : InPlay Invariant core) (effect : Effect loaded Permitted core next) :
    InPlay Invariant next := by
  cases effect with
  | quiet screen test stats gesture xGesture stars log =>
      intro playing
      obtain ⟨testToken, statsToken, game, holds, invariant⟩ := inPlay (screen ▸ playing)
      exact ⟨testToken, statsToken, game, ⟨test.trans holds.test, stats.trans holds.stats⟩, invariant⟩
  | @edit testToken statsToken game edited change permitted playing holds done =>
      intro _
      exact ⟨testToken, statsToken, edited, ⟨rfl, rfl⟩,
        edits change game edited permitted (inPlay.of_holds playing holds) done⟩
  | gesture pp gesture xGesture playing moved =>
      intro _
      obtain ⟨testToken, statsToken, game, holds, invariant⟩ := inPlay playing
      exact ⟨testToken, statsToken, game, ⟨holds.test, holds.stats⟩, invariant⟩
  | @fill testToken statsToken game filled pp playing full holds filling =>
      intro _
      exact ⟨testToken, statsToken, filled, ⟨rfl, rfl⟩,
        edits .fill game filled fillPermitted (inPlay.of_holds playing holds) filling⟩
  | start env seconds screen holds gesture xGesture stars log =>
      intro _
      exact ⟨_, _, _, holds, fresh env seconds⟩
  | leave screen gesture xGesture log =>
      intro playing
      exact absurd playing screen

/-- The invariant rule for actions: the ledger is kept along with whatever survives the effects of an
action, and only an edit can fail. -/
theorem action_keeps {loaded : LoadedSprites} {Invariant : Core → Prop}
    (preserved : ∀ core next, core.Live → Invariant core →
      Effect loaded Edit.Stays core next → Invariant next)
    {s : State} {outcome : Except Fault State} (ledger : GameLedger s.core)
    (held : Invariant s.core) (action : Action loaded s outcome) :
    Outcome (fun s => GameLedger s.core ∧ Invariant s.core) (EditFault loaded s.core) outcome := by
  have kept := step_ledger s outcome ledger (.action action)
  cases outcome with
  | error fault => exact kept
  | ok next => exact ⟨kept, preserved _ _ ledger.live held (action_effect ledger.live action)⟩

/-- The invariant rule for runs: what holds after `setup()` and survives every effect holds in every
state reached. -/
theorem run_keeps {loaded : LoadedSprites} {Invariant : Core → Prop}
    (preserved : ∀ core next, core.Live → Invariant core →
      Effect loaded (fun _ => True) core next → Invariant next)
    {file : List Char} (initially : Invariant (setup file).core) {messages : List Notification}
    {s : State} (ran : run loaded file messages = .ok s) : Invariant s.core := by
  have kept : Outcome (fun s => GameLedger s.core ∧ Invariant s.core) (fun _ => True)
      (run loaded file messages) := by
    refine (run_chain loaded file messages).keeps ?_ ⟨setup_ledger file, initially⟩
    intro state outcome held step
    have ledger := step_ledger state outcome held.1 step
    cases outcome with
    | error fault => trivial
    | ok next => exact ⟨ledger, preserved _ _ held.1.live held.2 (step_effect held.1.live step)⟩
  rw [ran] at kept
  exact kept.2

end TypingTutor
