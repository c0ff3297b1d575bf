/-
Module: TypingTutor.Proofs.Swipes
Layer: Proofs
Purpose: The swipes of one game.  The automaton and its accumulator are globals that survive from game
  to game.  In every run whose games all start with the automaton at rest, a word is filled only after
  a swipe made in that game, and every fill costs one of its three stars.
Trusted boundary: none
Main exports: gesturesOfGame, EndsWithSwipe, StartsAtRest, SwipeInvariant, fills_follow_swipes,
  swipe_left_over_from_last_game
-/
import TypingTutor.Proofs.Effects

namespace TypingTutor

open Runs

/-! ### The history of a game -/

/-- The packets that `checkGesture` has handled since the current game was started, newest first, each
with whether it filled the word. -/
def gesturesOfGame : List Call → List (Packet × Bool)
  | [] => []
  | .setGameState _ _ .game _ _ :: _ => []
  | .checkGesture pp filled _ :: earlier => (pp, filled) :: gesturesOfGame earlier
  | _ :: earlier => gesturesOfGame earlier

/-- The distance of a packet to the right. -/
def rightward (gesture : Packet × Bool) : Int := max gesture.1.deltaX 0

/-- The history ends with a block of packets, all with the left button pressed, whose movements to the
right after the block's first packet sum to more than 400; only the last packet of the block filled a
word. -/
def EndsWithSwipe (history : List (Packet × Bool)) : Prop :=
  ∃ block older, history = block ++ older ∧ (∀ gesture ∈ block, gesture.1.lb = true) ∧
    400 < (block.dropLast.map rightward).sum ∧ ∀ gesture ∈ block.tail, gesture.2 = false

/-- The number of fills in a history. -/
def fills (history : List (Packet × Bool)) : Nat := history.countP (·.2)

/-- Every game of the log was started with the gesture automaton at rest. -/
def StartsAtRest (log : List Call) : Prop :=
  ∀ caller before timer gesture,
    .setGameState caller before .game timer gesture ∈ log → gesture = .zero

/-- Every fill of the log was earned by a swipe of its game and left three stars less the fills. -/
def FillsEarned (log : List Call) : Prop :=
  ∀ pp stars earlier, .checkGesture pp true stars :: earlier <:+ log →
    EndsWithSwipe (gesturesOfGame (.checkGesture pp true stars :: earlier)) ∧
      fills (gesturesOfGame (.checkGesture pp true stars :: earlier)) ≤ 3 ∧
      (fills (gesturesOfGame (.checkGesture pp true stars :: earlier)) : Int) = 3 - stars

/-! ### The log -/

theorem gesturesOfGame_cons {call : Call} (neutral : call.Neutral) (log : List Call) :
    gesturesOfGame (call :: log) = gesturesOfGame log := by
  cases call with
  | setGameState caller before after timer gesture =>
      cases after with
      | game => exact absurd rfl neutral
      | menu | instructions | statistics | timers | highscores => simp [gesturesOfGame]
  | checkGesture pp filled stars => exact neutral.elim
  | initializeTest | initializeStats | destroyTest | destroyStats | updateHighScores
  | loadHighScores | parse => rfl

theorem gesturesOfGame_grown {log next : List Call} (grown : GrownBy log next) :
    gesturesOfGame next = gesturesOfGame log := by
  obtain ⟨calls, rfl, neutral⟩ := grown
  induction calls with
  | nil => rfl
  | cons call calls inductionHypothesis =>
      obtain ⟨here, later⟩ := List.forall_mem_cons.mp neutral
      rw [List.cons_append, gesturesOfGame_cons here, inductionHypothesis later]

theorem StartsAtRest.of_cons {call : Call} {log : List Call} (clean : StartsAtRest (call :: log)) :
    StartsAtRest log :=
  fun caller before timer gesture member =>
    clean caller before timer gesture (List.mem_cons_of_mem _ member)

theorem StartsAtRest.of_grown {log next : List Call} (grown : GrownBy log next)
    (clean : StartsAtRest next) : StartsAtRest log := by
  obtain ⟨calls, rfl, -⟩ := grown
  exact fun caller before timer gesture member =>
    clean caller before timer gesture (List.mem_append_right _ member)

/-- A call that is no fill adds nothing to earn. -/
theorem FillsEarned.cons {call : Call} {log : List Call} (earned : FillsEarned log)
    (noFill : ∀ pp stars, call ≠ .checkGesture pp true stars) : FillsEarned (call :: log) := by
  intro pp stars earlier suffix
  rcases List.suffix_cons_iff.mp suffix with whole | inside
  · rw [List.cons.injEq] at whole
    exact absurd whole.1.symm (noFill pp stars)
  · exact earned pp stars earlier inside

/-- A fill that was earned. -/
theorem FillsEarned.consFill {pp : Packet} {stars : Int} {log : List Call} (earned : FillsEarned log)
    (swiped : EndsWithSwipe ((pp, true) :: gesturesOfGame log))
    (few : fills ((pp, true) :: gesturesOfGame log) ≤ 3)
    (counted : (fills ((pp, true) :: gesturesOfGame log) : Int) = 3 - stars) :
    FillsEarned (.checkGesture pp true stars :: log) := by
  intro pp' stars' earlier suffix
  rcases List.suffix_cons_iff.mp suffix with whole | inside
  · cases whole
    exact ⟨swiped, few, counted⟩
  · exact earned pp' stars' earlier inside

theorem FillsEarned.grown {log next : List Call} (earned : FillsEarned log)
    (grown : GrownBy log next) : FillsEarned next := by
  obtain ⟨calls, rfl, neutral⟩ := grown
  induction calls with
  | nil => exact earned
  | cons call calls inductionHypothesis =>
      obtain ⟨here, later⟩ := List.forall_mem_cons.mp neutral
      refine (inductionHypothesis later).cons ?_
      rintro pp stars rfl
      exact here

/-! ### The invariant -/

/-- The automaton and the stars agree with the history of the game being played. -/
structure Swiping (core : Core) : Prop where
  swipe : core.gestureState = .lb → core.stars ≠ 0 ∧
    ∃ block older, gesturesOfGame core.log = block ++ older ∧ block ≠ [] ∧
      (∀ gesture ∈ block, gesture.1.lb = true ∧ gesture.2 = false) ∧
      core.xGesture = (block.dropLast.map rightward).sum
  stars : (fills (gesturesOfGame core.log) : Int) = 3 - core.stars
  unspent : 0 ≤ core.stars

structure SwipeInvariant (core : Core) : Prop where
  rest : core.gestureState = .zero → core.xGesture = 0
  game : StartsAtRest core.log → core.currentState = .game → Swiping core
  earned : StartsAtRest core.log → FillsEarned core.log

theorem sweep_eq (xGesture : Int) (pp : Packet) (filled : Bool) :
    sweep xGesture pp = rightward (pp, filled) + xGesture := by
  have distance : rightward (pp, filled) = max pp.deltaX 0 := rfl
  rw [distance, sweep]
  split
  · omega
  · omega

/-- The automaton at rest has swept nothing. -/
theorem gestureStep_rest {stars xGesture moved : Int} {gesture : GestureState} {pp : Packet}
    (rest : gesture = .zero → xGesture = 0)
    (stepped : gestureStep stars gesture xGesture pp = some (.zero, moved)) : moved = 0 := by
  unfold gestureStep at stepped
  by_cases spent : stars = 0
  · rw [if_pos spent, Option.some.injEq, Prod.mk.injEq] at stepped
    exact stepped.2.symm.trans (rest stepped.1)
  rw [if_neg spent] at stepped
  cases gesture with
  | zero =>
      simp only [Option.some.injEq, Prod.mk.injEq] at stepped
      exact stepped.2.symm.trans (rest rfl)
  | lb =>
      simp only at stepped
      split_ifs at stepped with released long
      · exact (Prod.mk.inj (Option.some.inj stepped)).2.symm
      · cases stepped

/-- A packet that does not fill the word. -/
theorem swiping_gestured {core : Core} {pp : Packet} {gesture : GestureState} {xGesture : Int}
    (rest : core.gestureState = .zero → core.xGesture = 0) (swiping : Swiping core)
    (moved : gestureStep core.stars core.gestureState core.xGesture pp = some (gesture, xGesture)) :
    Swiping (core.gestured pp gesture xGesture) := by
  have history : gesturesOfGame (core.gestured pp gesture xGesture).log =
      (pp, false) :: gesturesOfGame core.log := rfl
  have counted : (fills (gesturesOfGame (core.gestured pp gesture xGesture).log) : Int) =
      3 - core.stars := by
    rw [history, fills, List.countP_cons_of_neg (by simp)]
    exact swiping.stars
  unfold gestureStep at moved
  by_cases spent : core.stars = 0
  · rw [if_pos spent] at moved
    cases moved
    refine ⟨fun pressed => ?_, counted, swiping.unspent⟩
    exact absurd spent (swiping.swipe pressed).1
  rw [if_neg spent] at moved
  cases automaton : core.gestureState with
  | zero =>
      simp only [automaton, Option.some.injEq, Prod.mk.injEq] at moved
      obtain ⟨rfl, rfl⟩ := moved
      refine ⟨fun pressed => ⟨spent, ?_⟩, counted, swiping.unspent⟩
      -- A swipe begins: the block is this packet, and nothing has been swept yet.
      have held : pp.lb = true := by
        by_contra released
        simp [Core.gestured, released] at pressed
      refine ⟨[(pp, false)], gesturesOfGame core.log, history, by simp, by simp [held], ?_⟩
      exact rest automaton
  | lb =>
      obtain ⟨unspent, block, older, shape, nonempty, pressedBlock, swept⟩ := swiping.swipe automaton
      simp only [automaton] at moved
      split_ifs at moved with released long
      · cases moved
        exact ⟨fun pressed => (by simp [Core.gestured] at pressed), counted, swiping.unspent⟩
      · cases moved
        refine ⟨fun _ => ⟨spent, ?_⟩, counted, swiping.unspent⟩
        refine ⟨(pp, false) :: block, older, ?_, by simp, ?_, ?_⟩
        · rw [history, shape, List.cons_append]
        · exact List.forall_mem_cons.mpr ⟨⟨by simpa using released, rfl⟩, pressedBlock⟩
        · rw [List.dropLast_cons_of_ne_nil nonempty, List.map_cons, List.sum_cons, ← swept]
          exact sweep_eq core.xGesture pp false

/-- A packet that fills the word. -/
theorem swiping_filled {core : Core} {pp : Packet} {testToken statsToken : Nat} {filled : Game}
    (swiping : Swiping core)
    (full : gestureStep core.stars core.gestureState core.xGesture pp = none) :
    Swiping (core.filled pp testToken statsToken filled) ∧
      EndsWithSwipe ((pp, true) :: gesturesOfGame core.log) := by
  have history : gesturesOfGame (core.filled pp testToken statsToken filled).log =
      (pp, true) :: gesturesOfGame core.log := rfl
  unfold gestureStep at full
  split at full
  · cases full
  rename_i unspent
  cases automaton : core.gestureState with
  | zero => simp [automaton] at full
  | lb =>
      obtain ⟨-, block, older, shape, nonempty, pressedBlock, swept⟩ := swiping.swipe automaton
      simp only [automaton] at full
      split_ifs at full with released long
      have held : pp.lb = true := by simpa using released
      constructor
      · refine ⟨fun pressed => by simp [Core.filled] at pressed, ?_, ?_⟩
        · have counted := swiping.stars
          rw [history, fills, List.countP_cons_of_pos (by simp)]
          rw [fills] at counted
          simp only [Core.filled]
          push_cast
          omega
        · have nonnegative := swiping.unspent
          simp only [Core.filled]
          omega
      · refine ⟨(pp, true) :: block, older, by rw [shape, List.cons_append], ?_, ?_, ?_⟩
        · exact List.forall_mem_cons.mpr ⟨held, fun gesture member => (pressedBlock gesture member).1⟩
        · rw [List.dropLast_cons_of_ne_nil nonempty, List.map_cons, List.sum_cons, ← swept,
            ← sweep_eq]
          exact long
        · exact fun gesture member => (pressedBlock gesture member).2

theorem effect_swipes {loaded : LoadedSprites} (core next : Core) (_live : core.Live)
    (invariant : SwipeInvariant core) (effect : Effect loaded (fun _ => True) core next) :
    SwipeInvariant next := by
  cases effect with
  | quiet screen test stats gesture xGesture stars log =>
      have history := gesturesOfGame_grown log
      refine ⟨?_, fun clean playing => ?_, fun clean => ?_⟩
      · rw [gesture, xGesture]
        exact invariant.rest
      · have swiping := invariant.game (clean.of_grown log) (screen ▸ playing)
        refine ⟨?_, ?_, ?_⟩
        · rw [gesture, xGesture, stars, history]
          exact swiping.swipe
        · rw [stars, history]
          exact swiping.stars
        · rw [stars]
          exact swiping.unspent
      · exact (invariant.earned (clean.of_grown log)).grown log
  | edit change _ playing holds done =>
      refine ⟨invariant.rest, fun clean _ => ?_, invariant.earned⟩
      have swiping := invariant.game clean playing
      exact ⟨swiping.swipe, swiping.stars, swiping.unspent⟩
  | gesture pp gesture xGesture playing moved =>
      refine ⟨?_, fun clean _ => ?_, fun clean => ?_⟩
      · intro atRest
        change gesture = .zero at atRest
        subst atRest
        exact gestureStep_rest invariant.rest moved
      · exact swiping_gestured invariant.rest (invariant.game clean.of_cons playing) moved
      · exact (invariant.earned clean.of_cons).cons (by simp)
  | @fill testToken statsToken game after pp playing full holds filling =>
      have filled := @swiping_filled core pp testToken statsToken after
      refine ⟨fun _ => rfl, fun clean _ => ?_, fun clean => ?_⟩
      · exact (filled (invariant.game clean.of_cons playing) full).1
      · obtain ⟨swiping, swiped⟩ := filled (invariant.game clean.of_cons playing) full
        have counted := swiping.stars
        have unspent := swiping.unspent
        refine (invariant.earned clean.of_cons).consFill swiped ?_ counted
        have nonnegative : 0 ≤ core.stars - 1 := unspent
        change (fills ((pp, true) :: gesturesOfGame core.log) : Int) = 3 - (core.stars - 1) at counted
        omega
  | start env seconds screen holds gesture xGesture stars log =>
      have history : gesturesOfGame next.log = [] := by
        rw [log]
        rfl
      refine ⟨?_, fun clean _ => ?_, fun clean => ?_⟩
      · rw [gesture, xGesture]
        exact invariant.rest
      · -- The game starts with the automaton at rest, so there is no swipe to account for.
        have atRest : core.gestureState = .zero := by
          refine clean .checkActions core.currentState seconds core.gestureState ?_
          rw [log]
          simp
        refine ⟨fun pressed => ?_, by rw [history, stars]; rfl, by rw [stars]; decide⟩
        rw [gesture, atRest] at pressed
        cases pressed
      · rw [log] at clean ⊢
        have earned := invariant.earned clean.of_cons.of_cons.of_cons
        exact ((earned.cons (by simp)).cons (by simp)).cons (by simp)
  | leave screen gesture xGesture log =>
      refine ⟨?_, fun _ playing => absurd playing screen, fun clean => ?_⟩
      · rw [gesture, xGesture]
        exact invariant.rest
      · exact (invariant.earned (clean.of_grown log)).grown log

theorem setup_swipes (file : List Char) : SwipeInvariant (setup file).core := by
  refine ⟨fun _ => rfl, fun _ playing => (by cases playing), fun _ => ?_⟩
  intro pp stars earlier suffix
  have member := suffix.subset List.mem_cons_self
  simp [setup, State.core] at member

/-- In every run whose games all start with the gesture automaton at rest, each call of
`fill_current_word` ends a swipe made in the current game, and the fills since the game started are at
most three and as many as the stars spent. -/
theorem fills_follow_swipes (loaded : LoadedSprites) (file : List Char)
    (messages : List Notification) (s : State) (ran : run loaded file messages = .ok s)
    (atRest : StartsAtRest s.log) : FillsEarned s.log :=
  (run_keeps effect_swipes (setup_swipes file) ran).earned atRest

/-! ### Two runs -/

/-- The call does not start a game in the middle of a swipe. -/
def Call.startsAtRest : Call → Bool
  | .setGameState _ _ .game _ gesture => gesture == .zero
  | _ => true

instance (log : List Call) : Decidable (StartsAtRest log) :=
  decidable_of_iff (log.all Call.startsAtRest = true) (by
    rw [List.all_eq_true]
    constructor
    · intro rested caller before timer gesture member
      exact eq_of_beq (rested _ member)
    · intro rested call member
      unfold Call.startsAtRest
      split
      · exact beq_iff_eq.mpr (rested _ _ _ _ member)
      · rfl)

/-- A swipe in the first game fills its first word. -/
def firstSwipe : List Notification :=
  intoGame ++ mousePacket 0x09 100 0 ++ mousePacket 0x09 250 0 ++ mousePacket 0x09 250 0

theorem first_swipe_earns_fill :
    ∃ s, run everySprite [] firstSwipe = .ok s ∧ StartsAtRest s.log ∧
      fills (gesturesOfGame s.log) = 1 ∧ FillsEarned s.log := by
  have checked : (run everySprite [] firstSwipe).toOption.any (fun s =>
      decide (StartsAtRest s.log ∧ fills (gesturesOfGame s.log) = 1)) = true := by
    decide +kernel
  obtain ⟨s, ran, facts⟩ := exists_ok_of_any checked
  obtain ⟨atRest, one⟩ := of_decide_eq_true facts
  exact ⟨s, ran, atRest, one, fills_follow_swipes everySprite [] firstSwipe s ran atRest⟩

/-- A swipe takes at least two packets. -/
theorem EndsWithSwipe.two_le_length {history : List (Packet × Bool)}
    (swiped : EndsWithSwipe history) : 2 ≤ history.length := by
  obtain ⟨block, older, rfl, -, far, -⟩ := swiped
  cases block with
  | nil => simp at far
  | cons first others =>
      cases others with
      | nil => simp at far
      | cons second rest => simp

/-- A swipe is broken off with ESC, and a new game is started with the button held down. -/
def leftOverSwipe : List Notification :=
  intoGame ++ mousePacket 0x09 200 0 ++ mousePacket 0x09 200 0 ++ mousePacket 0x09 150 0 ++
    [keyPress keyEsc] ++ mousePacket 0x18 56 0 ++ mousePacket 0x18 56 0 ++ mousePacket 0x09 0 0 ++
    mousePacket 0x09 0 0 ++ mousePacket 0x09 100 0

/-- The last call was a packet that filled the word. -/
def justFilled : List Call → Bool
  | .checkGesture _ true _ :: _ => true
  | _ => false

theorem justFilled_iff {log : List Call} :
    justFilled log = true ↔ ∃ pp stars earlier, log = .checkGesture pp true stars :: earlier := by
  constructor
  · intro filled
    unfold justFilled at filled
    split at filled
    · exact ⟨_, _, _, rfl⟩
    · cases filled
  · rintro ⟨pp, stars, earlier, rfl⟩
    rfl

/-- The first packet of the second game fills its word with the distance swept in the first. -/
theorem swipe_left_over_from_last_game :
    ∃ s, run everySprite [] leftOverSwipe = .ok s ∧ ¬ FillsEarned s.log := by
  have checked : (run everySprite [] leftOverSwipe).toOption.any (fun s =>
      justFilled s.log && (gesturesOfGame s.log).length == 1) = true := by
    decide +kernel
  obtain ⟨s, ran, shown⟩ := exists_ok_of_any checked
  rw [Bool.and_eq_true, beq_iff_eq] at shown
  obtain ⟨filled, alone⟩ := shown
  refine ⟨s, ran, fun earned => ?_⟩
  obtain ⟨pp, stars, earlier, log⟩ := justFilled_iff.mp filled
  have swiped := (earned pp stars earlier (by rw [log])).1
  have short := swiped.two_le_length
  rw [← log, alone] at short
  exact absurd short (by decide)

end TypingTutor
