/-
Module: TypingTutor.Proofs.Edits
Layer: Proofs
Purpose: A game as an editor.  The handlers that touch the typing test are edits of the pair of test
  and statistics; each handler, run on live objects, performs its edit and leaves the rest of the core
  state alone.
Trusted boundary: none
Main exports: Core, Game, Edit, edit, Applies, processKey_applies, handleSpaceKey_applies,
  handleDeleteKey_applies, fillCurrentWord_applies
-/
import TypingTutor.Core.Program
import TypingTutor.Lib.Runs
import TypingTutor.Proofs.Layout

namespace TypingTutor

open Runs

/-! ### The core of the state -/

/-- The part of the state that runs are about.  The rest is drawing, animation and driver state. -/
structure Core where
  currentState : GameState
  timer : Int
  gestureState : GestureState
  xGesture : Int
  stars : Int
  test : Ptr TypingTest
  stats : Ptr Statistics
  scores : ScoreStore
  nextToken : Nat
  log : List Call

def State.core (s : State) : Core :=
  { currentState := s.currentState
    timer := s.timer
    gestureState := s.gestureState
    xGesture := s.xGesture
    stars := s.stars
    test := s.test
    stats := s.stats
    scores := s.scores
    nextToken := s.nextToken
    log := s.log }

/-- Test and statistics of the game being played. -/
structure Game where
  test : TypingTest
  stats : Statistics

/-- The core holds this game, behind live pointers. -/
structure Core.Holds (core : Core) (testToken statsToken : Nat) (game : Game) : Prop where
  test : core.test = .live testToken game.test
  stats : core.stats = .live statsToken game.stats

theorem Core.Holds.derefTest {s : State} {testToken statsToken : Nat} {game : Game}
    (holds : s.core.Holds testToken statsToken game) : s.test.deref = .ok game.test := by
  have hasTest : s.test = .live testToken game.test := holds.test
  rw [hasTest, Ptr.deref_live]

theorem Core.Holds.derefStats {s : State} {testToken statsToken : Nat} {game : Game}
    (holds : s.core.Holds testToken statsToken game) : s.stats.deref = .ok game.stats := by
  have hasStats : s.stats = .live statsToken game.stats := holds.stats
  rw [hasStats, Ptr.deref_live]

/-- The core with the objects of the game overwritten in place. -/
def Core.withGame (core : Core) (testToken statsToken : Nat) (game : Game) : Core :=
  { core with
    test := .live testToken game.test
    stats := .live statsToken game.stats }

/-! ### Edits -/

/-- What the handlers do to the game. -/
inductive Edit where
  | letter (c : Char)
  | delete
  | fill
  | space (env : Env)
  | draw

/-- The game after an edit; every edit but drawing reads the current word. -/
def edit (loaded : LoadedSprites) : Edit → Game → Except Fault Game
  | .letter c, game => do
      let word ← game.test.currentWord
      if game.test.currentInputIndex < word.length then
        return {
          test := layout loaded (typeLetter c word game.test game.stats).1
          stats := (typeLetter c word game.test game.stats).2 }
      else return game
  | .delete, game => do
      let _ ← game.test.currentWord
      return { game with test := layout loaded (deleteLetter game.test) }
  | .fill, game => do
      let word ← game.test.currentWord
      return { game with test := layout loaded (fillWord word game.test) }
  | .space env, game => do
      let word ← game.test.currentWord
      return {
        test := layout loaded (advanceWord env (judgeWord word game.test game.stats).1)
        stats := (judgeWord word game.test game.stats).2 }
  | .draw, game => .ok { game with test := layout loaded game.test }

/-- A handler that returns what the edit returns, in place, and faults as the edit does. -/
def Applies (core : Core) (testToken statsToken : Nat) : Except Fault Game → Except Fault State → Prop
  | .ok game, .ok next => next.core = core.withGame testToken statsToken game
  | .error fault, .error otherFault => otherFault = fault
  | _, _ => False

/-- What the two pointers hold after an edit has been applied. -/
theorem applies_iff {core : Core} {testToken statsToken : Nat} {result : Except Fault Game}
    {outcome : Except Fault State} :
    Applies core testToken statsToken result outcome ↔
      (∃ game next, result = .ok game ∧ outcome = .ok next ∧
        next.core = core.withGame testToken statsToken game) ∨
      ∃ fault, result = .error fault ∧ outcome = .error fault := by
  cases result with
  | error fault =>
      cases outcome with
      | error otherFault => simp [Applies, eq_comm]
      | ok next => simp [Applies]
  | ok game =>
      cases outcome with
      | error otherFault => simp [Applies]
      | ok next => simp [Applies]

section Handlers

variable {loaded : LoadedSprites} {s : State} {testToken statsToken : Nat} {game : Game}

/-- Storing counted statistics back, in a state that has the core of `s`. -/
theorem core_storeStats {drawn : State} (same : drawn.core = s.core) (counted : Statistics)
    (holds : s.core.Holds testToken statsToken game) :
    { drawn with stats := drawn.stats.store counted }.core =
      { s.core with stats := .live statsToken counted } := by
  rw [← same] at holds ⊢
  have hasStats : drawn.stats = .live statsToken game.stats := holds.stats
  simp only [State.core, hasStats, Ptr.store_live]

theorem core_unstored (holds : s.core.Holds testToken statsToken game) :
    s.core = { s.core with stats := .live statsToken game.stats } := by
  rw [← holds.stats]

/-- Storing a drawn test back. -/
theorem core_redrawWords {stored : State} {counted : Statistics} (new : TypingTest)
    (kept : stored.core = { s.core with stats := .live statsToken counted })
    (holds : s.core.Holds testToken statsToken game) :
    (redrawWords loaded new stored).core =
      s.core.withGame testToken statsToken { test := layout loaded new, stats := counted } := by
  have hasTest : stored.test = .live testToken game.test :=
    (congrArg Core.test kept).trans holds.test
  have drawn : (redrawWords loaded new stored).core =
      { stored.core with test := .live testToken (layout loaded new) } := by
    simp only [redrawWords, State.core, drawWords_fst, hasTest, Ptr.store_live]
  rw [drawn, kept, Core.withGame]

theorem withGame_self (holds : s.core.Holds testToken statsToken game) :
    s.core.withGame testToken statsToken game = s.core := by
  rw [Core.withGame, ← holds.test, ← holds.stats]

theorem processKey_applies (c : Char) (key : Key) (playing : s.currentState = .game)
    (holds : s.core.Holds testToken statsToken game) :
    Applies s.core testToken statsToken (edit loaded (.letter c) game)
      (processKey loaded c key s) := by
  simp only [processKey, edit, if_pos playing, holds.derefTest]
  cases reading : game.test.currentWord with
  | error fault =>
      simp only [bind, Except.bind, reading]
      exact rfl
  | ok word =>
      -- Erasing the caret only draws.
      generalize erasing : (if game.test.currentInputIndex + 1 = word.length then
        { s with view := deleteCaret s.view } else s) = erased
      have same : erased.core = s.core := by
        rw [← erasing]
        split
        · rfl
        · rfl
      have sameStats : erased.stats.deref = .ok game.stats := by
        have stats : erased.stats = s.stats := congrArg Core.stats same
        rw [stats, holds.derefStats]
      by_cases fits : game.test.currentInputIndex < word.length
      · simp only [bind, Except.bind, reading, erasing, if_pos fits, sameStats]
        exact core_redrawWords _ (core_storeStats same _ holds) holds
      · simp only [bind, Except.bind, reading, erasing, if_neg fits]
        change erased.core = _
        rw [same, withGame_self holds]

theorem handleSpaceKey_applies (env : Env) (holds : s.core.Holds testToken statsToken game) :
    Applies s.core testToken statsToken (edit loaded (.space env) game)
      (handleSpaceKey loaded env s) := by
  simp only [handleSpaceKey, edit, holds.derefTest, holds.derefStats]
  cases reading : game.test.currentWord with
  | error fault =>
      simp only [bind, Except.bind, reading]
      exact rfl
  | ok word =>
      generalize animating : (if isCorrect word then
        { s with happyAnimation := startAnimation s.happyAnimation }
        else { s with madAnimation := startAnimation s.madAnimation }) = animated
      have same : animated.core = s.core := by
        rw [← animating]
        split
        · rfl
        · rfl
      simp only [bind, Except.bind, reading, animating]
      -- A scroll clears the background before the words are drawn.
      refine core_redrawWords _ ?_ holds
      rw [← core_storeStats same _ holds]
      split
      · rfl
      · rfl

theorem handleDeleteKey_applies (holds : s.core.Holds testToken statsToken game) :
    Applies s.core testToken statsToken (edit loaded .delete game) (handleDeleteKey loaded s) := by
  simp only [handleDeleteKey, edit, holds.derefTest]
  cases reading : game.test.currentWord with
  | error fault =>
      simp only [bind, Except.bind, reading]
      exact rfl
  | ok word =>
      simp only [bind, Except.bind, reading]
      exact core_redrawWords _ (core_unstored holds) holds

/-- `fill_current_word` also costs a star. -/
theorem fillCurrentWord_applies (holds : s.core.Holds testToken statsToken game) :
    Applies { s.core with stars := s.stars - 1 } testToken statsToken (edit loaded .fill game)
      (fillCurrentWord loaded s) := by
  simp only [fillCurrentWord, edit, holds.derefTest]
  cases reading : game.test.currentWord with
  | error fault =>
      simp only [bind, Except.bind, reading]
      rfl
  | ok word =>
      simp only [bind, Except.bind, reading]
      exact congrArg (fun core : Core => { core with stars := s.stars - 1 })
        (core_redrawWords _ (core_unstored holds) holds)

/-- `drawWords(test)` as `GameDrawer` calls it. -/
def redrawTest (loaded : LoadedSprites) (s : State) : Except Fault State := do
  let test ← s.test.deref
  return redrawWords loaded test s

theorem redrawTest_applies (holds : s.core.Holds testToken statsToken game) :
    Applies s.core testToken statsToken (edit loaded .draw game) (redrawTest loaded s) := by
  simp only [redrawTest, edit, holds.derefTest, bind, Except.bind]
  exact core_redrawWords _ (core_unstored holds) holds

end Handlers

/-! ### What the edits count -/

theorem typeLetter_currentInputIndex (c : Char) (word : Word) (test : TypingTest)
    (stats : Statistics) :
    (typeLetter c word test stats).1.currentInputIndex = test.currentInputIndex + 1 := by
  simp only [typeLetter]
  split
  · rfl
  · rfl

theorem judgeWord_typedWords (word : Word) (test : TypingTest) (stats : Statistics) :
    (judgeWord word test stats).2.typedWords = stats.typedWords + 1 := by
  simp only [judgeWord]
  split
  · rfl
  · rfl

end TypingTutor
