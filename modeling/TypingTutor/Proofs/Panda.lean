/-
Module: TypingTutor.Proofs.Panda
Layer: Proofs
Purpose: The two animations of the panda.  Each is determined by its age in ticks, and a monitor that
  runs beside the program keeps these ages and the verdict on the last word of the game.  The happy
  animation has priority, so a wrong word is not seen while an earlier correct one is still being
  celebrated.
Trusted boundary: none
Main exports: animationAt, DrawsPanda, Verdicts, watch, watch_ages, panda_iff, wrong_word_hidden
-/
import TypingTutor.Proofs.Animation
import TypingTutor.Proofs.HandlerCalls
import TypingTutor.Proofs.WordCursor

namespace TypingTutor

open Runs

/-! ### Animations by age -/

/-- An animation in the middle of a frame. -/
def running (frames : List SpriteName) (frame counter : Nat) : Animation :=
  { initialAnimation frames with
    isActive := true
    currentFrame := frame
    frameCounter := counter }

/-- An animation `age` ticks after its start.  Nine frames of three ticks later it is over. -/
def animationAt (frames : List SpriteName) : Option Nat → Animation
  | none => initialAnimation frames
  | some age => if age < 27 then running frames (age / 3) (age % 3) else initialAnimation frames

/-- The frame that is due at an age. -/
def frameAt (frames : List SpriteName) (age : Nat) : SpriteName := frames.getD (age / 3) .panda0

/-- The panda's animations show nine frames for three ticks each. -/
theorem animationAt_eq (frames : List SpriteName) (age : Option Nat) :
    animationAt frames age = (initialAnimation frames).atAge age := by
  cases age with
  | none => rfl
  | some ticks =>
      have duration : (initialAnimation frames).period = 3 := rfl
      have count : (initialAnimation frames).frameCount.toNat = 9 := rfl
      rw [animationAt, Animation.atAge, duration, count]
      by_cases young : ticks < 27
      · rw [if_pos young, if_pos (by omega)]
        rfl
      · rw [if_neg young, if_neg (by omega)]

theorem startAnimation_at (frames : List SpriteName) (age : Option Nat) :
    startAnimation (animationAt frames age) = animationAt frames (some 0) := by
  rw [animationAt_eq, animationAt_eq]
  exact startAnimation_atAge (initialAnimation_atRest frames) age

/-- A tick makes an animation one tick older. -/
theorem updateAnimation_at (frames : List SpriteName) (age : Option Nat) :
    updateAnimation (animationAt frames age) = animationAt frames (age.map (· + 1)) := by
  rw [animationAt_eq, animationAt_eq]
  exact updateAnimation_atAge (initialAnimation_atRest frames) age

/-- `drawAnimationBoth` hands this frame to `drawSpriteXPM`, whatever has been loaded and drawn. -/
def DrawsPanda (happy mad : Animation) (frame : SpriteName) : Prop :=
  ∀ loaded view, drawAnimationBoth loaded happy mad view =
    (drawSpriteXPM (spritePointer loaded frame) (xResolution - xMargin) (yMargin - panda0Height) none
      false view).1

theorem DrawsPanda.unique {happy mad : Animation} {frame other : SpriteName}
    (draws : DrawsPanda happy mad frame) (drawsOther : DrawsPanda happy mad other) :
    frame = other := by
  have same := (draws everySprite default).symm.trans (drawsOther everySprite default)
  have strokes := congrArg View.secondaryFrameBufferNoMouse same
  simp only [spritePointer, everySprite, if_true, drawSpriteXPM, Bool.false_eq_true,
    if_false] at strokes
  exact (DrawOp.sprite.inj (List.cons.inj strokes).1).1

/-- An animation draws the frame of its age. -/
theorem drawAnimation_at (loaded : LoadedSprites) {frames : List SpriteName} (size : frames.length = 9)
    (age : Nat) (x y : Int) (view : View) :
    drawAnimation loaded (animationAt frames (some age)) x y view =
      (drawSpriteXPM (spritePointer loaded (frameAt frames age)) x y none false view).1 := by
  have nine : ((initialAnimation frames).frames.length : Int) = 9 := congrArg Nat.cast size
  rw [animationAt_eq]
  exact drawAnimation_atAge (initialAnimation_atRest frames) nine loaded age x y view

theorem animationAt_isActive (frames : List SpriteName) (age : Option Nat) :
    (animationAt frames age).isActive = true ↔ ∃ ticks, age = some ticks ∧ ticks < 27 := by
  cases age with
  | none => simp [animationAt, initialAnimation]
  | some ticks =>
      by_cases young : ticks < 27
      · rw [animationAt, if_pos young]
        exact ⟨fun _ => ⟨ticks, rfl, young⟩, fun _ => rfl⟩
      · rw [animationAt, if_neg young]
        simp [initialAnimation, young]

/-- The happy animation comes first. -/
theorem drawsPanda_happy {age : Nat} (young : age < 27) (mad : Animation) :
    DrawsPanda (animationAt happyFrames (some age)) mad (frameAt happyFrames age) := by
  intro loaded view
  have active := (animationAt_isActive happyFrames (some age)).mpr ⟨age, rfl, young⟩
  rw [drawAnimationBoth, if_pos active, drawAnimation_at loaded rfl]

/-- The mad animation is seen when the happy one is over. -/
theorem drawsPanda_mad {age : Nat} (young : age < 27) {joy : Option Nat}
    (finished : ∀ ticks, joy = some ticks → 27 ≤ ticks) :
    DrawsPanda (animationAt happyFrames joy) (animationAt madFrames (some age))
      (frameAt madFrames age) := by
  intro loaded view
  have inactive : ¬ (animationAt happyFrames joy).isActive = true := by
    rw [animationAt_isActive]
    rintro ⟨ticks, started, running⟩
    have old := finished ticks started
    omega
  have active := (animationAt_isActive madFrames (some age)).mpr ⟨age, rfl, young⟩
  rw [drawAnimationBoth, if_neg inactive, if_pos active, drawAnimation_at loaded rfl]

/-- The first and the last frame of both animations show the panda at rest. -/
def Resting (age : Nat) : Prop := age / 3 = 0 ∨ age / 3 = 8

/-- The two animations have only the panda at rest in common. -/
theorem frameAt_eq_iff {joy anger : Nat} (youngJoy : joy < 27) (youngAnger : anger < 27) :
    frameAt happyFrames joy = frameAt madFrames anger ↔ Resting joy ∧ Resting anger := by
  have compared : ∀ i < 9, ∀ j < 9, happyFrames.getD i .panda0 = madFrames.getD j .panda0 ↔
      (i = 0 ∨ i = 8) ∧ (j = 0 ∨ j = 8) := by
    decide
  exact compared (joy / 3) (by omega) (anger / 3) (by omega)

/-- A wrong word is seen unless a celebration that is not at rest covers it. -/
theorem drawsPanda_mad_iff {joy : Option Nat} {anger : Nat} (young : anger < 27) :
    DrawsPanda (animationAt happyFrames joy) (animationAt madFrames (some anger))
        (frameAt madFrames anger) ↔
      ∀ ticks, joy = some ticks → 27 ≤ ticks ∨ Resting ticks ∧ Resting anger := by
  constructor
  · rintro draws ticks rfl
    by_cases old : 27 ≤ ticks
    · exact .inl old
    · have joyful : ticks < 27 := not_le.mp old
      have drawn := drawsPanda_happy joyful (animationAt madFrames (some anger))
      exact .inr ((frameAt_eq_iff joyful young).mp (drawn.unique draws))
  · intro covered
    by_cases celebrating : ∃ ticks, joy = some ticks ∧ ticks < 27
    · obtain ⟨ticks, rfl, joyful⟩ := celebrating
      have resting : Resting ticks ∧ Resting anger := by
        rcases covered ticks rfl with old | resting
        · omega
        · exact resting
      rw [← (frameAt_eq_iff joyful young).mpr resting]
      exact drawsPanda_happy joyful (animationAt madFrames (some anger))
    · apply drawsPanda_mad young
      intro ticks started
      by_contra running
      exact celebrating ⟨ticks, started, not_le.mp running⟩

/-! ### Watching the space key -/

/-- What the player has done, in ticks: the last word of the game with the verdict on it, and the last
correct and the last incorrect word of all games. -/
structure Verdicts where
  last : Option (Bool × Nat)
  correct : Option Nat
  incorrect : Option Nat

namespace Verdicts

/-- No word has been judged. -/
def initial : Verdicts := { last := none, correct := none, incorrect := none }

/-- A timer interrupt. -/
def tick (verdicts : Verdicts) : Verdicts :=
  { last := verdicts.last.map fun word => (word.1, word.2 + 1)
    correct := verdicts.correct.map (· + 1)
    incorrect := verdicts.incorrect.map (· + 1) }

/-- A space press. -/
def judge (verdicts : Verdicts) (correct : Bool) : Verdicts :=
  { last := some (correct, 0)
    correct := if correct then some 0 else verdicts.correct
    incorrect := if correct then verdicts.incorrect else some 0 }

/-- Outside a game there is no last word of the game. -/
def settle (screen : GameState) (verdicts : Verdicts) : Verdicts :=
  { verdicts with last := if screen = .game then verdicts.last else none }

end Verdicts

/-- The verdict of `handle_space_key`, if the keyboard interrupt gets there. -/
def judges (ports : PortReads) (s : State) : Option Bool :=
  if kbcIh ports s.data = keySpace ∧ s.currentState = .game then
    (s.test.deref >>= TypingTest.currentWord).toOption.map isCorrect
  else none

/-- The verdicts after a call that was made in `s` and has led to `screen`. -/
def Verdicts.after (s : State) (call : HandlerCall) (screen : GameState) (verdicts : Verdicts) :
    Verdicts :=
  match call with
  | .keyboard ports _ => ((judges ports s).elim verdicts verdicts.judge).settle screen
  | .timer _ => verdicts.tick.settle screen
  | .mouse _ _ => verdicts.settle screen

/-- A handler call beside the monitor. -/
def watch (loaded : LoadedSprites) (watched : State × Verdicts) (call : HandlerCall) :
    Except Fault (State × Verdicts) :=
  (perform loaded watched.1 call).map fun next =>
    (next, watched.2.after watched.1 call next.currentState)

/-- The monitor does not interfere. -/
theorem foldlM_watch (loaded : LoadedSprites) (calls : List HandlerCall) (watched : State × Verdicts) :
    (calls.foldlM (watch loaded) watched).map Prod.fst = calls.foldlM (perform loaded) watched.1 := by
  induction calls generalizing watched with
  | nil => rfl
  | cons call calls inductionHypothesis =>
      rw [List.foldlM_cons, List.foldlM_cons, watch]
      cases performed : perform loaded watched.1 call with
      | error fault => rfl
      | ok next => exact inductionHypothesis _

/-- The animations are as old as the verdicts that started them. -/
structure Ages (s : State) (verdicts : Verdicts) : Prop where
  happy : s.happyAnimation = animationAt happyFrames verdicts.correct
  mad : s.madAnimation = animationAt madFrames verdicts.incorrect
  correct : ∀ age, verdicts.last = some (true, age) → verdicts.correct = some age
  incorrect : ∀ age, verdicts.last = some (false, age) → verdicts.incorrect = some age

section Ages

variable {s next : State} {verdicts : Verdicts}

theorem Ages.settle (ages : Ages s verdicts) (screen : GameState) :
    Ages s (verdicts.settle screen) := by
  have kept : ∀ word, (verdicts.settle screen).last = some word → verdicts.last = some word := by
    intro word remembered
    unfold Verdicts.settle at remembered
    split at remembered
    · exact remembered
    · cases remembered
  refine ⟨ages.happy, ages.mad, ?_, ?_⟩
  · intro age remembered
    exact ages.correct age (kept _ remembered)
  · intro age remembered
    exact ages.incorrect age (kept _ remembered)

theorem Ages.congr (ages : Ages s verdicts) (happy : next.happyAnimation = s.happyAnimation)
    (mad : next.madAnimation = s.madAnimation) : Ages next verdicts :=
  ⟨happy.trans ages.happy, mad.trans ages.mad, ages.correct, ages.incorrect⟩

theorem Ages.tick (ages : Ages s verdicts)
    (happy : next.happyAnimation = updateAnimation s.happyAnimation)
    (mad : next.madAnimation = updateAnimation s.madAnimation) : Ages next verdicts.tick := by
  have older : ∀ correct age, verdicts.tick.last = some (correct, age) →
      ∃ younger, verdicts.last = some (correct, younger) ∧ younger + 1 = age := by
    intro correct age remembered
    obtain ⟨word, last, same⟩ := Option.map_eq_some_iff.mp remembered
    cases same
    exact ⟨word.2, last, rfl⟩
  constructor
  · rw [happy, ages.happy, updateAnimation_at]
    rfl
  · rw [mad, ages.mad, updateAnimation_at]
    rfl
  · intro age remembered
    obtain ⟨younger, last, rfl⟩ := older true age remembered
    exact congrArg (Option.map (· + 1)) (ages.correct younger last)
  · intro age remembered
    obtain ⟨younger, last, rfl⟩ := older false age remembered
    exact congrArg (Option.map (· + 1)) (ages.incorrect younger last)

theorem Ages.judge (ages : Ages s verdicts) {correct : Bool}
    (happy : next.happyAnimation =
      if correct then startAnimation s.happyAnimation else s.happyAnimation)
    (mad : next.madAnimation = if correct then s.madAnimation else startAnimation s.madAnimation) :
    Ages next (verdicts.judge correct) := by
  cases correct with
  | true =>
      refine ⟨?_, mad.trans ages.mad, ?_, ?_⟩
      · rw [happy, if_pos rfl, ages.happy, startAnimation_at]
        rfl
      · intro age remembered
        cases remembered
        rfl
      · intro age remembered
        cases remembered
  | false =>
      refine ⟨happy.trans ages.happy, ?_, ?_, ?_⟩
      · rw [mad, if_neg (by simp), ages.mad, startAnimation_at]
        rfl
      · intro age remembered
        cases remembered
      · intro age remembered
        cases remembered
        rfl

end Ages

/-! ### What the handlers do to the animations -/

/-- Both animations are as they were. -/
def SameAnimations (s next : State) : Prop :=
  next.happyAnimation = s.happyAnimation ∧ next.madAnimation = s.madAnimation

section Handlers

variable {loaded : LoadedSprites} {s next : State}

theorem setGameState_animations {env : Env} {caller : Caller} {target : GameState}
    (changed : setGameState env caller target s = .ok next) : SameAnimations s next := by
  obtain ⟨_, _, _, _, _, _, _, rfl, -⟩ := setGameState_enteredFrom changed
  exact ⟨rfl, rfl⟩

theorem processKey_animations {c : Char} {key : Key} (typed : processKey loaded c key s = .ok next) :
    SameAnimations s next := by
  unfold processKey at typed
  split at typed
  · simp only [bind_eq_ok] at typed
    obtain ⟨test, -, word, -, typed⟩ := typed
    have erased : SameAnimations s (if test.currentInputIndex + 1 = word.length then
        { s with view := deleteCaret s.view } else s) := by
      split
      · exact ⟨rfl, rfl⟩
      · exact ⟨rfl, rfl⟩
    split at typed
    · simp only [bind_eq_ok] at typed
      obtain ⟨stats, -, typed⟩ := typed
      cases typed
      exact erased
    · cases typed
      exact erased
  · cases typed
    exact ⟨rfl, rfl⟩

theorem handleDeleteKey_animations (typed : handleDeleteKey loaded s = .ok next) :
    SameAnimations s next := by
  simp only [handleDeleteKey, bind_eq_ok] at typed
  obtain ⟨test, -, word, -, typed⟩ := typed
  cases typed
  exact ⟨rfl, rfl⟩

/-- The space key starts the animation of its verdict. -/
theorem handleSpaceKey_animations {env : Env} (typed : handleSpaceKey loaded env s = .ok next) :
    ∃ word, (s.test.deref >>= TypingTest.currentWord) = .ok word ∧
      next.happyAnimation =
        (if isCorrect word then startAnimation s.happyAnimation else s.happyAnimation) ∧
      next.madAnimation =
        (if isCorrect word then s.madAnimation else startAnimation s.madAnimation) := by
  simp only [handleSpaceKey, bind_eq_ok] at typed
  obtain ⟨test, read, word, reading, stats, -, typed⟩ := typed
  cases typed
  refine ⟨word, bind_eq_ok.mpr ⟨test, read, reading⟩, ?_⟩
  simp only [redrawWords]
  split
  · split
    · exact ⟨rfl, rfl⟩
    · exact ⟨rfl, rfl⟩
  · split
    · exact ⟨rfl, rfl⟩
    · exact ⟨rfl, rfl⟩

theorem dispatchScancode_space (env : Env) (space : s.data = keySpace)
    (playing : s.currentState = .game) :
    dispatchScancode loaded env s = handleSpaceKey loaded env s := by
  have plain : bit 7 keySpace = false ∧ charMap keySpace = none := by decide
  rw [dispatchScancode, space, plain.1, plain.2, playing]
  rfl

/-- What the keyboard interrupt does to the animations. -/
theorem keyHandler_ages {ports : PortReads} {env : Env} {verdicts : Verdicts} (ages : Ages s verdicts)
    (done : keyHandler loaded ports env s = .ok next) :
    Ages next ((judges ports s).elim verdicts verdicts.judge) := by
  rw [keyHandler_eq] at done
  obtain ⟨typed, updated, left⟩ := bind_eq_ok.mp done
  have stays : SameAnimations typed next := by
    unfold leaveByKey at left
    split_ifs at left with inMenu enter escape
    · exact setGameState_animations left
    · cases left
      exact ⟨rfl, rfl⟩
    · obtain ⟨changed, change, cleared⟩ := bind_eq_ok.mp left
      cases cleared
      have same := setGameState_animations change
      exact same
    · cases left
      exact ⟨rfl, rfl⟩
  refine Ages.congr ?_ stays.1 stays.2
  have received : Ages { s with data := kbcIh ports s.data } verdicts := ages.congr rfl rfl
  by_cases space : kbcIh ports s.data = keySpace ∧ s.currentState = .game
  · have dispatched := @dispatchScancode_space loaded { s with data := kbcIh ports s.data } env
      space.1 space.2
    obtain ⟨word, reading, happy, mad⟩ := handleSpaceKey_animations (dispatched.symm.trans updated)
    have verdict : judges ports s = some (isCorrect word) := by
      rw [judges, if_pos space]
      exact congrArg (fun read : Except Fault Word => read.toOption.map isCorrect) reading
    rw [verdict]
    exact received.judge happy mad
  · have quiet : judges ports s = none := by rw [judges, if_neg space]
    have same : SameAnimations { s with data := kbcIh ports s.data } typed := by
      rcases dispatchScancode_cases loaded env { s with data := kbcIh ports s.data } with
        ⟨key, dispatched⟩ | ⟨c, -, dispatched⟩ | ⟨pressed, playing, -⟩ | ⟨-, dispatched⟩
      · rw [updateKeyboard, dispatched] at updated
        cases updated
        exact ⟨rfl, rfl⟩
      · exact processKey_animations (dispatched.symm.trans updated)
      · exact absurd ⟨pressed, playing⟩ space
      · have kept := handleDeleteKey_animations (dispatched.symm.trans updated)
        exact kept
    rw [quiet]
    exact received.congr same.1 same.2

theorem updateMouse_sameAnimations {ports : PortReads} {env : Env}
    (done : updateMouse loaded ports env s = .ok next) : SameAnimations s next := by
  obtain ⟨_, _, _, _, _, _, _, _, _, _, _, _, _, _, _, -, rfl⟩ := updateMouse_pointedFrom done
  exact ⟨rfl, rfl⟩

theorem updateTimer_animations {env : Env} (updated : updateTimer env s = .ok next) :
    next.happyAnimation = updateAnimation s.happyAnimation ∧
      next.madAnimation = updateAnimation s.madAnimation := by
  rw [updateTimer_eq] at updated
  split_ifs at updated with playing expired second
  · exact setGameState_animations updated
  · cases updated
    exact ⟨rfl, rfl⟩
  · cases updated
    exact ⟨rfl, rfl⟩
  · cases updated
    exact ⟨rfl, rfl⟩

/-- The monitor keeps the ages of the animations. -/
theorem watch_ages {watched after : State × Verdicts} {call : HandlerCall}
    (ages : Ages watched.1 watched.2) (done : watch loaded watched call = .ok after) :
    Ages after.1 after.2 := by
  unfold watch at done
  cases performed : perform loaded watched.1 call with
  | error fault =>
      rw [performed] at done
      cases done
  | ok next =>
      rw [performed] at done
      cases done
      cases call with
      | keyboard ports env => exact (keyHandler_ages ages performed).settle next.currentState
      | mouse ports env =>
          have same := updateMouse_sameAnimations performed
          exact (ages.congr same.1 same.2).settle next.currentState
      | timer env =>
          obtain ⟨ticked, updated, drawn⟩ := bind_eq_ok.mp performed
          obtain ⟨happy, mad⟩ := updateTimer_animations updated
          have same : SameAnimations ticked next := by
            obtain ⟨_, _, _, _, _, rfl⟩ := gameDrawer_drawnFrom drawn
            exact ⟨rfl, rfl⟩
          exact (ages.tick (same.1.trans happy) (same.2.trans mad)).settle next.currentState

end Handlers

/-! ### Whole runs -/

/-- When a tick draws a game less than 27 ticks after its last space press, the panda shows the verdict
on that word. -/
def ReactsToLastWord (watched : State × Verdicts) : HandlerCall → Prop
  | .timer env => ∀ ticked correct age, updateTimer env watched.1 = .ok ticked →
      ticked.currentState = .game → watched.2.tick.last = some (correct, age) → age < 27 →
        DrawsPanda ticked.happyAnimation ticked.madAnimation
          (frameAt (if correct then happyFrames else madFrames) age)
  | _ => True

/-- When a tick draws a game less than 27 ticks after its last space press and that word was wrong, the
last correct word is 27 ticks old or older, or both animations show the panda at rest. -/
def NoJoyLeft (watched : State × Verdicts) : HandlerCall → Prop
  | .timer _ => watched.1.currentState = .game → watched.1.timer ≠ 0 →
      ∀ anger joy, watched.2.tick.last = some (false, anger) → anger < 27 →
        watched.2.tick.correct = some joy → 27 ≤ joy ∨ Resting joy ∧ Resting anger
  | _ => True

/-- The ticks that draw a game. -/
theorem updateTimer_draws_game {env : Env} {s ticked : State}
    (updated : updateTimer env s = .ok ticked) :
    ticked.currentState = .game ↔ s.currentState = .game ∧ s.timer ≠ 0 := by
  rw [updateTimer_eq] at updated
  split_ifs at updated with playing expired second
  · obtain ⟨_, _, _, _, _, _, _, rfl, -⟩ := setGameState_enteredFrom updated
    simp [expired]
  · cases updated
    exact ⟨fun _ => ⟨playing, expired⟩, fun _ => playing⟩
  · cases updated
    exact ⟨fun _ => ⟨playing, expired⟩, fun _ => playing⟩
  · cases updated
    exact ⟨fun shown => absurd shown playing, fun both => absurd both.1 playing⟩

theorem updateTimer_of_running (env : Env) {s : State} (playing : s.currentState = .game)
    (running : s.timer ≠ 0) : ∃ ticked, updateTimer env s = .ok ticked := by
  rw [updateTimer_eq, if_pos playing, if_neg running]
  split
  · exact ⟨_, rfl⟩
  · exact ⟨_, rfl⟩

theorem reactsToLastWord_iff {watched : State × Verdicts} (ages : Ages watched.1 watched.2)
    (call : HandlerCall) : ReactsToLastWord watched call ↔ NoJoyLeft watched call := by
  cases call with
  | keyboard ports env => exact Iff.rfl
  | mouse ports env => exact Iff.rfl
  | timer env =>
      have older : ∀ ticked, updateTimer env watched.1 = .ok ticked →
          Ages ticked watched.2.tick := by
        intro ticked updated
        obtain ⟨happy, mad⟩ := updateTimer_animations updated
        exact ages.tick happy mad
      constructor
      · intro reacts playing running anger joy last young celebrated
        obtain ⟨ticked, updated⟩ := updateTimer_of_running env playing running
        have shown := (updateTimer_draws_game updated).mpr ⟨playing, running⟩
        have aged := older ticked updated
        have drawn := reacts ticked false anger updated shown last young
        rw [aged.happy, aged.mad, aged.incorrect anger last] at drawn
        exact (drawsPanda_mad_iff young).mp drawn joy celebrated
      · intro noJoy ticked correct age updated shown last young
        obtain ⟨playing, running⟩ := (updateTimer_draws_game updated).mp shown
        have aged := older ticked updated
        cases correct with
        | true =>
            rw [aged.happy, aged.correct age last]
            exact drawsPanda_happy young ticked.madAnimation
        | false =>
            rw [aged.happy, aged.mad, aged.incorrect age last]
            apply (drawsPanda_mad_iff young).mpr
            intro joy celebrated
            exact noJoy playing running age joy last young celebrated

/-- For every sequence of handler calls from program start: the panda reacts to the last word at every
tick if and only if no tick draws a wrong word while an earlier correct one is still being
celebrated. -/
theorem panda_iff (loaded : LoadedSprites) (file : List Char) (calls : List HandlerCall) :
    Along (watch loaded) ReactsToLastWord (setup file, .initial) calls ↔
      Along (watch loaded) NoJoyLeft (setup file, .initial) calls := by
  have initially : Ages (setup file) .initial := by
    refine ⟨rfl, rfl, ?_, ?_⟩
    · intro age last
      cases last
    · intro age last
      cases last
  constructor
  · intro reacts
    apply @along_of_along _ _ _ (fun watched => Ages watched.1 watched.2) _ _ _ _ _ _ _ initially reacts
    · intro watched call next ages _ done
      exact watch_ages ages done
    · intro watched call ages
      exact (reactsToLastWord_iff ages call).mp
  · intro noJoy
    apply @along_of_along _ _ _ (fun watched => Ages watched.1 watched.2) _ _ _ _ _ _ _ initially noJoy
    · intro watched call next ages _ done
      exact watch_ages ages done
    · intro watched call ages
      exact (reactsToLastWord_iff ages call).mpr

/-- A game of `"A"`s: the first is typed, the second is not, and then the clock ticks twice. -/
def rightThenWrong : List HandlerCall :=
  ((intoGame ++ [keyPress 0x1E, keyPress keySpace, keyPress keySpace]).map
      (Notification.inWorld shortWords)).flatMap Notification.handlerCalls ++
    [.timer default, .timer default]

/-- The third tick still draws the first happy frame, not the first mad one. -/
theorem wrong_word_hidden :
    ¬ Along (watch everySprite) ReactsToLastWord (setup [], .initial)
      (rightThenWrong ++ [.timer default]) := by
  have checked : (rightThenWrong.foldlM (watch everySprite) (setup [], .initial)).toOption.any
      (fun watched => watched.2.last == some (false, 2) &&
        (updateTimer default watched.1).toOption.any (fun ticked =>
          ticked.currentState == .game &&
            drawAnimationBoth everySprite ticked.happyAnimation ticked.madAnimation default !=
              (drawSpriteXPM (some .mad1) (xResolution - xMargin) (yMargin - panda0Height) none
                false default).1)) = true := by
    decide +kernel
  obtain ⟨watched, reached, facts⟩ := exists_ok_of_any checked
  rw [Bool.and_eq_true, beq_iff_eq] at facts
  obtain ⟨last, drawsOther⟩ := facts
  obtain ⟨ticked, updated, drawn⟩ := exists_ok_of_any drawsOther
  rw [Bool.and_eq_true, beq_iff_eq, bne_iff_ne] at drawn
  intro reacts
  have here := @guard_of_along _ _ _ _ _ rightThenWrong [] _ _ _ reacts reached
  have older : watched.2.tick.last = some (false, 3) := congrArg (Option.map _) last
  exact drawn.2 (here ticked false 3 updated drawn.1 older (by decide) everySprite default)

end TypingTutor
