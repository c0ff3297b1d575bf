/-
Module: TypingTutor.Proofs.Animation
Layer: Proofs
Purpose: An animation under any interleaving of `startAnimation` and `updateAnimation`.  All that
  matters is the number of updates since the last start: the frame and the frame counter are its
  quotient and its remainder by the duration of a frame, until all frames have been shown.
Trusted boundary: none
Main exports: AtRest, handleAnimation, Animation.atAge, foldl_handleAnimation, InRange,
  animation_shows_age, drawAnimation_atAge
-/
import TypingTutor.Core.Program
import TypingTutor.Lib.Stopwatch

namespace TypingTutor

open Stopwatch

/-- An animation as it is set up: with frames to show and a time for each, at rest at the first. -/
structure AtRest (reel : Animation) : Prop where
  frames : 1 ≤ reel.frameCount
  duration : 1 ≤ reel.frameDuration
  inactive : reel.isActive = false
  first : reel.currentFrame = 0
  fresh : reel.frameCounter = 0

/-- The calls that an animation receives. -/
def handleAnimation (animation : Animation) : Event → Animation
  | .start => startAnimation animation
  | .tick => updateAnimation animation

namespace Animation

/-- The updates for which a frame is shown. -/
def period (reel : Animation) : Nat := reel.frameDuration.toNat

def playing (reel : Animation) (ticks : Nat) : Animation :=
  { reel with
    isActive := true
    currentFrame := (ticks / reel.period : Nat)
    frameCounter := (ticks % reel.period : Nat) }

/-- The animation so many updates after its last start. -/
def atAge (reel : Animation) : Option Nat → Animation
  | none => reel
  | some ticks =>
      if ticks / reel.period < reel.frameCount.toNat then reel.playing ticks else reel

end Animation

variable {reel : Animation}

namespace AtRest

theorem period_eq (atRest : AtRest reel) : (reel.period : Int) = reel.frameDuration :=
  Int.toNat_of_nonneg (by have positive := atRest.duration; omega)

theorem frameCount_eq (atRest : AtRest reel) : (reel.frameCount.toNat : Int) = reel.frameCount :=
  Int.toNat_of_nonneg (by have positive := atRest.frames; omega)

theorem period_pos (atRest : AtRest reel) : 0 < reel.period := by
  have positive := atRest.duration
  have period := atRest.period_eq
  omega

/-- What an animation that is over looks like. -/
theorem stopped (atRest : AtRest reel) :
    { reel with isActive := false, currentFrame := 0, frameCounter := 0 } = reel := by
  have inactive := atRest.inactive
  have first := atRest.first
  have fresh := atRest.fresh
  cases reel
  subst inactive first fresh
  rfl

end AtRest

/-! ### The two calls -/

theorem startAnimation_atAge (atRest : AtRest reel) (age : Option Nat) :
    startAnimation (reel.atAge age) = reel.atAge (some 0) := by
  have some_frames : 0 / reel.period < reel.frameCount.toNat := by
    have positive := atRest.frames
    rw [Nat.zero_div]
    omega
  have begun : reel.atAge (some 0) = startAnimation reel := by
    rw [Animation.atAge, if_pos some_frames, Animation.playing, Nat.zero_div, Nat.zero_mod]
    rfl
  rw [begun]
  cases age with
  | none => rfl
  | some ticks =>
      rw [Animation.atAge]
      split_ifs
      all_goals rfl

/-- An update completes a frame or not, and the last frame or not. -/
theorem updateAnimation_playing (atRest : AtRest reel) (ticks : Nat) :
    updateAnimation (reel.playing ticks) =
      if ticks % reel.period + 1 = reel.period then
        if ticks / reel.period + 1 < reel.frameCount.toNat then
          { reel.playing ticks with
            currentFrame := (ticks / reel.period + 1 : Nat)
            frameCounter := 0 }
        else reel
      else { reel.playing ticks with frameCounter := (ticks % reel.period + 1 : Nat) } := by
  have period := atRest.period_eq
  have count := atRest.frameCount_eq
  have less := Nat.mod_lt ticks atRest.period_pos
  have unfolded : updateAnimation (reel.playing ticks) =
      if (ticks % reel.period : Nat) + 1 ≥ reel.frameDuration then
        if (ticks / reel.period : Nat) + 1 ≥ reel.frameCount then
          { reel with isActive := false, currentFrame := 0, frameCounter := 0 }
        else
          { reel.playing ticks with
            currentFrame := (ticks / reel.period : Nat) + 1
            frameCounter := 0 }
      else { reel.playing ticks with frameCounter := (ticks % reel.period : Nat) + 1 } := rfl
  rw [unfolded, atRest.stopped]
  by_cases full : ticks % reel.period + 1 = reel.period
  · rw [if_pos full, if_pos (by omega)]
    by_cases more : ticks / reel.period + 1 < reel.frameCount.toNat
    · rw [if_pos more, if_neg (by omega)]
      rfl
    · rw [if_neg more, if_pos (by omega)]
  · rw [if_neg full, if_neg (by omega)]
    rfl

theorem updateAnimation_atAge (atRest : AtRest reel) (age : Option Nat) :
    updateAnimation (reel.atAge age) = reel.atAge (age.map (· + 1)) := by
  have idle : updateAnimation reel = reel := by
    rw [updateAnimation, atRest.inactive]
    rfl
  cases age with
  | none => exact idle
  | some ticks =>
      rw [Option.map_some, Animation.atAge, Animation.atAge]
      by_cases full : ticks % reel.period + 1 = reel.period
      · obtain ⟨frame, counter⟩ := succ_of_full full
        rw [frame]
        by_cases shown : ticks / reel.period < reel.frameCount.toNat
        · rw [if_pos shown, updateAnimation_playing atRest, if_pos full]
          by_cases more : ticks / reel.period + 1 < reel.frameCount.toNat
          · rw [if_pos more, if_pos more, Animation.playing, Animation.playing, frame, counter]
            rfl
          · rw [if_neg more, if_neg more]
        · rw [if_neg shown, if_neg (by omega), idle]
      · obtain ⟨frame, counter⟩ := succ_of_not_full atRest.period_pos full
        rw [frame]
        by_cases shown : ticks / reel.period < reel.frameCount.toNat
        · rw [if_pos shown, if_pos shown, updateAnimation_playing atRest, if_neg full]
          rw [Animation.playing, Animation.playing, frame, counter]
        · rw [if_neg shown, if_neg shown, idle]

/-- After any calls an animation is determined by the updates since its last start. -/
theorem foldl_handleAnimation (atRest : AtRest reel) (calls : List Event) :
    calls.foldl handleAnimation reel = reel.atAge (age calls) :=
  @simulated _ handleAnimation reel.atAge (startAnimation_atAge atRest)
    (updateAnimation_atAge atRest) calls

/-! ### What the ages mean -/

/-- The frame is one of the frames, and its counter has not run out. -/
structure InRange (animation : Animation) : Prop where
  frame : 0 ≤ animation.currentFrame ∧ animation.currentFrame < animation.frameCount
  counter : 0 ≤ animation.frameCounter ∧ animation.frameCounter < animation.frameDuration

theorem inRange_atAge (atRest : AtRest reel) (age : Option Nat) : InRange (reel.atAge age) := by
  have frames := atRest.frames
  have duration := atRest.duration
  have first := atRest.first
  have fresh := atRest.fresh
  have resting : InRange reel := ⟨by omega, by omega⟩
  cases age with
  | none => exact resting
  | some ticks =>
      rw [Animation.atAge]
      split_ifs with shown
      · have counted := Int.ofNat_lt.mpr (Nat.mod_lt ticks atRest.period_pos)
        have framed := Int.ofNat_lt.mpr shown
        rw [atRest.period_eq] at counted
        rw [atRest.frameCount_eq] at framed
        exact ⟨⟨Int.natCast_nonneg _, framed⟩, ⟨Int.natCast_nonneg _, counted⟩⟩
      · exact resting

/-- The sprites, their number and their duration stay. -/
theorem atAge_reel (age : Option Nat) :
    (reel.atAge age).frames = reel.frames ∧ (reel.atAge age).frameCount = reel.frameCount ∧
      (reel.atAge age).frameDuration = reel.frameDuration := by
  cases age with
  | none => exact ⟨rfl, rfl, rfl⟩
  | some ticks =>
      rw [Animation.atAge]
      split_ifs
      all_goals exact ⟨rfl, rfl, rfl⟩

/-- An animation is over when every frame has been shown for its time. -/
theorem shown_iff (atRest : AtRest reel) (ticks : Nat) :
    ticks / reel.period < reel.frameCount.toNat ↔
      (ticks : Int) < reel.frameCount * reel.frameDuration := by
  rw [Nat.div_lt_iff_lt_mul atRest.period_pos, ← Int.ofNat_lt, Int.natCast_mul,
    atRest.frameCount_eq, atRest.period_eq]

theorem isActive_atAge (atRest : AtRest reel) (ticks : Nat) :
    (reel.atAge (some ticks)).isActive = true ↔
      (ticks : Int) < reel.frameCount * reel.frameDuration := by
  rw [← shown_iff atRest, Animation.atAge]
  split_ifs with shown
  · exact iff_of_true rfl shown
  · rw [atRest.inactive]
    exact iff_of_false Bool.false_ne_true shown

theorem atAge_of_active (atRest : AtRest reel) {ticks : Nat}
    (active : (reel.atAge (some ticks)).isActive = true) :
    reel.atAge (some ticks) = reel.playing ticks := by
  rw [isActive_atAge atRest, ← shown_iff atRest] at active
  exact if_pos active

theorem atAge_of_inactive {ticks : Nat} (inactive : (reel.atAge (some ticks)).isActive = false) :
    reel.atAge (some ticks) = reel := by
  rw [Animation.atAge] at inactive ⊢
  split_ifs at inactive ⊢ with shown
  · cases inactive
  · rfl

/-- In every interleaving of starts and updates the counters of an animation are in range.  It is
active for `frameCount * frameDuration` updates after the last start, with the quotient of the
updates as its frame and their remainder as its frame counter, and then is back at its first frame. -/
theorem animation_shows_age (atRest : AtRest reel) (calls : List Event) :
    InRange (calls.foldl handleAnimation reel) ∧
      ((calls.foldl handleAnimation reel).frames = reel.frames ∧
        (calls.foldl handleAnimation reel).frameCount = reel.frameCount ∧
        (calls.foldl handleAnimation reel).frameDuration = reel.frameDuration) ∧
      ∀ before k, calls = before ++ .start :: List.replicate k .tick →
        ((calls.foldl handleAnimation reel).isActive = true ↔
            (k : Int) < reel.frameCount * reel.frameDuration) ∧
          ((calls.foldl handleAnimation reel).isActive = true →
            (calls.foldl handleAnimation reel).currentFrame = k / reel.frameDuration ∧
              (calls.foldl handleAnimation reel).frameCounter = k % reel.frameDuration) ∧
          ((calls.foldl handleAnimation reel).isActive = false →
            (calls.foldl handleAnimation reel).currentFrame = 0) := by
  rw [foldl_handleAnimation atRest]
  refine ⟨inRange_atAge atRest _, atAge_reel _, ?_⟩
  rintro before k rfl
  rw [age_since_start]
  refine ⟨isActive_atAge atRest k, ?_, ?_⟩
  · intro active
    rw [atAge_of_active atRest active, ← atRest.period_eq]
    exact ⟨Int.natCast_ediv _ _, Int.natCast_emod _ _⟩
  · intro inactive
    rw [atAge_of_inactive inactive]
    exact atRest.first

/-- The animations of the panda are set up at rest. -/
theorem initialAnimation_atRest (frames : List SpriteName) : AtRest (initialAnimation frames) where
  frames := show (1 : Int) ≤ 9 by decide
  duration := show (1 : Int) ≤ 3 by decide
  inactive := rfl
  first := rfl
  fresh := rfl

/-- A restart in the middle of the second frame, and the last update of the last frame. -/
def restartedCalls : List Event :=
  [.start, .tick, .tick, .tick, .tick] ++ .start :: List.replicate 26 .tick

theorem happy_restart_shows_last_frame :
    (restartedCalls.foldl handleAnimation (initialAnimation happyFrames)).currentFrame = 8 ∧
      (restartedCalls.foldl handleAnimation (initialAnimation happyFrames)).frameCounter = 2 := by
  obtain ⟨_, _, sinceStart⟩ :=
    animation_shows_age (initialAnimation_atRest happyFrames) restartedCalls
  obtain ⟨active, counters, _⟩ := sinceStart [.start, .tick, .tick, .tick, .tick] 26 rfl
  exact counters (active.mpr (by decide))

/-! ### Drawing -/

/-- `drawAnimation` always finds a frame to draw, the one that is due, and the panda at rest
afterwards. -/
theorem drawAnimation_atAge (atRest : AtRest reel) (size : (reel.frames.length : Int) = reel.frameCount)
    (loaded : LoadedSprites) (ticks : Nat) (x y : Int) (view : View) :
    drawAnimation loaded (reel.atAge (some ticks)) x y view =
      (drawSpriteXPM (spritePointer loaded (reel.frames.getD (ticks / reel.period) .panda0)) x y none
        false view).1 := by
  have count := atRest.frameCount_eq
  rw [List.getD_eq_getElem?_getD]
  by_cases shown : ticks / reel.period < reel.frameCount.toNat
  · have range := (inRange_atAge atRest (some ticks)).frame
    rw [Animation.atAge, if_pos shown] at range ⊢
    have inside : ticks / reel.period < reel.frames.length := by omega
    rw [drawAnimation, if_neg (by simp [Animation.playing]), if_neg (by omega)]
    simp only [Animation.playing, Int.toNat_natCast, List.getElem?_eq_getElem inside,
      Option.getD_some]
  · rw [Animation.atAge, if_neg shown, drawAnimation, if_pos atRest.inactive,
      List.getElem?_eq_none (by omega)]
    rfl

end TypingTutor
