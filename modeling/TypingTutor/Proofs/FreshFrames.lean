/-
Module: TypingTutor.Proofs.FreshFrames
Layer: Proofs
Purpose: What is left on the screen of what was there before.  No handler takes strokes out of the
  background, and the first screen drawn clears it, so from the third timer interrupt on the frame on
  the screen is a picture of the program alone; the first frame shows nothing but the memory that its
  buffer was allocated with.
Trusted boundary: none
Main exports: Adds, gameDrawer_adds, perform_adds, Freshness, frames_forget_memory
-/
import TypingTutor.Proofs.EscapeKey
import TypingTutor.Proofs.Rendering

namespace TypingTutor

open Runs DoubleBuffer Video

/-! ### Strokes added to the background -/

/-- Strokes have been added to the background, over what was there. -/
def Adds (before after : View) : Prop :=
  ∃ strokes, after.secondaryFrameBufferNoMouse = strokes ++ before.secondaryFrameBufferNoMouse

section Adding

variable {loaded : LoadedSprites} {first second third : View}

theorem Adds.refl (view : View) : Adds view view := ⟨[], rfl⟩

theorem Adds.one {op : DrawOp}
    (stroke : second.secondaryFrameBufferNoMouse = op :: first.secondaryFrameBufferNoMouse) :
    Adds first second :=
  ⟨[op], stroke⟩

theorem Adds.same (same : second.secondaryFrameBufferNoMouse = first.secondaryFrameBufferNoMouse) :
    Adds first second :=
  ⟨[], same⟩

theorem Adds.trans (one : Adds first second) (two : Adds second third) : Adds first third := by
  obtain ⟨strokes, added⟩ := one
  obtain ⟨later, addedLater⟩ := two
  exact ⟨later ++ strokes, by rw [addedLater, added, List.append_assoc]⟩

/-- What is cleared stays cleared. -/
theorem Adds.cleared (adds : Adds first second) (cleared : Cleared first.secondaryFrameBufferNoMouse) :
    Cleared second.secondaryFrameBufferNoMouse := by
  obtain ⟨strokes, added⟩ := adds
  rw [added]
  exact cleared.append strokes

theorem drawRectangle_adds (x y width height : Int) (color : UInt32) (view : View) :
    Adds view (drawRectangle x y width height color view) :=
  .one rfl

theorem drawSpriteXPM_adds (sprite : Option SpriteName) (x y : Int) (color : Option UInt32)
    (moving : Bool) (view : View) : Adds view (drawSpriteXPM sprite x y color moving view).1 := by
  cases sprite with
  | none => exact .refl view
  | some name =>
      cases moving with
      | true => exact .same rfl
      | false => exact .one rfl

theorem drawStatic_adds (name : SpriteName) (sprite : Sprite) (view : View) :
    Adds view (drawStatic loaded name sprite view) :=
  drawSpriteXPM_adds _ _ _ none false view

theorem drawTextLoop_adds (color : UInt32) (startX endX : Int) (text : List Char) (view : View) :
    Adds view (drawTextLoop loaded color startX endX text view) := by
  induction text generalizing view with
  | nil => exact .refl view
  | cons c text inductionHypothesis =>
      rw [drawTextLoop]
      split
      · exact inductionHypothesis { view with xOffset := startX, yOffset := view.yOffset + 22 }
      · refine Adds.trans ?_ (inductionHypothesis _)
        have shifted : ∀ view, Adds view (offsetHandler startX endX view) := by
          intro view
          unfold offsetHandler
          split
          · exact .same rfl
          · exact .same rfl
        refine Adds.trans ?_ (shifted _)
        cases keySpriteMap loaded (charToKey c) with
        | none => exact .refl view
        | some name => exact drawSpriteXPM_adds _ _ _ _ false view

theorem drawText_adds (text : List Char) (color : UInt32) (startX endX startY : Int) (view : View) :
    Adds view (drawText loaded text color startX endX startY view) :=
  drawTextLoop_adds color startX endX text { view with xOffset := startX, yOffset := startY }

theorem drawGlyphs_adds (moving : Bool) (step : Int) (text : List Char) (x y : Int) (view : View) :
    Adds view (drawGlyphs loaded moving step text x y view).1 := by
  induction text generalizing x view with
  | nil => exact .refl view
  | cons c text inductionHypothesis =>
      have drawn := drawSpriteXPM_adds (keySpriteMap loaded (charToKey c)) x y none moving view
      rw [drawGlyphs]
      split
      · exact drawn
      · exact drawn.trans (inductionHypothesis (x + step) _)

theorem drawRecordedTime_adds (timer : Int) (view : View) :
    Adds view (drawRecordedTime loaded timer view) :=
  drawGlyphs_adds true 13 _ _ _ view

theorem drawRealTime_adds (now : RealTimeInfo) (view : View) :
    Adds view (drawRealTime loaded now view) :=
  drawGlyphs_adds true 13 _ _ _ { view with timeInfo := now }

/-- The background is a clear, and in two screens a box on it. -/
theorem drawBackground_cleared (now : RealTimeInfo) (state : GameState) (view : View) :
    Cleared (drawBackground now state view).secondaryFrameBufferNoMouse := by
  by_cases boxed : state = .game ∨ state = .instructions
  · simp only [drawBackground, if_pos boxed]
    exact ⟨[_], _, _, rfl⟩
  · simp only [drawBackground, if_neg boxed]
    exact ⟨[], _, _, rfl⟩

theorem drawBackground_adds (now : RealTimeInfo) (state : GameState) (view : View) :
    Adds view (drawBackground now state view) := by
  by_cases boxed : state = .game ∨ state = .instructions
  · simp only [drawBackground, if_pos boxed]
    exact ⟨[_, _], rfl⟩
  · simp only [drawBackground, if_neg boxed]
    exact ⟨[_], rfl⟩

theorem drawStatistics_adds (stats : Statistics) (view : View) :
    Adds view (drawStatistics loaded stats view) := by
  have number : ∀ (value x y : Int) (view : View), Adds view (drawInt loaded value x y view).1 :=
    fun value x y view => drawGlyphs_adds false 16 _ x y view
  simp only [drawStatistics]
  split
  · exact number _ _ _ view
  refine (number (shownAccuracy stats) (statisticsBoxX + 368) (statisticsBoxY + 110) view).trans ?_
  split
  · exact number _ _ _ _
  refine (number (shownSpeed stats) (statisticsBoxX + 322) (statisticsBoxY + 132) _).trans ?_
  split
  · exact number _ _ _ _
  exact (number stats.typedWords (statisticsBoxX + 258) (statisticsBoxY + 154) _).trans
    (number _ _ _ _)

theorem markLetter_adds (caretAt : Option Nat) (j : Nat) (view : View) :
    Adds view (markLetter caretAt j view) := by
  rw [markLetter]
  split
  · exact ⟨[_, _], rfl⟩
  · exact .refl view

theorem drawLetters_adds (word : Word) (caretAt : Option Nat) (letters : List Letter) (j : Nat)
    (view : View) : Adds view (drawLetters loaded word caretAt j letters view).1 := by
  induction letters generalizing j view with
  | nil => exact .refl view
  | cons letter rest inductionHypothesis =>
      have marked := markLetter_adds caretAt j view
      rcases drawLetters_round loaded word caretAt letter rest j view with
        ⟨-, round⟩ | ⟨-, name, round⟩
      · rw [round]
        exact marked
      · rw [round]
        have put : Adds (markLetter caretAt j view)
            (putLetter name word letter (markLetter caretAt j view)) := .one rfl
        exact (marked.trans put).trans (inductionHypothesis (j + 1) _)

theorem drawWordsLoop_adds (test : TypingTest) (words : List Word) (i : Nat) (line : Int)
    (view : View) : Adds view (drawWordsLoop loaded test i line words view).2.1 := by
  induction words generalizing i line view with
  | nil => exact .refl view
  | cons word rest inductionHypothesis =>
      by_cases inside : i < test.wordCount
      · have drawn : Adds view (drawWord loaded test i line word view).1 :=
          drawLetters_adds _ _ word.letters 0 view
        rcases drawWordsLoop_round loaded test line word rest view inside with
          ⟨-, round⟩ | ⟨-, -, next, others, line', view', -, goes, round⟩
        · rw [round]
          exact drawn
        · rw [round]
          have same : view'.secondaryFrameBufferNoMouse =
              (drawWord loaded test i line word view).1.secondaryFrameBufferNoMouse := by
            rw [lineBreak] at goes
            split_ifs at goes
            all_goals
              cases goes
              rfl
          exact (drawn.trans (.same same)).trans (inductionHypothesis (i + 1) line' view')
      · rw [drawWordsLoop, if_neg inside]
        exact .refl view

theorem drawWords_adds (test : TypingTest) (view : View) :
    Adds view (drawWords loaded test view).2 :=
  drawWordsLoop_adds test test.words 0 0 (resetOffset view)

theorem drawAnimation_adds (animation : Animation) (x y : Int) (view : View) :
    Adds view (drawAnimation loaded animation x y view) := by
  unfold drawAnimation
  split
  · exact drawSpriteXPM_adds _ _ _ _ false view
  · split
    · exact .refl view
    · cases animation.frames[animation.currentFrame.toNat]? with
      | none => exact .refl view
      | some frame => exact drawSpriteXPM_adds _ _ _ _ false view

theorem drawAnimationBoth_adds (happy mad : Animation) (view : View) :
    Adds view (drawAnimationBoth loaded happy mad view) := by
  unfold drawAnimationBoth
  split
  · exact drawAnimation_adds happy _ _ view
  · split
    · exact drawAnimation_adds mad _ _ view
    · exact drawSpriteXPM_adds _ _ _ _ false view

theorem drawScoreRows_adds (entries : List HighScore) (rank y : Int) (view : View) :
    Adds view (drawScoreRows loaded entries rank y view).1 := by
  induction entries generalizing rank y view with
  | nil => exact .refl view
  | cons score rest inductionHypothesis =>
      exact (drawText_adds _ white _ _ y view).trans (inductionHypothesis (rank + 1) (y + 28) _)

theorem drawTimers_adds (view : View) : Adds view (drawTimers loaded view) := by
  have text := @drawText_adds loaded timerSelection white xMargin (xResolution - xMargin) yMargin view
  have first := text.trans (drawSpriteXPM_adds (spritePointer loaded .timer15) timer15Sprite.x
    timer15Sprite.y none false _)
  simp only [drawTimers]
  split
  · exact first
  · have second := first.trans (drawSpriteXPM_adds (spritePointer loaded .timer30) timer30Sprite.x
      timer30Sprite.y none false _)
    split
    · exact second
    · exact second.trans (drawSpriteXPM_adds _ _ _ none false _)

end Adding

/-! ### Handlers -/

section Handlers

variable {loaded : LoadedSprites} {s next : State}

/-- A new screen is drawn over a background of its own, only the statistics are drawn over what is
there. -/
theorem drawScreen_adds {env : Env} (drawn : drawScreen loaded env s = .ok next) :
    Adds (if s.currentState = .statistics then s.view
      else drawBackground (env.rtc 1) s.currentState s.view) next.view := by
  unfold drawScreen at drawn
  split at drawn
  · rename_i shown
    cases drawn
    rw [shown, if_neg (by decide)]
    have panda := @drawStatic_adds loaded .panda pandaSprite (drawBackground (env.rtc 1) .menu s.view)
    have left := panda.trans (@drawStatic_adds loaded .bambuLeft bambuLeftSprite _)
    have right := left.trans (@drawStatic_adds loaded .bambuRight bambuRightSprite _)
    have play := right.trans (@drawStatic_adds loaded .play playSprite _)
    have instructions := play.trans (@drawStatic_adds loaded .instructions instructionsSprite _)
    exact instructions.trans (@drawStatic_adds loaded .highscores highscoresSprite _)
  · rename_i shown
    obtain ⟨test, -, returned⟩ := bind_eq_ok.mp drawn
    cases returned
    rw [shown, if_neg (by decide)]
    have timed := @drawRecordedTime_adds loaded s.timer (drawBackground (env.rtc 1) .game s.view)
    have worded := timed.trans (@drawWords_adds loaded test _)
    exact worded.trans (drawRealTime_adds (env.rtc 2) _)
  · rename_i shown
    cases drawn
    rw [shown, if_neg (by decide)]
    exact drawTimers_adds _
  · rename_i shown
    cases drawn
    rw [shown, if_neg (by decide)]
    have text := @drawText_adds loaded gameInstructions grey xMargin (xResolution - xMargin) 100
      (drawBackground (env.rtc 1) .instructions s.view)
    dsimp only
    exact text
  · rename_i shown
    obtain ⟨stats, -, returned⟩ := bind_eq_ok.mp drawn
    cases returned
    rw [shown, if_pos rfl]
    have boxed := drawRectangle_adds statisticsBoxX statisticsBoxY statisticsBoxSizeX
      statisticsBoxSizeY white s.view
    have worded := boxed.trans (@drawText_adds loaded statisticsMessage grey statisticsBoxX
      (statisticsBoxX + statisticsBoxSizeX) statisticsBoxY _)
    have numbered := worded.trans (@drawStatistics_adds loaded stats _)
    have backed := numbered.trans (@drawStatic_adds loaded .backToMenu backToMenuSprite _)
    exact backed.trans (@drawStatic_adds loaded .playAgain playAgainSprite _)
  · rename_i shown
    cases drawn
    rw [shown, if_neg (by decide)]
    have titled := @drawText_adds loaded "HIGHSCORES".toList white
      (xResolution / 2 - ("HIGHSCORES".toList.length : Int) * 20 / 2)
      (xResolution / 2 + ("HIGHSCORES".toList.length : Int) * 20 / 2) yMargin
      (drawBackground (env.rtc 1) .highscores s.view)
    have rows := titled.trans
      (@drawScoreRows_adds loaded s.scores.highScores.entries 1 (yMargin + 40) _)
    exact rows.trans (drawStatic_adds _ _ _)

theorem drawFrame_adds {env : Env} (drawn : drawFrame loaded env s = .ok next) :
    Adds s.view next.view := by
  unfold drawFrame at drawn
  split at drawn
  · cases drawn
    have clocked := @drawRealTime_adds loaded (env.rtc 3) s.view
    have timed := clocked.trans (@drawRecordedTime_adds loaded s.timer _)
    have starred := timed.trans (.same (@drawStars_floats loaded s.stars _).background)
    have pointed := starred.trans (@drawSpriteXPM_adds (spritePointer loaded .cursor)
      (clampCursor s.cursor).x (clampCursor s.cursor).y none true _)
    exact pointed.trans (drawAnimationBoth_adds s.happyAnimation s.madAnimation _)
  · cases drawn
    exact drawSpriteXPM_adds _ _ _ none true s.view

/-- `GameDrawer` keeps a background that is clear, and clears it with a new screen. -/
theorem gameDrawer_cleared {env : Env} (drawn : gameDrawer loaded env s = .ok next)
    (clears : Cleared s.view.secondaryFrameBufferNoMouse ∨
      s.gameStateChange = true ∧ s.currentState ≠ .statistics) :
    Cleared next.view.secondaryFrameBufferNoMouse := by
  rw [gameDrawer_eq] at drawn
  split at drawn
  · obtain ⟨shown, screen, frame⟩ := bind_eq_ok.mp drawn
    apply (drawFrame_adds frame).cleared
    have added := drawScreen_adds screen
    by_cases statistics : s.currentState = .statistics
    · rw [if_pos statistics] at added
      exact added.cleared (clears.resolve_right fun fresh => fresh.2 statistics)
    · rw [if_neg statistics] at added
      exact added.cleared (drawBackground_cleared (env.rtc 1) s.currentState s.view)
  · rename_i unchanged
    exact (drawFrame_adds drawn).cleared (clears.resolve_right fun fresh => unchanged fresh.1)

theorem redrawWords_adds (test : TypingTest) (s : State) :
    Adds s.view (redrawWords loaded test s).view :=
  drawWords_adds test s.view

theorem processKey_adds {c : Char} {key : Key} (typed : processKey loaded c key s = .ok next) :
    Adds s.view next.view := by
  unfold processKey at typed
  split at typed
  · simp only [bind_eq_ok] at typed
    obtain ⟨test, -, word, -, typed⟩ := typed
    have erased : Adds s.view (if test.currentInputIndex + 1 = word.length then
        { s with view := deleteCaret s.view } else s).view := by
      split
      · exact drawRectangle_adds _ _ _ _ _ s.view
      · exact .refl s.view
    split at typed
    · simp only [bind_eq_ok] at typed
      obtain ⟨stats, -, typed⟩ := typed
      cases typed
      exact erased.trans (drawWords_adds _ _)
    · cases typed
      exact erased
  · cases typed
    exact .refl s.view

theorem handleSpaceKey_adds {env : Env} (typed : handleSpaceKey loaded env s = .ok next) :
    Adds s.view next.view := by
  simp only [handleSpaceKey, bind_eq_ok] at typed
  obtain ⟨test, -, word, -, stats, -, typed⟩ := typed
  cases typed
  have judged : (if isCorrect word then
      { s with happyAnimation := startAnimation s.happyAnimation }
      else { s with madAnimation := startAnimation s.madAnimation }).view = s.view := by
    split
    · rfl
    · rfl
  generalize (if isCorrect word then
    { s with happyAnimation := startAnimation s.happyAnimation }
    else { s with madAnimation := startAnimation s.madAnimation }) = animated at judged ⊢
  rw [← judged]
  refine Adds.trans ?_ (redrawWords_adds _ _)
  split
  · exact drawBackground_adds _ _ animated.view
  · exact .refl animated.view

theorem dispatchScancode_adds {env : Env} (done : dispatchScancode loaded env s = .ok next) :
    Adds s.view next.view := by
  rcases dispatchScancode_cases loaded env s with
    ⟨key, dispatched⟩ | ⟨c, -, dispatched⟩ | ⟨-, -, dispatched⟩ | ⟨-, dispatched⟩
  · rw [dispatched] at done
    cases done
    exact .refl s.view
  · exact processKey_adds (dispatched.symm.trans done)
  · exact handleSpaceKey_adds (dispatched.symm.trans done)
  · have typed := dispatched.symm.trans done
    simp only [handleDeleteKey, bind_eq_ok] at typed
    obtain ⟨test, -, word, -, typed⟩ := typed
    cases typed
    exact drawWords_adds _ s.view

theorem checkActions_adds {env : Env} (acted : checkActions loaded env s = .ok next) :
    Adds s.view next.view := by
  by_cases playing : s.currentState = .game
  · rw [checkActions_game env playing] at acted
    rcases checkGesture_cases acted with ⟨gesture, xGesture, rfl⟩ | ⟨xGesture, filled, filling, rfl⟩
    · exact .refl s.view
    · obtain ⟨test, word, rfl⟩ := fillCurrentWord_inv filling
      exact drawWords_adds _ s.view
  · rw [checkActions_eq loaded env playing] at acted
    cases hit : hitButton env s with
    | none =>
        rw [hit] at acted
        cases acted
        exact .refl s.view
    | some button =>
        rw [hit] at acted
        obtain ⟨_, _, _, _, _, _, _, _, _, -, rfl⟩ :=
          screenButtons_pressedFrom env s button (List.mem_of_find?_eq_some hit) s next acted
        exact .refl s.view

theorem keyHandler_adds {ports : PortReads} {env : Env}
    (done : keyHandler loaded ports env s = .ok next) : Adds s.view next.view := by
  rw [keyHandler_eq] at done
  obtain ⟨typed, updated, left⟩ := bind_eq_ok.mp done
  have added := dispatchScancode_adds updated
  have same : next.view = typed.view := by
    unfold leaveByKey at left
    split_ifs at left with inMenu enter escape
    · exact setGameState_view left
    · cases left
      rfl
    · obtain ⟨changed, change, cleared⟩ := bind_eq_ok.mp left
      cases cleared
      have kept := setGameState_view change
      exact kept
    · cases left
      rfl
  rw [same]
  exact added

theorem updateMouse_adds {ports : PortReads} {env : Env}
    (done : updateMouse loaded ports env s = .ok next) : Adds s.view next.view := by
  rcases updateMouse_inv done with ⟨pp, acted, acting, rfl⟩ | ⟨-, rfl⟩
  · have added := checkActions_adds acting
    exact added
  · exact .refl s.view

/-! ### Before the first tick

Until a timer interrupt comes, a screen waits to be drawn; it is not the statistics, which only the
timer interrupt enters. -/

/-- A screen other than the statistics waits to be drawn. -/
structure Opening (s : State) : Prop where
  change : s.gameStateChange = true
  shown : s.currentState ≠ .statistics
  timed : s.currentState = .game → s.timer ≠ 0

theorem setGameState_opening {env : Env} {caller : Caller} {target : GameState}
    (other : target ≠ .statistics) (timed : target = .game → s.timer ≠ 0)
    (changed : setGameState env caller target s = .ok next) : Opening next := by
  obtain ⟨_, _, _, _, _, _, _, rfl, -⟩ := setGameState_enteredFrom changed
  exact ⟨rfl, other, timed⟩

theorem leaveByKey_opening {env : Env} {before : GameState} (opening : Opening s)
    (left : leaveByKey env before s = .ok next) : Opening next := by
  unfold leaveByKey at left
  split_ifs at left with inMenu enter escape
  · exact setGameState_opening (by decide) GameState.noConfusion left
  · cases left
    exact opening
  · obtain ⟨changed, change, cleared⟩ := bind_eq_ok.mp left
    cases cleared
    have entered := setGameState_opening (by decide) GameState.noConfusion change
    exact ⟨entered.change, entered.shown, entered.timed⟩
  · cases left
    exact opening

theorem keyHandler_opening {ports : PortReads} {env : Env} (opening : Opening s)
    (done : keyHandler loaded ports env s = .ok next) : Opening next := by
  rw [keyHandler_eq] at done
  obtain ⟨typed, updated, left⟩ := bind_eq_ok.mp done
  apply leaveByKey_opening _ left
  obtain ⟨_, _, _, _, _, _, rfl⟩ := updateKeyboard_typedFrom updated
  exact ⟨opening.change, opening.shown, opening.timed⟩

/-- The action leads to a screen that waits to be drawn. -/
def Opens (action : State → Except Fault State) : Prop :=
  ∀ s next, action s = .ok next → Opening next

theorem opens_screen (env : Env) (target : GameState) (noStatistics : target ≠ .statistics)
    (noGame : target ≠ .game) : Opens (setGameState env .checkActions target) :=
  fun _ _ changed => setGameState_opening noStatistics (fun game => absurd game noGame) changed

theorem opens_game (env : Env) {seconds : Int} (timed : seconds ≠ 0) :
    Opens fun s => setGameState env .checkActions .game { s with timer := seconds } :=
  fun _ _ changed => setGameState_opening (by decide) (fun _ => timed) changed

theorem opens_backToMenu (env : Env) :
    Opens fun s => setGameState env .checkActions .menu s >>= destroyStats := by
  intro s next changed
  obtain ⟨entered, change, destroyed⟩ := bind_eq_ok.mp changed
  have opening := opens_screen env .menu (by decide) (by decide) s entered change
  obtain ⟨stats, -, returned⟩ := bind_eq_ok.mp destroyed
  cases returned
  exact ⟨opening.change, opening.shown, opening.timed⟩

theorem screenButtons_open (env : Env) (s : State) :
    ∀ button ∈ screenButtons env s, Opens button.2 := by
  intro button member
  unfold screenButtons at member
  split at member
  · simp only [List.mem_cons, List.not_mem_nil, or_false] at member
    rcases member with rfl | rfl | rfl
    · exact opens_screen env .timers (by decide) (by decide)
    · exact opens_screen env .instructions (by decide) (by decide)
    · exact opens_screen env .highscores (by decide) (by decide)
  · simp only [List.mem_cons, List.not_mem_nil, or_false] at member
    rcases member with rfl | rfl | rfl
    · exact opens_game env (by decide)
    · exact opens_game env (by decide)
    · exact opens_game env (by decide)
  · simp only [List.mem_cons, List.not_mem_nil, or_false] at member
    rcases member with rfl | rfl
    · exact opens_backToMenu env
    · exact opens_screen env .timers (by decide) (by decide)
  · rw [List.mem_singleton] at member
    subst member
    exact opens_screen env .menu (by decide) (by decide)
  · cases member
  · cases member

theorem updateMouse_opening {ports : PortReads} {env : Env} (opening : Opening s)
    (done : updateMouse loaded ports env s = .ok next) : Opening next := by
  rcases updateMouse_inv done with ⟨pp, acted, acting, rfl⟩ | ⟨-, rfl⟩
  · have opened : Opening acted := by
      rcases checkActions_cases env acting with gestured | same | ⟨button, member, pressed⟩
      · obtain ⟨_, _, _, _, _, _, _, rfl⟩ := gestured
        exact ⟨opening.change, opening.shown, opening.timed⟩
      · rw [same]
        exact ⟨opening.change, opening.shown, opening.timed⟩
      · exact screenButtons_open env _ button member _ _ pressed
    exact ⟨opened.change, opened.shown, opened.timed⟩
  · exact ⟨opening.change, opening.shown, opening.timed⟩

/-- The first tick does not enter the statistics. -/
theorem updateTimer_opening {env : Env} (opening : Opening s)
    (updated : updateTimer env s = .ok next) :
    next.gameStateChange = true ∧ next.currentState ≠ .statistics := by
  rw [updateTimer_eq] at updated
  split_ifs at updated with playing expired second
  · exact absurd expired (opening.timed playing)
  · cases updated
    exact ⟨opening.change, opening.shown⟩
  · cases updated
    exact ⟨opening.change, opening.shown⟩
  · cases updated
    exact ⟨opening.change, opening.shown⟩

end Handlers

/-! ### Whole runs -/

/-- How far the strokes of the program have come after so many ticks. -/
structure Freshness (count : Nat) (s : State) : Prop where
  opening : count = 0 → Opening s ∧ s.view.secondaryFrameBuffer = []
  background : 1 ≤ count → Cleared s.view.secondaryFrameBufferNoMouse
  composed : 2 ≤ count → Cleared s.view.secondaryFrameBuffer
  shown : 3 ≤ count → Cleared s.view.mainFrameBuffer
  first : count = 1 → s.view.mainFrameBuffer = []

section Ticks

variable {loaded : LoadedSprites} {count : Nat} {s next : State}

/-- Keyboard and mouse only add to the background. -/
theorem Freshness.between (fresh : Freshness count s) (opening : Opening s → Opening next)
    (paints : Paints [] s.view.buffers next.view.buffers) (adds : Adds s.view next.view) :
    Freshness count next := by
  have composed : next.view.secondaryFrameBuffer = s.view.secondaryFrameBuffer := paints.composed
  have shown : next.view.mainFrameBuffer = s.view.mainFrameBuffer := paints.shown
  refine ⟨?_, ?_, ?_, ?_, ?_⟩
  · intro none
    obtain ⟨opens, empty⟩ := fresh.opening none
    exact ⟨opening opens, composed.trans empty⟩
  · intro some
    exact adds.cleared (fresh.background some)
  · rw [composed]
    exact fresh.composed
  · rw [shown]
    exact fresh.shown
  · rw [shown]
    exact fresh.first

/-- A tick passes every buffer on. -/
theorem Freshness.tick {env : Env} {ticked : State} (fresh : Freshness count s)
    (updated : updateTimer env s = .ok ticked) (drawn : gameDrawer loaded env ticked = .ok next) :
    Freshness (count + 1) next := by
  have flipped := updateTimer_buffers updated
  have painted := gameDrawer_paints drawn
  have composed : next.view.secondaryFrameBuffer =
      overlay (movingSprites loaded env ticked) s.view.secondaryFrameBufferNoMouse := by
    have composes := painted.composed
    rw [flipped] at composes
    exact composes
  have shown : next.view.mainFrameBuffer = s.view.secondaryFrameBuffer := by
    have same := painted.shown
    rw [flipped] at same
    exact same
  have background : ticked.view.secondaryFrameBufferNoMouse = s.view.secondaryFrameBufferNoMouse :=
    congrArg Buffers.background flipped
  refine ⟨fun none => absurd none (Nat.succ_ne_zero count), ?_, ?_, ?_, ?_⟩
  · intro _
    apply gameDrawer_cleared drawn
    rw [background]
    rcases Nat.eq_zero_or_pos count with none | some
    · exact .inr (updateTimer_opening (fresh.opening none).1 updated)
    · exact .inl (fresh.background some)
  · intro two
    rw [composed]
    exact (fresh.background (by omega)).append _
  · intro three
    rw [shown]
    exact fresh.composed (by omega)
  · intro one
    rw [shown]
    exact (fresh.opening (by omega)).2

theorem perform_freshness {call : HandlerCall} (fresh : Freshness count s)
    (performed : perform loaded s call = .ok next) : Freshness (count + ticks [call]) next := by
  cases call with
  | keyboard ports env =>
      exact fresh.between (fun opening => keyHandler_opening opening performed)
        (keyHandler_paints performed) (keyHandler_adds performed)
  | mouse ports env =>
      exact fresh.between (fun opening => updateMouse_opening opening performed)
        (updateMouse_paints performed) (updateMouse_adds performed)
  | timer env =>
      obtain ⟨ticked, updated, drawn⟩ := bind_eq_ok.mp performed
      exact fresh.tick updated drawn

theorem foldlM_freshness {calls : List HandlerCall} (fresh : Freshness count s)
    (ran : calls.foldlM (perform loaded) s = .ok next) : Freshness (count + ticks calls) next := by
  induction calls generalizing count s with
  | nil =>
      cases ran
      exact fresh
  | cons call calls inductionHypothesis =>
      rw [List.foldlM_cons, bind_eq_ok] at ran
      obtain ⟨middle, performed, later⟩ := ran
      have reached := inductionHypothesis (perform_freshness fresh performed) later
      have counted : count + ticks (call :: calls) = count + ticks [call] + ticks calls := by
        simp only [ticks, List.countP_cons, List.countP_nil]
        omega
      rw [counted]
      exact reached

end Ticks

/-- The frame buffers of every run can be drawn on any memory without a write outside of it, and from
the third timer interrupt on the frame on the screen is the same whatever that memory held.  The first
timer interrupt shows nothing but the memory of the secondary buffer. -/
theorem frames_forget_memory (mode : Mode) (wide : mode.xResolution = 1152)
    (high : mode.yResolution = 864) (artwork : Artwork) (loaded : LoadedSprites) (file : List Char)
    (messages : List Notification) (s : State) (ran : run loaded file messages = .ok s) :
    (∀ strokes ∈ [s.view.mainFrameBuffer, s.view.secondaryFrameBuffer,
        s.view.secondaryFrameBufferNoMouse], ∀ memory : List UInt8, memory.length = mode.frameSize →
      ∃ frame, render mode artwork strokes memory = .ok frame ∧ frame.length = mode.frameSize) ∧
    (3 ≤ ticks (runCalls loaded (setup file) messages) → ∃ frame, ∀ memory : List UInt8,
      memory.length = mode.frameSize → render mode artwork s.view.mainFrameBuffer memory = .ok frame) ∧
    (ticks (runCalls loaded (setup file) messages) = 1 → s.view.mainFrameBuffer = []) := by
  have start : Freshness 0 (setup file) :=
    { opening := fun _ => ⟨⟨rfl, GameState.noConfusion, GameState.noConfusion⟩, rfl⟩
      background := fun some => absurd some (by decide)
      composed := fun some => absurd some (by decide)
      shown := fun some => absurd some (by decide)
      first := fun some => absurd some (by decide) }
  have reached : Freshness (0 + ticks (runCalls loaded (setup file) messages)) s := by
    apply foldlM_freshness start
    rw [foldlM_runCalls]
    exact ran
  rw [Nat.zero_add] at reached
  refine ⟨?_, ?_, reached.first⟩
  · intro strokes _ memory size
    exact (render_repaints mode artwork strokes).succeeds size
  · intro three
    obtain ⟨frame, -, same⟩ := render_erases artwork wide high (reached.shown three)
    exact ⟨frame, same⟩

/-- Mode `0x14C`. -/
def screenMode : Mode where
  xResolution := 1152
  yResolution := 864
  bitsPerPixel := 32
  bits_pos := by decide
  bits_le := by decide
  size_lt := by decide

/-- Three timer interrupts in the menu. -/
def threeTicks : List Notification :=
  List.replicate 3 { keyboard := none, timer := some default, mouse := none }

theorem third_tick_forgets_memory :
    screenMode.xResolution = 1152 ∧ screenMode.yResolution = 864 ∧
      ∃ s, run everySprite [] threeTicks = .ok s ∧
        ticks (runCalls everySprite (setup []) threeTicks) = 3 ∧
        ∃ frame, ∀ memory : List UInt8, memory.length = screenMode.frameSize →
          render screenMode (fun _ => halfVisible) s.view.mainFrameBuffer memory = .ok frame := by
  have checked : (run everySprite [] threeTicks).toOption.any
      (fun _ => ticks (runCalls everySprite (setup []) threeTicks) == 3) = true := by
    decide +kernel
  obtain ⟨s, ran, counted⟩ := exists_ok_of_any checked
  have three := beq_iff_eq.mp counted
  exact ⟨rfl, rfl, s, ran, three,
    (frames_forget_memory screenMode rfl rfl (fun _ => halfVisible) everySprite [] threeTicks s
      ran).2.1 (by rw [three])⟩

end TypingTutor
