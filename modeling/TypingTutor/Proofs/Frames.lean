/-
Module: TypingTutor.Proofs.Frames
Layer: Proofs
Purpose: The three frame buffers.  Every drawing function paints either sprites over the secondary
  buffer or strokes into the background, keyboard and mouse handlers paint the background only, and the
  timer interrupt flips the buffers before it draws.  So a frame on the screen is the background of the
  tick before under the moving sprites of that tick.
Trusted boundary: none
Main exports: View.buffers, movingSprites, gameDrawer_paints, keyHandler_paints, updateMouse_paints,
  no_trails
-/
import TypingTutor.Lib.DoubleBuffer
import TypingTutor.Proofs.HandlerCalls
import TypingTutor.Proofs.Layout

namespace TypingTutor

open CFormat Runs DoubleBuffer

/-- `main_frame_buffer`, `secondary_frame_buffer` and `secondary_frame_buffer_no_mouse`. -/
def View.buffers (view : View) : Buffers DrawOp :=
  { shown := view.mainFrameBuffer
    composed := view.secondaryFrameBuffer
    background := view.secondaryFrameBufferNoMouse }

/-! ### The moving sprites -/

/-- Glyphs side by side, up to the first that is missing. -/
def glyphRow (loaded : LoadedSprites) (step : Int) : List Char → Int → Int → List DrawOp
  | [], _, _ => []
  | c :: text, x, y =>
      match keySpriteMap loaded (charToKey c) with
      | none => []
      | some name => .sprite name x y none :: glyphRow loaded step text (x + step) y

/-- `HH:MM:SS`. -/
def clockText (now : RealTimeInfo) : List Char :=
  printPadded 2 now.hours.toNat ++ ':' ::
    (printPadded 2 now.minutes.toNat ++ ':' :: printPadded 2 now.seconds.toNat)

/-- The clock, in the lower right corner. -/
def clockSprites (loaded : LoadedSprites) (now : RealTimeInfo) : List DrawOp :=
  glyphRow loaded 13 (clockText now) (xResolution - 13 * 8 - 10) (yResolution - 40)

/-- The remaining time, in the lower left corner. -/
def timeSprites (loaded : LoadedSprites) (timer : Int) : List DrawOp :=
  glyphRow loaded 13 (printInt timer) 10 (yResolution - 40)

/-- The stars that are left, from star `i` on. -/
def starRow (loaded : LoadedSprites) (count : Nat) (i : Int) : List DrawOp :=
  if loaded .star then
    (List.range count).map fun (k : Nat) =>
      .sprite .star (starSprite.x + (i + k) * 30) starSprite.y none
  else []

/-- The cursor, at its clamped position. -/
def cursorSprites (loaded : LoadedSprites) (cursor : Sprite) : List DrawOp :=
  if loaded .cursor then [.sprite .cursor (clampCursor cursor).x (clampCursor cursor).y none] else []

/-- The moving sprites of a frame, in the order in which they are drawn.  A game shows clock, time and
stars; its first frame draws time and clock twice. -/
def movingSprites (loaded : LoadedSprites) (env : Env) (s : State) : List DrawOp :=
  (if s.currentState = .game then
    (if s.gameStateChange then timeSprites loaded s.timer ++ clockSprites loaded (env.rtc 2) else []) ++
      (clockSprites loaded (env.rtc 3) ++ timeSprites loaded s.timer ++
        starRow loaded s.stars.toNat 0)
  else []) ++ cursorSprites loaded s.cursor

section Drawing

variable {loaded : LoadedSprites}

/-! ### Drawing functions over the secondary buffer -/

theorem drawSpriteXPM_floats (name : SpriteName) (x y : Int) (color : Option UInt32) (view : View) :
    Floats [.sprite name x y color] view.buffers
      (drawSpriteXPM (some name) x y color true view).1.buffers :=
  ⟨⟨rfl, rfl⟩, rfl⟩

theorem drawGlyphs_floats (step : Int) (text : List Char) (x y : Int) (view : View) :
    Floats (glyphRow loaded step text x y) view.buffers
      (drawGlyphs loaded true step text x y view).1.buffers := by
  induction text generalizing x view with
  | nil => exact .refl view.buffers
  | cons c text inductionHypothesis =>
      rw [glyphRow, drawGlyphs]
      cases keySpriteMap loaded (charToKey c) with
      | none => exact .refl view.buffers
      | some name =>
          have drawn := drawSpriteXPM_floats name x y none view
          exact drawn.trans (inductionHypothesis (x + step) _)

theorem drawRecordedTime_floats (timer : Int) (view : View) :
    Floats (timeSprites loaded timer) view.buffers (drawRecordedTime loaded timer view).buffers :=
  drawGlyphs_floats 13 (printInt timer) 10 (yResolution - 40) view

theorem drawRealTime_floats (now : RealTimeInfo) (view : View) :
    Floats (clockSprites loaded now) view.buffers (drawRealTime loaded now view).buffers :=
  drawGlyphs_floats 13 (clockText now) _ _ { view with timeInfo := now }

theorem starRow_succ (count : Nat) (i : Int) (present : loaded .star = true) :
    starRow loaded (count + 1) i =
      .sprite .star (starSprite.x + i * 30) starSprite.y none :: starRow loaded count (i + 1) := by
  have later : ∀ k : Nat, i + (k + 1 : Nat) = i + 1 + k := by
    intro k
    omega
  rw [starRow, starRow, if_pos present, if_pos present, List.range_succ_eq_map, List.map_cons,
    List.map_map]
  simp only [Function.comp_def, later, Nat.cast_zero, Int.add_zero]

theorem drawStarsLoop_floats (count : Nat) (i : Int) (view : View) :
    Floats (starRow loaded count i) view.buffers (drawStarsLoop loaded count i view).buffers := by
  cases present : loaded .star with
  | false =>
      have missing : spritePointer loaded .star = none := by
        rw [spritePointer, present]
        rfl
      rw [starRow, if_neg (by rw [present]; simp)]
      cases count with
      | zero => exact .refl view.buffers
      | succ count =>
          rw [drawStarsLoop, missing]
          exact .refl view.buffers
  | true =>
      have pointer : spritePointer loaded .star = some .star := by
        rw [spritePointer, if_pos present]
      induction count generalizing i view with
      | zero =>
          rw [starRow, if_pos present]
          exact .refl view.buffers
      | succ count inductionHypothesis =>
          have drawn := drawSpriteXPM_floats .star (starSprite.x + i * 30) starSprite.y none view
          rw [starRow_succ count i present, drawStarsLoop, pointer]
          exact drawn.trans (inductionHypothesis (i + 1) _)

theorem drawStars_floats (stars : Int) (view : View) :
    Floats (starRow loaded stars.toNat 0) view.buffers (drawStars loaded stars view).buffers :=
  drawStarsLoop_floats stars.toNat 0 view

theorem drawCursor_floats (cursor : Sprite) (view : View) :
    Floats (cursorSprites loaded cursor) view.buffers
      (drawCursor loaded (clampCursor cursor) view).buffers := by
  rw [cursorSprites, drawCursor, spritePointer]
  split
  · exact drawSpriteXPM_floats .cursor _ _ none view
  · exact .refl view.buffers

/-! ### Drawing functions into the background -/

theorem drawRectangle_paints (x y width height : Int) (color : UInt32) (view : View) :
    Paints [] view.buffers (drawRectangle x y width height color view).buffers :=
  ⟨rfl, rfl⟩

theorem drawSpriteXPM_paints (sprite : Option SpriteName) (x y : Int) (color : Option UInt32)
    (view : View) :
    Paints [] view.buffers (drawSpriteXPM sprite x y color false view).1.buffers := by
  cases sprite with
  | none => exact .refl view.buffers
  | some name => exact ⟨rfl, rfl⟩

theorem drawStatic_paints (name : SpriteName) (sprite : Sprite) (view : View) :
    Paints [] view.buffers (drawStatic loaded name sprite view).buffers :=
  drawSpriteXPM_paints _ _ _ none view

/-- Offsets are not drawn. -/
theorem offsetHandler_paints (x endX : Int) (view : View) :
    Paints [] view.buffers (offsetHandler x endX view).buffers := by
  unfold offsetHandler
  split
  · exact .refl view.buffers
  · exact .refl view.buffers

theorem drawTextLoop_paints (color : UInt32) (startX endX : Int) (text : List Char) (view : View) :
    Paints [] view.buffers (drawTextLoop loaded color startX endX text view).buffers := by
  induction text generalizing view with
  | nil => exact .refl view.buffers
  | cons c text inductionHypothesis =>
      rw [drawTextLoop]
      split
      · exact inductionHypothesis { view with xOffset := startX, yOffset := view.yOffset + 22 }
      · refine Paints.settle ?_ (inductionHypothesis _)
        refine Paints.settle ?_ (offsetHandler_paints startX endX _)
        cases keySpriteMap loaded (charToKey c) with
        | none => exact .refl view.buffers
        | some name => exact drawSpriteXPM_paints _ _ _ _ view

theorem drawText_paints (text : List Char) (color : UInt32) (startX endX startY : Int) (view : View) :
    Paints [] view.buffers (drawText loaded text color startX endX startY view).buffers :=
  drawTextLoop_paints color startX endX text { view with xOffset := startX, yOffset := startY }

theorem drawGlyphs_paints (step : Int) (text : List Char) (x y : Int) (view : View) :
    Paints [] view.buffers (drawGlyphs loaded false step text x y view).1.buffers := by
  induction text generalizing x view with
  | nil => exact .refl view.buffers
  | cons c text inductionHypothesis =>
      have drawn := drawSpriteXPM_paints (keySpriteMap loaded (charToKey c)) x y none view
      rw [drawGlyphs]
      split
      · exact drawn
      · exact drawn.settle (inductionHypothesis (x + step) _)

theorem drawBackground_paints (now : RealTimeInfo) (state : GameState) (view : View) :
    Paints [] view.buffers (drawBackground now state view).buffers := by
  by_cases boxed : state = .game ∨ state = .instructions
  · simp only [drawBackground, if_pos boxed]
    exact ⟨rfl, rfl⟩
  · simp only [drawBackground, if_neg boxed]
    exact ⟨rfl, rfl⟩

theorem drawStatistics_paints (stats : Statistics) (view : View) :
    Paints [] view.buffers (drawStatistics loaded stats view).buffers := by
  have number : ∀ (value x y : Int) (view : View),
      Paints [] view.buffers (drawInt loaded value x y view).1.buffers := by
    intro value x y view
    exact drawGlyphs_paints 16 (printInt value) x y view
  simp only [drawStatistics]
  split
  · exact number _ _ _ view
  refine (number (shownAccuracy stats) (statisticsBoxX + 368) (statisticsBoxY + 110) view).settle ?_
  split
  · exact number _ _ _ _
  refine (number (shownSpeed stats) (statisticsBoxX + 322) (statisticsBoxY + 132) _).settle ?_
  split
  · exact number _ _ _ _
  exact (number stats.typedWords (statisticsBoxX + 258) (statisticsBoxY + 154) _).settle
    (number _ _ _ _)

theorem deleteCaret_paints (view : View) : Paints [] view.buffers (deleteCaret view).buffers :=
  drawRectangle_paints _ _ _ _ beige view

theorem drawCaret_paints (x y : Int) (view : View) :
    Paints [] view.buffers (drawCaret x y view).buffers :=
  ⟨rfl, rfl⟩

theorem drawLetters_paints (word : Word) (caretAt : Option Nat) (letters : List Letter) (j : Nat)
    (view : View) :
    Paints [] view.buffers (drawLetters loaded word caretAt j letters view).1.buffers := by
  induction letters generalizing j view with
  | nil => exact .refl view.buffers
  | cons letter rest inductionHypothesis =>
      have marked : Paints [] view.buffers (markLetter caretAt j view).buffers := by
        rw [markLetter]
        split
        · exact (deleteCaret_paints view).settle (drawCaret_paints _ _ _)
        · exact .refl view.buffers
      rcases drawLetters_round loaded word caretAt letter rest j view with
        ⟨-, round⟩ | ⟨-, name, round⟩
      · rw [round]
        exact marked
      · rw [round]
        have put : Paints [] (markLetter caretAt j view).buffers
            (putLetter name word letter (markLetter caretAt j view)).buffers := ⟨rfl, rfl⟩
        exact (marked.settle put).settle (inductionHypothesis (j + 1) _)

theorem drawWordsLoop_paints (test : TypingTest) (words : List Word) (i : Nat) (line : Int)
    (view : View) :
    Paints [] view.buffers (drawWordsLoop loaded test i line words view).2.1.buffers := by
  induction words generalizing i line view with
  | nil => exact .refl view.buffers
  | cons word rest inductionHypothesis =>
      by_cases inside : i < test.wordCount
      · have drawn : Paints [] view.buffers (drawWord loaded test i line word view).1.buffers :=
          drawLetters_paints _ _ word.letters 0 view
        rcases drawWordsLoop_round loaded test line word rest view inside with
          ⟨-, round⟩ | ⟨-, -, next, others, line', view', -, goes, round⟩
        · rw [round]
          exact drawn
        · rw [round]
          have same : view'.buffers = (drawWord loaded test i line word view).1.buffers := by
            rw [lineBreak] at goes
            split_ifs at goes
            all_goals
              cases goes
              rfl
          rw [← same] at drawn
          exact drawn.settle (inductionHypothesis (i + 1) line' view')
      · rw [drawWordsLoop, if_neg inside]
        exact .refl view.buffers

theorem drawWords_paints (test : TypingTest) (view : View) :
    Paints [] view.buffers (drawWords loaded test view).2.buffers :=
  drawWordsLoop_paints test test.words 0 0 (resetOffset view)

theorem drawAnimation_paints (animation : Animation) (x y : Int) (view : View) :
    Paints [] view.buffers (drawAnimation loaded animation x y view).buffers := by
  unfold drawAnimation
  split
  · exact drawSpriteXPM_paints _ _ _ _ view
  · split
    · exact .refl view.buffers
    · cases animation.frames[animation.currentFrame.toNat]? with
      | none => exact .refl view.buffers
      | some frame => exact drawSpriteXPM_paints _ _ _ _ view

theorem drawAnimationBoth_paints (happy mad : Animation) (view : View) :
    Paints [] view.buffers (drawAnimationBoth loaded happy mad view).buffers := by
  unfold drawAnimationBoth
  split
  · exact drawAnimation_paints happy _ _ view
  · split
    · exact drawAnimation_paints mad _ _ view
    · exact drawSpriteXPM_paints _ _ _ _ view

theorem drawScoreRows_paints (entries : List HighScore) (rank y : Int) (view : View) :
    Paints [] view.buffers (drawScoreRows loaded entries rank y view).1.buffers := by
  induction entries generalizing rank y view with
  | nil => exact .refl view.buffers
  | cons score rest inductionHypothesis =>
      exact (drawText_paints _ white _ _ y view).settle (inductionHypothesis (rank + 1) (y + 28) _)

theorem drawHighScores_paints (now : RealTimeInfo) (entries : List HighScore) (backButton : Sprite)
    (view : View) :
    Paints [] view.buffers (drawHighScores loaded now entries backButton view).2.buffers := by
  have titled := (drawBackground_paints now .highscores view).settle
    (@drawText_paints loaded "HIGHSCORES".toList white
      (xResolution / 2 - ("HIGHSCORES".toList.length : Int) * 20 / 2)
      (xResolution / 2 + ("HIGHSCORES".toList.length : Int) * 20 / 2) yMargin _)
  exact (titled.settle (drawScoreRows_paints entries 1 (yMargin + 40) _)).settle
    (drawStatic_paints _ _ _)

theorem drawTimers_paints (view : View) :
    Paints [] view.buffers (drawTimers loaded view).buffers := by
  have button : ∀ (name : SpriteName) (sprite : Sprite) (view : View), Paints [] view.buffers
      (drawSpriteXPM (spritePointer loaded name) sprite.x sprite.y none false view).1.buffers := by
    intro name sprite view
    exact drawSpriteXPM_paints _ _ _ none view
  have text := (@drawText_paints loaded timerSelection white xMargin (xResolution - xMargin) yMargin
    view).settle (button .timer15 timer15Sprite _)
  simp only [drawTimers]
  split
  · exact text
  · have second := text.settle (button .timer30 timer30Sprite _)
    split
    · exact second
    · exact second.settle (button .timer60 timer60Sprite _)

/-! ### The timer interrupt -/

/-- `update_timer` flips the buffers. -/
theorem updateTimer_buffers {env : Env} {s ticked : State} (updated : updateTimer env s = .ok ticked) :
    ticked.view.buffers = s.view.buffers.flip := by
  rw [updateTimer_eq] at updated
  split_ifs at updated with playing expired second
  · obtain ⟨_, _, _, _, _, _, _, rfl, -⟩ := setGameState_enteredFrom updated
    rfl
  · cases updated
    rfl
  · cases updated
    rfl
  · cases updated
    rfl

theorem redrawWords_paints (test : TypingTest) (s : State) :
    Paints [] s.view.buffers (redrawWords loaded test s).view.buffers :=
  drawWords_paints test s.view

/-- A new screen is background, except that a game shows time and clock from the start. -/
theorem drawScreen_paints {env : Env} {s next : State} (drawn : drawScreen loaded env s = .ok next) :
    Paints
      (if s.currentState = .game then timeSprites loaded s.timer ++ clockSprites loaded (env.rtc 2)
        else [])
      s.view.buffers next.view.buffers := by
  unfold drawScreen at drawn
  split at drawn
  · rename_i shown
    cases drawn
    rw [shown, if_neg (by simp)]
    refine (drawBackground_paints (env.rtc 1) .menu s.view).settle ?_
    refine (@drawStatic_paints loaded .panda pandaSprite _).settle ?_
    refine (@drawStatic_paints loaded .bambuLeft bambuLeftSprite _).settle ?_
    refine (@drawStatic_paints loaded .bambuRight bambuRightSprite _).settle ?_
    refine (@drawStatic_paints loaded .play playSprite _).settle ?_
    refine (@drawStatic_paints loaded .instructions instructionsSprite _).settle ?_
    exact drawStatic_paints .highscores highscoresSprite _
  · rename_i shown
    obtain ⟨test, -, returned⟩ := bind_eq_ok.mp drawn
    cases returned
    rw [shown, if_pos rfl]
    have timed := (drawBackground_paints (env.rtc 1) .game s.view).trans
      (@drawRecordedTime_floats loaded s.timer _).toPaints
    have worded := timed.settle (@redrawWords_paints loaded test
      { s with view := drawRecordedTime loaded s.timer (drawBackground (env.rtc 1) .game s.view) })
    exact worded.trans (drawRealTime_floats (env.rtc 2) _).toPaints
  · rename_i shown
    cases drawn
    rw [shown, if_neg (by simp)]
    exact (drawBackground_paints (env.rtc 1) .timers s.view).settle (drawTimers_paints _)
  · rename_i shown
    cases drawn
    rw [shown, if_neg (by simp)]
    have text := @drawText_paints loaded gameInstructions grey xMargin (xResolution - xMargin) 100
      (drawBackground (env.rtc 1) .instructions s.view)
    dsimp only
    exact (drawBackground_paints (env.rtc 1) .instructions s.view).settle text
  · rename_i shown
    obtain ⟨stats, -, returned⟩ := bind_eq_ok.mp drawn
    cases returned
    rw [shown, if_neg (by simp)]
    have text := @drawText_paints loaded statisticsMessage grey statisticsBoxX
      (statisticsBoxX + statisticsBoxSizeX) statisticsBoxY
      (drawRectangle statisticsBoxX statisticsBoxY statisticsBoxSizeX statisticsBoxSizeY white s.view)
    refine (drawRectangle_paints statisticsBoxX statisticsBoxY statisticsBoxSizeX statisticsBoxSizeY
      white s.view).settle (text.settle ?_)
    refine (@drawStatistics_paints loaded stats _).settle ?_
    refine (@drawStatic_paints loaded .backToMenu backToMenuSprite _).settle ?_
    exact drawStatic_paints .playAgain playAgainSprite _
  · rename_i shown
    cases drawn
    rw [shown, if_neg (by simp)]
    exact drawHighScores_paints (env.rtc 1) _ _ s.view

/-- What is drawn in every frame. -/
theorem drawFrame_paints {env : Env} {s next : State} (drawn : drawFrame loaded env s = .ok next) :
    Paints
      ((if s.currentState = .game then
        clockSprites loaded (env.rtc 3) ++ timeSprites loaded s.timer ++ starRow loaded s.stars.toNat 0
      else []) ++ cursorSprites loaded s.cursor)
      s.view.buffers next.view.buffers := by
  unfold drawFrame at drawn
  split at drawn
  · rename_i shown
    cases drawn
    rw [shown, if_pos rfl]
    have clocked := (@drawRealTime_floats loaded (env.rtc 3) s.view).toPaints
    have timed := clocked.trans (@drawRecordedTime_floats loaded s.timer _).toPaints
    have starred := timed.trans (@drawStars_floats loaded s.stars _).toPaints
    have pointed := starred.trans (@drawCursor_floats loaded s.cursor _).toPaints
    exact pointed.settle (drawAnimationBoth_paints s.happyAnimation s.madAnimation _)
  · rename_i other
    cases drawn
    rw [if_neg other]
    exact (drawCursor_floats s.cursor s.view).toPaints

/-- `GameDrawer` paints the moving sprites of the frame. -/
theorem gameDrawer_paints {env : Env} {s next : State} (drawn : gameDrawer loaded env s = .ok next) :
    Paints (movingSprites loaded env s) s.view.buffers next.view.buffers := by
  rw [gameDrawer_eq] at drawn
  unfold movingSprites
  by_cases changed : s.gameStateChange = true
  · rw [if_pos changed] at drawn ⊢
    obtain ⟨shown, screen, frame⟩ := bind_eq_ok.mp drawn
    have same := drawScreen_cursor screen
    have painted := drawFrame_paints frame
    have both := (drawScreen_paints screen).trans painted
    obtain ⟨_, _, _, _, _, rfl⟩ := drawScreen_drawnFrom screen
    rw [← same]
    by_cases playing : s.currentState = .game
    · simp only [if_pos playing] at both ⊢
      rw [List.append_assoc]
      exact both
    · simp only [if_neg playing] at both ⊢
      exact both
  · rw [if_neg changed] at drawn ⊢
    exact drawFrame_paints drawn

/-! ### Keyboard and mouse -/

theorem processKey_paints {c : Char} {key : Key} {s next : State}
    (typed : processKey loaded c key s = .ok next) :
    Paints [] s.view.buffers next.view.buffers := by
  unfold processKey at typed
  split at typed
  · simp only [bind_eq_ok] at typed
    obtain ⟨test, -, word, -, typed⟩ := typed
    have erased : Paints [] s.view.buffers (if test.currentInputIndex + 1 = word.length then
        { s with view := deleteCaret s.view } else s).view.buffers := by
      split
      · exact deleteCaret_paints s.view
      · exact .refl s.view.buffers
    split at typed
    · simp only [bind_eq_ok] at typed
      obtain ⟨stats, -, typed⟩ := typed
      cases typed
      exact erased.settle (drawWords_paints _ _)
    · cases typed
      exact erased
  · cases typed
    exact .refl s.view.buffers

theorem handleSpaceKey_paints {env : Env} {s next : State}
    (typed : handleSpaceKey loaded env s = .ok next) :
    Paints [] s.view.buffers next.view.buffers := by
  simp only [handleSpaceKey, bind_eq_ok] at typed
  obtain ⟨test, -, word, -, stats, -, typed⟩ := typed
  cases typed
  have judged : (if isCorrect word then
      { s with happyAnimation := startAnimation s.happyAnimation }
      else { s with madAnimation := startAnimation s.madAnimation }).view = s.view := by
    split
    · rfl
    · rfl
  generalize (if isCorrect word then
    { s with happyAnimation := startAnimation s.happyAnimation }
    else { s with madAnimation := startAnimation s.madAnimation }) = animated at judged ⊢
  rw [← judged]
  refine Paints.settle ?_ (redrawWords_paints _ _)
  -- A scroll clears the screen first.
  split
  · exact drawBackground_paints _ _ animated.view
  · exact .refl animated.view.buffers

theorem handleDeleteKey_paints {s next : State} (typed : handleDeleteKey loaded s = .ok next) :
    Paints [] s.view.buffers next.view.buffers := by
  simp only [handleDeleteKey, bind_eq_ok] at typed
  obtain ⟨test, -, word, -, typed⟩ := typed
  cases typed
  exact redrawWords_paints _ s

theorem dispatchScancode_paints {env : Env} {s next : State}
    (done : dispatchScancode loaded env s = .ok next) :
    Paints [] s.view.buffers next.view.buffers := by
  rcases dispatchScancode_cases loaded env s with
    ⟨key, dispatched⟩ | ⟨c, -, dispatched⟩ | ⟨-, -, dispatched⟩ | ⟨-, dispatched⟩
  · rw [dispatched] at done
    cases done
    exact .refl s.view.buffers
  · exact processKey_paints (dispatched.symm.trans done)
  · exact handleSpaceKey_paints (dispatched.symm.trans done)
  · have painted := handleDeleteKey_paints (dispatched.symm.trans done)
    exact painted

theorem setGameState_view {env : Env} {caller : Caller} {target : GameState} {s next : State}
    (changed : setGameState env caller target s = .ok next) : next.view = s.view := by
  obtain ⟨_, _, _, _, _, _, _, rfl, -⟩ := setGameState_enteredFrom changed
  rfl

/-- The keyboard interrupt leaves the main and the secondary buffer alone. -/
theorem keyHandler_paints {ports : PortReads} {env : Env} {s next : State}
    (done : keyHandler loaded ports env s = .ok next) :
    Paints [] s.view.buffers next.view.buffers := by
  rw [keyHandler_eq] at done
  obtain ⟨typed, updated, left⟩ := bind_eq_ok.mp done
  have painted := dispatchScancode_paints updated
  have same : next.view = typed.view := by
    unfold leaveByKey at left
    split_ifs at left with inMenu enter escape
    · exact setGameState_view left
    · cases left
      rfl
    · obtain ⟨changed, change, cleared⟩ := bind_eq_ok.mp left
      cases cleared
      have kept := setGameState_view change
      exact kept
    · cases left
      rfl
  rw [same]
  exact painted

theorem checkGesture_paints {s next : State} (acted : checkGesture loaded s = .ok next) :
    Paints [] s.view.buffers next.view.buffers := by
  rcases checkGesture_cases acted with ⟨gesture, xGesture, rfl⟩ | ⟨xGesture, filled, filling, rfl⟩
  · exact .refl s.view.buffers
  · obtain ⟨test, word, rfl⟩ := fillCurrentWord_inv filling
    exact drawWords_paints _ s.view

theorem checkActions_paints {env : Env} {s next : State}
    (acted : checkActions loaded env s = .ok next) :
    Paints [] s.view.buffers next.view.buffers := by
  by_cases playing : s.currentState = .game
  · rw [checkActions_game env playing] at acted
    exact checkGesture_paints acted
  · rw [checkActions_eq loaded env playing] at acted
    cases hit : hitButton env s with
    | none =>
        rw [hit] at acted
        cases acted
        exact .refl s.view.buffers
    | some button =>
        rw [hit] at acted
        obtain ⟨_, _, _, _, _, _, _, _, _, -, rfl⟩ :=
          screenButtons_pressedFrom env s button (List.mem_of_find?_eq_some hit) s next acted
        exact .refl s.view.buffers

/-- The mouse interrupt leaves the main and the secondary buffer alone. -/
theorem updateMouse_paints {ports : PortReads} {env : Env} {s next : State}
    (done : updateMouse loaded ports env s = .ok next) :
    Paints [] s.view.buffers next.view.buffers := by
  rcases updateMouse_inv done with ⟨pp, acted, acting, rfl⟩ | ⟨-, rfl⟩
  · have painted := checkActions_paints acting
    exact painted
  · exact .refl s.view.buffers

end Drawing

/-! ### Whole runs -/

/-- A tick: what the world answers during it, and the state right after its `update_timer`. -/
def tickAt (s : State) : HandlerCall → Option (Env × State)
  | .timer env => (updateTimer env s).toOption.map fun ticked => (env, ticked)
  | _ => none

/-- The second of two ticks shows the background of the first under the moving sprites that
`GameDrawer` drew in the first, and nothing else. -/
def ShowsFrameOf (loaded : LoadedSprites) (first second : Env × State) : Prop :=
  second.2.view.mainFrameBuffer =
    overlay (movingSprites loaded first.1 first.2) first.2.view.secondaryFrameBufferNoMouse

/-- The handlers other than the timer interrupt leave main and secondary buffer as they are. -/
def OnlyTimerShows (loaded : LoadedSprites) : Prop :=
  ∀ s next call, call.isTimer = false → perform loaded s call = .ok next →
    next.view.mainFrameBuffer = s.view.mainFrameBuffer ∧
      next.view.secondaryFrameBuffer = s.view.secondaryFrameBuffer

/-- Moving sprites leave the background as it is. -/
structure SpritesFloat (loaded : LoadedSprites) : Prop where
  sprite : ∀ sprite x y color view,
    (drawSpriteXPM sprite x y color true view).1.secondaryFrameBufferNoMouse =
      view.secondaryFrameBufferNoMouse
  clock : ∀ now view, (drawRealTime loaded now view).secondaryFrameBufferNoMouse =
    view.secondaryFrameBufferNoMouse
  time : ∀ timer view, (drawRecordedTime loaded timer view).secondaryFrameBufferNoMouse =
    view.secondaryFrameBufferNoMouse
  stars : ∀ stars view, (drawStars loaded stars view).secondaryFrameBufferNoMouse =
    view.secondaryFrameBufferNoMouse
  cursor : ∀ cursor view, (drawCursor loaded cursor view).secondaryFrameBufferNoMouse =
    view.secondaryFrameBufferNoMouse

theorem onlyTimerShows (loaded : LoadedSprites) : OnlyTimerShows loaded := by
  intro s next call noTimer performed
  cases call with
  | timer env => cases noTimer
  | keyboard ports env =>
      have painted := keyHandler_paints performed
      exact ⟨painted.shown, painted.composed⟩
  | mouse ports env =>
      have painted := updateMouse_paints performed
      exact ⟨painted.shown, painted.composed⟩

theorem spritesFloat (loaded : LoadedSprites) : SpritesFloat loaded where
  sprite := by
    intro sprite x y color view
    cases sprite with
    | none => rfl
    | some name => rfl
  clock := fun now view => (drawRealTime_floats now view).background
  time := fun timer view => (drawRecordedTime_floats timer view).background
  stars := fun stars view => (drawStars_floats stars view).background
  cursor := by
    intro cursor view
    unfold drawCursor
    cases spritePointer loaded .cursor with
    | none => rfl
    | some name => rfl

/-- A tick waits to be shown: its moving sprites have been painted since its flip. -/
def WaitsToShow (loaded : LoadedSprites) (tick : Env × State) (s : State) : Prop :=
  ∃ before : Buffers DrawOp, tick.2.view.buffers = before.flip ∧
    Paints (movingSprites loaded tick.1 tick.2) before.flip s.view.buffers

theorem tickAt_eq_some {s : State} {call : HandlerCall} {now : Env × State}
    (ticked : tickAt s call = some now) :
    call = .timer now.1 ∧ updateTimer now.1 s = .ok now.2 := by
  cases call with
  | keyboard ports env => cases ticked
  | mouse ports env => cases ticked
  | timer env =>
      change (updateTimer env s).toOption.map (fun ticked => (env, ticked)) = some now at ticked
      cases updated : updateTimer env s with
      | error fault =>
          rw [updated] at ticked
          cases ticked
      | ok next =>
          rw [updated] at ticked
          cases ticked
          exact ⟨rfl, updated⟩

/-- In every run, each tick shows exactly the frame that the tick before it has drawn. -/
theorem no_trails (loaded : LoadedSprites) (file : List Char) (messages : List Notification) :
    (observations (perform loaded) tickAt (setup file)
        (runCalls loaded (setup file) messages)).IsChain (ShowsFrameOf loaded) ∧
      OnlyTimerShows loaded ∧ SpritesFloat loaded := by
  refine ⟨?_, onlyTimerShows loaded, spritesFloat loaded⟩
  apply @isChain_observations _ _ _ _ _ _ _ (WaitsToShow loaded)
  · intro s call now next ticked performed
    obtain ⟨rfl, updated⟩ := tickAt_eq_some ticked
    change updateTimer now.1 s >>= gameDrawer loaded now.1 = .ok next at performed
    rw [updated] at performed
    have flipped := updateTimer_buffers updated
    refine ⟨s.view.buffers, flipped, ?_⟩
    rw [← flipped]
    exact gameDrawer_paints performed
  · intro seen s call next waits quiet performed
    obtain ⟨before, flipped, painted⟩ := waits
    refine ⟨before, flipped, painted.settle ?_⟩
    cases call with
    | keyboard ports env => exact keyHandler_paints performed
    | mouse ports env => exact updateMouse_paints performed
    | timer env =>
        obtain ⟨ticked, updated, -⟩ := bind_eq_ok.mp performed
        change (updateTimer env s).toOption.map (fun ticked => (env, ticked)) = none at quiet
        rw [updated] at quiet
        cases quiet
  · intro seen s call now waits ticked
    obtain ⟨before, flipped, painted⟩ := waits
    obtain ⟨-, updated⟩ := tickAt_eq_some ticked
    have shown : now.2.view.buffers.shown = s.view.buffers.flip.shown := by
      rw [updateTimer_buffers updated]
    have background : seen.2.view.buffers.background = before.flip.background := by rw [flipped]
    change now.2.view.buffers.shown = overlay _ seen.2.view.buffers.background
    rw [shown, background]
    exact painted.shown_flip

end TypingTutor
