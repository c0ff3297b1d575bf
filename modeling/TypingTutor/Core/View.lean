/-
Module: TypingTutor.Core.View
Layer: Core
Purpose: The drawing code of `view.c` and the layout state it keeps.  A frame buffer is the list of
  drawing calls that made its contents (newest first), so copying a buffer is copying a list and every
  layer can be inspected.  Functions that only draw act on `View`; `drawWords` also writes the
  position and line fields of the words, and `drawCursor` clamps the cursor sprite.
Trusted boundary: human-reviewed spec
Main exports: DrawOp, View, drawSpriteXPM, drawText, drawBackground, drawWords, drawCursor,
  drawStatistics, drawHighScores, drawAnimationBoth
-/
import TypingTutor.Core.HighScores
import TypingTutor.Lib.Binary64
import Mathlib.Data.Rat.Floor

namespace TypingTutor

open CFormat Binary64

/-! ### Colours of `VBE.h` -/

def red : UInt32 := 0xff0000
def beige : UInt32 := 0xE0CE75
def white : UInt32 := 0xFFFFFF
def grey : UInt32 := 0x808080
def colorMorning : UInt32 := 0x8FD188
def colorAfternoon : UInt32 := 0x62B05A
def colorEvening : UInt32 := 0x4C9E44
def colorNight : UInt32 := 0x34822c

/-! ### Buffers and layout state -/

/-- One drawing call into a frame buffer.  A sprite is drawn in its own colours (`none`) or in a
single colour. -/
inductive DrawOp where
  | rectangle (x y width height : Int) (color : UInt32)
  | sprite (name : SpriteName) (x y : Int) (color : Option UInt32)
deriving Repr, DecidableEq

/-- The globals of `view.c` and the drawing globals of `model.c`. -/
structure View where
  xOffset : Int
  yOffset : Int
  caret : Caret
  bgColor : UInt32
  timeInfo : RealTimeInfo
  mainFrameBuffer : List DrawOp
  secondaryFrameBuffer : List DrawOp
  secondaryFrameBufferNoMouse : List DrawOp
deriving Repr, DecidableEq, Inhabited

/-- The sprites that the program reads through pointers it does not check: those that
`initialize_sprites` places, the cursor, the star and the panda at rest. -/
def uncheckedSprites : List SpriteName :=
  [.panda, .bambuLeft, .bambuRight, .play, .backToMenu, .backToMenuHighscore, .playAgain, .instructions,
    .highscores, .timer15, .timer30, .timer60, .cursor, .star, .panda0]

/-- Which sprites `create_sprite_xpm` managed to load; the pointer of any other sprite is null.  Without
one of the unchecked sprites the program would read through a null pointer. -/
structure LoadedSprites where
  isLoaded : SpriteName → Bool
  unchecked : ∀ name ∈ uncheckedSprites, isLoaded name = true

instance : CoeFun LoadedSprites fun _ => SpriteName → Bool := ⟨LoadedSprites.isLoaded⟩

/-- Every sprite is loaded. -/
def everySprite : LoadedSprites := { isLoaded := fun _ => true, unchecked := fun _ _ => rfl }

/-- `key_sprite_map[key]`, null for keys without a glyph. -/
def keySpriteMap (loaded : LoadedSprites) (key : Key) : Option SpriteName :=
  match key with
  | .noneKey | .enter | .back | .esc => none
  | key => if loaded (.glyph key) then some (.glyph key) else none

/-- `draw_rectangle` into `secondary_frame_buffer_no_mouse`; it always returns 0. -/
def drawRectangle (x y width height : Int) (color : UInt32) (view : View) : View :=
  { view with
    secondaryFrameBufferNoMouse :=
      .rectangle x y width height color :: view.secondaryFrameBufferNoMouse }

/-- `drawSpriteXPM`; the flag is the C return value, set when the sprite pointer is null. -/
def drawSpriteXPM (sprite : Option SpriteName) (x y : Int) (color : Option UInt32) (moving : Bool)
    (view : View) : View × Bool :=
  match sprite with
  | none => (view, true)
  | some name =>
      if moving then
        ({ view with
            secondaryFrameBuffer := .sprite name x y color :: view.secondaryFrameBuffer }, false)
      else
        ({ view with
            secondaryFrameBufferNoMouse :=
              .sprite name x y color :: view.secondaryFrameBufferNoMouse }, false)

/-- A sprite pointer by name. -/
def spritePointer (loaded : LoadedSprites) (name : SpriteName) : Option SpriteName :=
  if loaded name then some name else none

/-- `drawStatic`, for the sprites that `initialize_sprites` has placed. -/
def drawStatic (loaded : LoadedSprites) (name : SpriteName) (sprite : Sprite) (view : View) : View :=
  (drawSpriteXPM (spritePointer loaded name) sprite.x sprite.y none false view).1

/-! ### Text and numbers -/

/-- `reset_offset`. -/
def resetOffset (view : View) : View := { view with xOffset := xMargin, yOffset := yMargin }

/-- `offset_handler`. -/
def offsetHandler (x endX : Int) (view : View) : View :=
  if view.xOffset + 16 ≥ endX then { view with xOffset := x, yOffset := view.yOffset + 32 }
  else { view with xOffset := view.xOffset + 16 }

/-- The loop of `drawText`. -/
def drawTextLoop (loaded : LoadedSprites) (color : UInt32) (startX endX : Int) :
    List Char → View → View
  | [], view => view
  | c :: text, view =>
      if c = '\n' then
        drawTextLoop loaded color startX endX text
          { view with xOffset := startX, yOffset := view.yOffset + 22 }
      else
        let drawn :=
          match keySpriteMap loaded (charToKey c) with
          | none => view
          | some name =>
              (drawSpriteXPM (some name) view.xOffset view.yOffset (some color) false view).1
        drawTextLoop loaded color startX endX text (offsetHandler startX endX drawn)

/-- `drawText`. -/
def drawText (loaded : LoadedSprites) (text : List Char) (color : UInt32)
    (startX endX startY : Int) (view : View) : View :=
  drawTextLoop loaded color startX endX text { view with xOffset := startX, yOffset := startY }

/-- Glyphs side by side, `step` pixels apart, until one of them is missing: the loop shared by
`drawInt`, `drawRecordedTime` and `drawRealTime`. -/
def drawGlyphs (loaded : LoadedSprites) (moving : Bool) (step : Int) :
    List Char → Int → Int → View → View × Bool
  | [], _, _, view => (view, false)
  | c :: text, x, y, view =>
      let drawn := drawSpriteXPM (keySpriteMap loaded (charToKey c)) x y none moving view
      if drawn.2 then drawn
      else drawGlyphs loaded moving step text (x + step) y drawn.1

/-- `drawInt`. -/
def drawInt (loaded : LoadedSprites) (number x y : Int) (view : View) : View × Bool :=
  drawGlyphs loaded false 16 (printInt number) x y view

/-- `drawRecordedTime`. -/
def drawRecordedTime (loaded : LoadedSprites) (timer : Int) (view : View) : View :=
  (drawGlyphs loaded true 13 (printInt timer) 10 (yResolution - 40) view).1

/-- `drawRealTime`, with the reading that `rtc_read_time` returns. -/
def drawRealTime (loaded : LoadedSprites) (now : RealTimeInfo) (view : View) : View :=
  let text := printPadded 2 now.hours.toNat ++ ':' ::
    (printPadded 2 now.minutes.toNat ++ ':' :: printPadded 2 now.seconds.toNat)
  (drawGlyphs loaded true 13 text (xResolution - 13 * 8 - 10) (yResolution - 40)
    { view with timeInfo := now }).1

/-! ### Messages of `messages.c` -/

def gameInstructions : List Char :=
  ("\n\n\n\n" ++
    "         WELCOME TO TYPING TUTOR GAME! :) \n\n\n\n" ++
    "                 HOW TO PLAY:\n\n" ++
    "           TYPE AS FAST AS YOU CAN! \n\n" ++
    "        USE THE SPACEBAR TO ADVANCE WORDS. \n\n" ++
    "     USE BACKSPACE TO UNDO THE LAST LETTER. \n\n" ++
    "     PRESS THE LEFT BUTTON AND SWIPE RIGHT \n" ++
    "          TO AUTOCOMPLETE THE WORD. \n\n\n" ++
    "       PRESS ESC TO GO BACK TO MAIN MENU \n" ++
    "                AND GOOD LUCK! \n").toList

def timerSelection : List Char :=
  ("\n\n" ++
    "       CHOOSE THE TIMER FOR YOUR GAME :) \n\n\n" ++
    "       PRESS ESC TO GO BACK TO MAIN MENU\n\n").toList

def statisticsMessage : List Char :=
  ("\n\n" ++
    "          YOUR STATISTICS :) \n\n\n" ++
    "      YOUR ACCURACY IS: %d%% \n" ++
    "      YOUR SPEED IS: %d WPM \n" ++
    "      YOU TYPED %d  WORDS \n" ++
    "      YOU MADE %d MISTAKES \n\n\n").toList

/-! ### Background, stars, cursor and statistics -/

/-- `drawBackground`. -/
def drawBackground (now : RealTimeInfo) (state : GameState) (view : View) : View :=
  let color :=
    if now.hours ≥ 6 ∧ now.hours < 12 then colorMorning
    else if now.hours ≥ 12 ∧ now.hours < 18 then colorAfternoon
    else if now.hours ≥ 18 ∧ now.hours < 21 then colorEvening
    else colorNight
  let cleared :=
    drawRectangle 0 0 xResolution yResolution color { view with timeInfo := now, bgColor := color }
  if state = .game ∨ state = .instructions then
    drawRectangle 100 100 (xResolution - 200) (yResolution - 200) beige cleared
  else cleared

/-- `STAR_SPRITE`, created at (10, 10). -/
def starSprite : Sprite := { width := 13, height := 21, x := 10, y := 10 }

/-- The loop of `drawStars` from star `i` on, with `count` stars left to draw. -/
def drawStarsLoop (loaded : LoadedSprites) : Nat → Int → View → View
  | 0, _, view => view
  | count + 1, i, view =>
      let drawn := drawSpriteXPM (spritePointer loaded .star) (starSprite.x + i * 30) starSprite.y
        none true view
      if drawn.2 then drawn.1 else drawStarsLoop loaded count (i + 1) drawn.1

/-- `drawStars`. -/
def drawStars (loaded : LoadedSprites) (stars : Int) (view : View) : View :=
  drawStarsLoop loaded stars.toNat 0 view

/-- The clamping half of `drawCursor`. -/
def clampCursor (cursor : Sprite) : Sprite :=
  let x := if cursor.x < 0 then 0 else cursor.x
  let x := if x > xResolution - cursor.width then xResolution - cursor.width else x
  let y := if cursor.y < 0 then 0 else cursor.y
  let y := if y > yResolution - cursor.height then yResolution - cursor.height else y
  { cursor with x := x, y := y }

/-- The drawing half of `drawCursor`, at the clamped position. -/
def drawCursor (loaded : LoadedSprites) (cursor : Sprite) (view : View) : View :=
  (drawSpriteXPM (spritePointer loaded .cursor) cursor.x cursor.y none true view).1

/-- C `round`, halves away from zero, over the rationals. -/
def roundHalfAway (value : ℚ) : Int :=
  if 0 ≤ value then ⌊value + 1 / 2⌋ else -⌊-value + 1 / 2⌋

/-- The accuracy shown on the statistics screen, computed in doubles. -/
def shownAccuracy (stats : Statistics) : Int :=
  if stats.typedWords ≠ 0 then
    roundHalfAway (nearest (nearest ((stats.correctWords : ℚ) / stats.typedWords) * 100))
  else 0

/-- The speed shown on the statistics screen, `round(typedWords / (time / 60.0))` in doubles. -/
def shownSpeed (stats : Statistics) : Int :=
  roundHalfAway (nearest ((stats.typedWords : ℚ) / nearest ((stats.time : ℚ) / 60)))

/-- `drawStatistics`: four numbers, stopping at the first that cannot be drawn. -/
def drawStatistics (loaded : LoadedSprites) (stats : Statistics) (view : View) : View :=
  let first :=
    drawInt loaded (shownAccuracy stats) (statisticsBoxX + 368) (statisticsBoxY + 110) view
  if first.2 then first.1
  else
    let second :=
      drawInt loaded (shownSpeed stats) (statisticsBoxX + 322) (statisticsBoxY + 132) first.1
    if second.2 then second.1
    else
      let third :=
        drawInt loaded stats.typedWords (statisticsBoxX + 258) (statisticsBoxY + 154) second.1
      if third.2 then third.1
      else
        (drawInt loaded stats.incorrectLetters (statisticsBoxX + 238) (statisticsBoxY + 176)
          third.1).1

/-! ### Caret and words -/

/-- `deleteCaret`. -/
def deleteCaret (view : View) : View :=
  drawRectangle view.caret.x view.caret.y view.caret.width view.caret.height beige view

/-- `drawCaret`. -/
def drawCaret (x y : Int) (view : View) : View :=
  { drawRectangle x y 13 1 0xFFFFFF view with caret := { x := x, y := y, width := 13, height := 1 } }

/-- The colour of a letter: by the word once it is judged, by the letter before that. -/
def letterColor (word : Word) (letter : Letter) : UInt32 :=
  if word.status = 1 then 0x336600
  else if word.status = -1 then red
  else if letter.status = -1 then red
  else if letter.status = 1 then white
  else grey

/-- The inner loop of `drawWords`.  `caretAt` is the letter to underline when this is the current
word. -/
def drawLetters (loaded : LoadedSprites) (word : Word) (caretAt : Option Nat) :
    Nat → List Letter → View → View × Bool
  | _, [], view => (view, false)
  | j, letter :: rest, view =>
      let marked :=
        if caretAt = some j then drawCaret view.xOffset (view.yOffset + 24) (deleteCaret view)
        else view
      let drawn :=
        drawSpriteXPM (keySpriteMap loaded (charToKey letter.character)) marked.xOffset
          marked.yOffset (some (letterColor word letter)) false marked
      if drawn.2 then drawn
      else
        drawLetters loaded word caretAt (j + 1) rest
          { drawn.1 with xOffset := drawn.1.xOffset + 16 }

/-- `word_length_in_pixels`. -/
def wordLengthInPixels (word : Word) : Int := word.length * 16

/-- The outer loop of `drawWords` from word `i` on.  The last component is the line of the last word
when the loop runs to its end, and `none` after an early return. -/
def drawWordsLoop (loaded : LoadedSprites) (test : TypingTest) :
    Nat → Int → List Word → View → List Word × View × Option Int
  | _, currentLine, [], view => ([], view, some currentLine)
  | i, currentLine, word :: rest, view =>
      if i < test.wordCount then
        let placed := { word with x := view.xOffset, y := view.yOffset, line := currentLine }
        let caretAt :=
          if i = test.currentWordIndex then some test.currentInputIndex else none
        let drawn := drawLetters loaded placed caretAt 0 word.letters view
        if drawn.2 then (placed :: rest, drawn.1, none)
        else if i + 1 = test.wordCount then (placed :: rest, drawn.1, some currentLine)
        else
          match rest with
          | [] => ([placed], drawn.1, some currentLine)
          | nextWord :: others =>
              let tail :=
                if drawn.1.xOffset + wordLengthInPixels nextWord > xResolution - xMargin - 1 then
                  drawWordsLoop loaded test (i + 1) (currentLine + 1) (nextWord :: others)
                    { drawn.1 with xOffset := xMargin, yOffset := drawn.1.yOffset + 64 }
                else
                  drawWordsLoop loaded test (i + 1) currentLine (nextWord :: others)
                    { drawn.1 with xOffset := drawn.1.xOffset + 16 }
              (placed :: tail.1, tail.2)
      else (word :: rest, view, some currentLine)

/-- `drawWords`.  An early return leaves `number_of_lines` as it was. -/
def drawWords (loaded : LoadedSprites) (test : TypingTest) (view : View) : TypingTest × View :=
  let result := drawWordsLoop loaded test 0 0 test.words (resetOffset view)
  ({ test with
      words := result.1
      numberOfLines := result.2.2.getD test.numberOfLines }, result.2.1)

/-! ### Animations -/

/-- `PANDA_0_SPRITE->height`, from the XPM header. -/
def panda0Height : Int := 200

/-- `drawAnimation`. -/
def drawAnimation (loaded : LoadedSprites) (animation : Animation) (x y : Int) (view : View) :
    View :=
  if animation.isActive = false then
    (drawSpriteXPM (spritePointer loaded .panda0) x y none false view).1
  else if animation.currentFrame < 0 ∨ animation.currentFrame ≥ animation.frameCount then view
  else
    match animation.frames[animation.currentFrame.toNat]? with
    | none => view
    | some frame => (drawSpriteXPM (spritePointer loaded frame) x y none false view).1

/-- `drawAnimationBoth`. -/
def drawAnimationBoth (loaded : LoadedSprites) (happy mad : Animation) (view : View) : View :=
  if happy.isActive then
    drawAnimation loaded happy (xResolution - xMargin) (yMargin - panda0Height) view
  else if mad.isActive then
    drawAnimation loaded mad (xResolution - xMargin) (yMargin - panda0Height) view
  else
    (drawSpriteXPM (spritePointer loaded .panda0) (xResolution - xMargin) (yMargin - panda0Height)
      none false view).1

/-! ### High scores -/

/-- The text of one row of the high-score screen. -/
def scoreRow (rank : Int) (score : HighScore) : List Char :=
  printSpaced 2 rank ++ ". ".toList ++ printSpaced 4 score.wpm.toInt ++ " WPM   TIME: ".toList ++
    printPadded 2 score.achievedTime.hours.toNat ++ ':' ::
      (printPadded 2 score.achievedTime.minutes.toNat ++ ':' ::
        (printPadded 2 score.achievedTime.seconds.toNat ++ "  DATE: ".toList ++
          printPadded 2 score.day.toNat ++ ' ' :: printPadded 2 score.month.toNat))

/-- The rows of `drawHighScores`, 28 pixels apart, and the height below the last one. -/
def drawScoreRows (loaded : LoadedSprites) : List HighScore → Int → Int → View → View × Int
  | [], _, y, view => (view, y)
  | score :: rest, rank, y, view =>
      drawScoreRows loaded rest (rank + 1) (y + 28)
        (drawText loaded (scoreRow rank score) white xMargin (xResolution - xMargin) y view)

/-- `drawHighScores`, which also moves the back button below the rows. -/
def drawHighScores (loaded : LoadedSprites) (now : RealTimeInfo) (entries : List HighScore)
    (backButton : Sprite) (view : View) : Sprite × View :=
  let background := drawBackground now .highscores view
  let xCenter := xResolution / 2
  let title := "HIGHSCORES".toList
  let titleWidth : Int := title.length * 20
  let titled :=
    drawText loaded title white (xCenter - titleWidth / 2) (xCenter + titleWidth / 2) yMargin
      background
  let rows := drawScoreRows loaded entries 1 (yMargin + 40) titled
  let placed :=
    { backButton with
      x := (xResolution - backButton.width) / 2 - 15
      y := rows.2 + 20 }
  (placed, drawStatic loaded .backToMenuHighscore placed rows.1)

end TypingTutor
