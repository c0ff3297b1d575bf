/-
Module: TypingTutor.Core.Data
Layer: Core
Purpose: The data model of the typing tutor: keys and their scancodes, screens, words and letters, the
  statistics of one game, sprites and animations, clock readings, high scores and mouse packets. The
  records follow `model.h`, `sprite.h`, `rtc.h` and `lcom/lab4.h` field by field, except for fields
  that no modelled function reads.
Trusted boundary: human-reviewed spec
Main exports: Key, keyMap, charMap, charToKey, GameState, Word, TypingTest, Statistics, Sprite,
  Animation, RealTimeInfo, HighScore, Packet, Ptr, Fault
-/
import Mathlib.Data.List.Basic

namespace TypingTutor

/-- The keys of `model.h`, in the order of the enumeration. -/
inductive Key where
  | noneKey | enter
  | a | b | c | d | e | f | g | h | i | j | k | l | m
  | n | o | p | q | r | s | t | u | v | w | x | y | z
  | comma | period | colon | exclamation | rightParenthesis
  | zero | one | two | three | four | five | six | seven | eight | nine
  | back | esc
deriving Repr, DecidableEq, Inhabited

/-- The enumeration as a list, so that a C cast `(Key)n` is a lookup. -/
def Key.enumeration : List Key :=
  [.noneKey, .enter,
    .a, .b, .c, .d, .e, .f, .g, .h, .i, .j, .k, .l, .m,
    .n, .o, .p, .q, .r, .s, .t, .u, .v, .w, .x, .y, .z,
    .comma, .period, .colon, .exclamation, .rightParenthesis,
    .zero, .one, .two, .three, .four, .five, .six, .seven, .eight, .nine,
    .back, .esc]

/-- The C cast `(Key)index`. -/
def Key.ofIndex (index : Nat) : Key := Key.enumeration.getD index .noneKey

/-- Bit `n` of a byte, the C test `byte & BIT(n)`. -/
def bit (n : UInt8) (byte : UInt8) : Bool := byte &&& (1 <<< n) != 0

/-! ### Scancodes

Make codes of `drivers/keyboard/i8042.h`.  `initialize_key_maps` fills two tables of 256 entries; the
rows that give a character are kept together so that facts about every character key are facts about
one finite list. -/

def keyEsc : UInt8 := 0x01
def keyEnter : UInt8 := 0x1c
def keySpace : UInt8 := 0x39
def keyDelete : UInt8 := 0x0e

/-- Scancode, key and character of every key with a non-zero `charMap` entry. -/
def characterKeys : List (UInt8 × Key × Char) :=
  [(0x1E, .a, 'A'), (0x30, .b, 'B'), (0x2E, .c, 'C'), (0x20, .d, 'D'), (0x12, .e, 'E'),
    (0x21, .f, 'F'), (0x22, .g, 'G'), (0x23, .h, 'H'), (0x17, .i, 'I'), (0x24, .j, 'J'),
    (0x25, .k, 'K'), (0x26, .l, 'L'), (0x32, .m, 'M'), (0x31, .n, 'N'), (0x18, .o, 'O'),
    (0x19, .p, 'P'), (0x10, .q, 'Q'), (0x13, .r, 'R'), (0x1F, .s, 'S'), (0x14, .t, 'T'),
    (0x16, .u, 'U'), (0x2F, .v, 'V'), (0x11, .w, 'W'), (0x2D, .x, 'X'), (0x15, .y, 'Y'),
    (0x2C, .z, 'Z'), (0x33, .comma, ','), (0x34, .period, '.')]

/-- The row of a scancode in the character table, if it has one. -/
def characterKey? (code : UInt8) : Option (UInt8 × Key × Char) :=
  characterKeys.find? fun row => row.1 == code

/-- `charMap[code]`, with `none` for the zero entry. -/
def charMap (code : UInt8) : Option Char := (characterKey? code).map fun row => row.2.2

/-- `keyMap[code]`. -/
def keyMap (code : UInt8) : Key :=
  match characterKey? code with
  | some row => row.2.1
  | none =>
      if code = keyEnter then .enter
      else if code = keyDelete then .back
      else if code = keyEsc then .esc
      else .noneKey

/-- `char_to_key`: the glyph used to draw a character. -/
def charToKey (c : Char) : Key :=
  if 'A' ≤ c ∧ c ≤ 'Z' then Key.ofIndex (c.toNat - 'A'.toNat + 2)
  else match c with
    | '0' => .zero
    | '1' => .one
    | '2' => .two
    | '3' => .three
    | '4' => .four
    | '5' => .five
    | '6' => .six
    | '7' => .seven
    | '8' => .eight
    | '9' => .nine
    | ',' => .comma
    | '.' => .period
    | '!' => .exclamation
    | ':' => .colon
    | ')' => .rightParenthesis
    | _ => .noneKey

/-! ### Screens, words and statistics -/

/-- The screens of the program. -/
inductive GameState where
  | menu | instructions | statistics | game | timers | highscores
deriving Repr, DecidableEq, Inhabited

/-- The swipe-right automaton of `checkGesture`. -/
inductive GestureState where
  | zero | lb
deriving Repr, DecidableEq, Inhabited

/-- One letter; `status` is 0 (not typed), 1 (typed) or -1 (incorrect). -/
structure Letter where
  character : Char
  status : Int
deriving Repr, DecidableEq, Inhabited

/-- One word.  `letters` holds the first `length` entries of the C array: the slots from the
terminator on are never read. -/
structure Word where
  letters : List Letter
  status : Int
  x : Int
  y : Int
  line : Int
deriving Repr, DecidableEq, Inhabited

namespace Word

def length (word : Word) : Nat := word.letters.length

/-- The characters to type. -/
def chars (word : Word) : List Char := word.letters.map (·.character)

/-- No letter of the word has been typed. -/
def Untouched (word : Word) : Prop := ∀ letter ∈ word.letters, letter.status = 0

instance (word : Word) : Decidable word.Untouched :=
  inferInstanceAs (Decidable (∀ letter ∈ word.letters, letter.status = 0))

end Word

/-- `MAX_WORD_LENGTH`, the capacity of `currentInput` and of a word's letter array. -/
def maxWordLength : Nat := 20

/-- `MAX_WORDS`. -/
def maxWords : Nat := 40

/-- The test of one game.  `words` has `wordCount + 1` elements, the last one a sentinel. -/
structure TypingTest where
  words : List Word
  wordCount : Nat
  currentWordIndex : Nat
  currentInputIndex : Nat
  currentInput : List Char
  numberOfLines : Int
deriving Repr, DecidableEq, Inhabited

/-- Statistics of one game.  The counters stand for `int`s, which fewer than 2^31 strokes do not
overflow. -/
structure Statistics where
  correctWords : Int
  incorrectWords : Int
  correctLetters : Int
  incorrectLetters : Int
  typedLetters : Int
  typedWords : Int
  time : Int
deriving Repr, DecidableEq, Inhabited

structure Caret where
  x : Int
  y : Int
  width : Int
  height : Int
deriving Repr, DecidableEq, Inhabited

/-! ### Sprites and animations -/

/-- Names of the sprites created by `initialize_sprites`.  `glyph` covers the letters, digits and
punctuation that `key_sprite_map` indexes by key. -/
inductive SpriteName where
  | glyph (key : Key)
  | cursor | star | play | instructions | highscores | timer15 | timer30 | timer60
  | backToMenu | backToMenuHighscore | playAgain
  | panda | bambuLeft | bambuRight | panda0
  | mad1 | mad2 | mad3 | mad4 | happy1 | happy2 | happy3 | happy4
deriving Repr, DecidableEq, Inhabited

/-- Size and position of a sprite. -/
structure Sprite where
  width : Int
  height : Int
  x : Int
  y : Int
deriving Repr, DecidableEq, Inhabited

structure Animation where
  frames : List SpriteName
  frameCount : Int
  currentFrame : Int
  isActive : Bool
  frameDuration : Int
  frameCounter : Int
deriving Repr, DecidableEq, Inhabited

/-- `startAnimation`. -/
def startAnimation (animation : Animation) : Animation :=
  { animation with isActive := true, currentFrame := 0, frameCounter := 0 }

/-- `updateAnimation`, called once per timer interrupt. -/
def updateAnimation (animation : Animation) : Animation :=
  if animation.isActive then
    let counted := { animation with frameCounter := animation.frameCounter + 1 }
    if counted.frameCounter ≥ counted.frameDuration then
      let next := { counted with frameCounter := 0, currentFrame := counted.currentFrame + 1 }
      if next.currentFrame ≥ next.frameCount then
        { next with isActive := false, currentFrame := 0 }
      else next
    else counted
  else animation

/-! ### Clock, high scores and mouse packets -/

/-- `real_time_info` of `rtc.h`. -/
structure RealTimeInfo where
  year : UInt8
  month : UInt8
  day : UInt8
  hours : UInt8
  minutes : UInt8
  seconds : UInt8
deriving Repr, DecidableEq, Inhabited

structure HighScore where
  wpm : Int32
  achievedTime : RealTimeInfo
  day : UInt8
  month : UInt8
deriving Repr, DecidableEq, Inhabited

/-- A parsed mouse packet (`struct packet`); the displacements are 16-bit signed values. -/
structure Packet where
  bytes : UInt8 × UInt8 × UInt8
  rb : Bool
  mb : Bool
  lb : Bool
  deltaX : Int
  deltaY : Int
  xOv : Bool
  yOv : Bool
deriving Repr, DecidableEq, Inhabited

/-! ### Pointers and undefined behaviour

The program keeps its game objects behind the globals `test` and `stats`, which stay non-null after
`free`.  A pointer therefore carries a ghost status, and what C leaves undefined is an explicit
fault. -/

/-- Undefined behaviour, and the calls of `exit`. -/
inductive Fault where
  | deadPointer
  | outOfBounds
  | divideByZero
  | exitFailure
deriving Repr, DecidableEq, Inhabited

/-- A pointer with the ghost identity of the object it was last set to. -/
inductive Ptr (α : Type) where
  | null
  | live (token : Nat) (object : α)
  | freed (token : Nat)
deriving Repr, DecidableEq, Inhabited

namespace Ptr

variable {α : Type}

/-- Reading through a pointer. -/
def deref : Ptr α → Except Fault α
  | .live _ object => .ok object
  | .null => .error .deadPointer
  | .freed _ => .error .deadPointer

/-- Writing through a pointer that has been read. -/
def store (pointer : Ptr α) (object : α) : Ptr α :=
  match pointer with
  | .live token _ => .live token object
  | other => other

/-- `free`. -/
def free : Ptr α → Except Fault (Ptr α)
  | .live token _ => .ok (.freed token)
  | .null => .error .deadPointer
  | .freed _ => .error .deadPointer

/-- The ghost identity of a live object. -/
def token? : Ptr α → Option Nat
  | .live token _ => some token
  | _ => none

theorem deref_eq_ok {pointer : Ptr α} {object : α} (read : pointer.deref = .ok object) :
    ∃ token, pointer = .live token object := by
  cases pointer with
  | null => simp [deref] at read
  | live token stored =>
      simp only [deref, Except.ok.injEq] at read
      exact ⟨token, by rw [read]⟩
  | freed token => simp [deref] at read

@[simp] theorem deref_live (token : Nat) (object : α) :
    (Ptr.live token object).deref = .ok object := rfl

@[simp] theorem store_live (token : Nat) (old new : α) :
    (Ptr.live token old).store new = .live token new := rfl

end Ptr

/-! ### Video mode

`setUpFrameBuffer` selects mode `0x14C`; its resolution is 1152 by 864. -/

def xResolution : Int := 1152
def yResolution : Int := 864

/-- `x_margin` and `y_margin` of `model.c`. -/
def xMargin : Int := 200
def yMargin : Int := 200

def statisticsBoxX : Int := 290
def statisticsBoxY : Int := 220
def statisticsBoxSizeX : Int := 575
def statisticsBoxSizeY : Int := 420

end TypingTutor
