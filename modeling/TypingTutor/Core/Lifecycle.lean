/-
Module: TypingTutor.Core.Lifecycle
Layer: Core
Purpose: The heap objects of the program from `setup()` to `end()`: which sprites `initialize_sprites`
  creates, which ones `destroy_sprites` frees, and what makes a run of `proj_main_loop` complete.  The
  game objects are in the log of the run.
Trusted boundary: human-reviewed spec
Main exports: initializeSprites, destroySprites, CompleteRun, spriteEvents, testEvents, statsEvents
-/
import TypingTutor.Core.Program
import TypingTutor.Lib.Ownership

namespace TypingTutor

open Ownership

/-! ### Sprites -/

def letterKeys : List Key :=
  [.a, .b, .c, .d, .e, .f, .g, .h, .i, .j, .k, .l, .m, .n, .o, .p, .q, .r, .s, .t, .u, .v, .w, .x,
    .y, .z]

def digitKeys : List Key := [.zero, .one, .two, .three, .four, .five, .six, .seven, .eight, .nine]

/-- The calls of `create_sprite_xpm` in `initialize_sprites`, in order.  The flag is set where the
function goes on to write the position of the sprite through the pointer it got. -/
def createCalls : List (SpriteName × Bool) :=
  [(SpriteName.panda, true), (.bambuLeft, true), (.bambuRight, true), (.play, true),
    (.backToMenu, true),
    (.backToMenuHighscore, true), (.playAgain, true), (.instructions, true), (.highscores, true),
    (.timer15, true), (.timer30, true), (.timer60, true), (.cursor, false), (.star, false)] ++
  letterKeys.map (fun key => (SpriteName.glyph key, false)) ++
  [(SpriteName.glyph .comma, false), (.glyph .period, false), (.glyph .exclamation, false),
    (.glyph .colon, false), (.glyph .rightParenthesis, false)] ++
  digitKeys.map (fun key => (SpriteName.glyph key, false)) ++
  [(SpriteName.panda0, false), (.mad1, false), (.mad2, false), (.mad3, false), (.mad4, false),
    (.happy1, false), (.happy2, false), (.happy3, false), (.happy4, false)]

/-- One call of `create_sprite_xpm`, which returns null for a sprite it cannot load. -/
def createSprite (loaded : SpriteName → Bool) (created : List SpriteName) (call : SpriteName × Bool) :
    Except Fault (List SpriteName) :=
  if loaded call.1 then .ok (created ++ [call.1])
  else if call.2 then .error .deadPointer
  else .ok created

/-- `initialize_sprites`: the sprites that it leaves on the heap, in order, whatever could be loaded. -/
def initializeSprites (loaded : SpriteName → Bool) : Except Fault (List SpriteName) :=
  createCalls.foldlM (createSprite loaded) []

/-- The calls of `destroy_sprite` in `destroy_sprites`, in order. -/
def destroyCalls : List SpriteName :=
  letterKeys.map SpriteName.glyph ++ [SpriteName.cursor, .star] ++
  [SpriteName.play, .instructions, .backToMenu, .backToMenuHighscore, .playAgain] ++
  [SpriteName.timer15, .timer30, .timer60] ++
  [SpriteName.glyph .comma, .glyph .period, .glyph .exclamation, .glyph .colon,
    .glyph .rightParenthesis] ++
  digitKeys.map SpriteName.glyph ++ digitKeys.map SpriteName.glyph ++
  [SpriteName.panda, .bambuRight, .bambuLeft] ++
  [SpriteName.panda0, .mad1, .mad2, .mad3, .mad4, .happy1, .happy2, .happy3, .happy4]

/-- `destroy_sprites`: the sprites that are freed, in order.  `destroy_sprite` returns at once when the
pointer is null, and sets only its own copy of the pointer to null. -/
def destroySprites (loaded : LoadedSprites) : List SpriteName := destroyCalls.filter loaded.isLoaded

/-- The heap trace of the sprites, newest event first. -/
def spriteEvents (created freed : List SpriteName) : List (Event SpriteName) :=
  (freed.map .free).reverse ++ (created.map .alloc).reverse

/-! ### Game objects -/

def Call.testEvent : Call → Option (Event Nat)
  | .initializeTest token => some (.alloc token)
  | .destroyTest token => some (.free token)
  | _ => none

def Call.statsEvent : Call → Option (Event Nat)
  | .initializeStats token _ => some (.alloc token)
  | .destroyStats token => some (.free token)
  | _ => none

/-- The heap trace of the `TypingTest` objects. -/
def testEvents (log : List Call) : List (Event Nat) := log.filterMap Call.testEvent

/-- The heap trace of the `Statistics` objects. -/
def statsEvents (log : List Call) : List (Event Nat) := log.filterMap Call.statsEvent

/-! ### Complete runs -/

/-- A run of `proj_main_loop` that reaches the end of its loop; `end()` then frees the sprites and no
game object. -/
structure CompleteRun (loaded : LoadedSprites) (file : List Char) (messages : List Notification)
    (created : List SpriteName) (s : State) : Prop where
  initialized : initializeSprites loaded.isLoaded = .ok created
  ran : run loaded file messages = .ok s
  exited : exitRequested s = true

end TypingTutor
