/-
Module: TypingTutor.Core.Program
Layer: Core
Purpose: The whole program as a state machine: the globals of `model.c` and `proj.c`, the screen
  changes of `setGameState`, the keyboard, timer and mouse handlers, `GameDrawer`, and the main loop
  over hardware notifications.  Ghost fields record object identities and the calls that the theorems
  speak about.
Trusted boundary: human-reviewed spec
Main exports: State, Call, setGameState, checkActions, checkGesture, updateKeyboard, keyHandler,
  updateTimer, gameDrawer, updateMouse, Notification, handleNotification, setup, run
-/
import TypingTutor.Core.Drivers
import TypingTutor.Core.Typing
import TypingTutor.Core.View

namespace TypingTutor

/-! ### Sprites placed by `initialize_sprites`

Sizes are those of the XPM headers; the arithmetic is the source's. -/

def pandaSprite : Sprite :=
  { width := 300
    height := 300
    x := xResolution / 2 - 300 / 2
    y := yResolution / 2 - 300 / 2 - 100 }

def playSprite : Sprite :=
  { width := 299
    height := 68
    x := xResolution / 2 - 299 / 2
    y := pandaSprite.y + pandaSprite.height + 30 }

def instructionsSprite : Sprite :=
  { width := 299
    height := 68
    x := xResolution / 2 - 299 / 2
    y := playSprite.y + playSprite.height + 30 }

def highscoresSprite : Sprite :=
  { width := 299
    height := 68
    x := xResolution / 2 - 299 / 2
    y := instructionsSprite.y + instructionsSprite.height + 30 }

def backToMenuSprite : Sprite :=
  { width := 170
    height := 68
    x := statisticsBoxX + 90
    y := statisticsBoxY + statisticsBoxSizeY - 68 - 50 }

def playAgainSprite : Sprite :=
  { width := 170
    height := 68
    x := statisticsBoxX + statisticsBoxSizeX - 170 - 90
    y := statisticsBoxY + statisticsBoxSizeY - 68 - 50 }

/-- The three timer buttons differ in their distance from the centre of the screen. -/
def timerSprite (below : Int) : Sprite :=
  { width := 299
    height := 68
    x := xResolution / 2 - 299 / 2
    y := yResolution / 2 - 68 / 2 + below }

def timer15Sprite : Sprite := timerSprite (-50)
def timer30Sprite : Sprite := timerSprite 50
def timer60Sprite : Sprite := timerSprite 150

def bambuLeftSprite : Sprite := { width := 300, height := 864, x := 0, y := yResolution - 864 }

def bambuRightSprite : Sprite :=
  { width := 300, height := 864, x := xResolution - 300, y := yResolution - 864 }

/-- `CURSOR_SPRITE`, created at (500, 500). -/
def initialCursor : Sprite := { width := 20, height := 20, x := 500, y := 500 }

def happyFrames : List SpriteName :=
  [.panda0, .happy1, .happy2, .happy3, .happy4, .happy3, .happy2, .happy1, .panda0]

def madFrames : List SpriteName :=
  [.panda0, .mad1, .mad2, .mad3, .mad4, .mad3, .mad2, .mad1, .panda0]

/-- `(Animation){frames, 9, 0, false, 3, 0}`. -/
def initialAnimation (frames : List SpriteName) : Animation :=
  { frames := frames
    frameCount := 9
    currentFrame := 0
    isActive := false
    frameDuration := 3
    frameCounter := 0 }

/-! ### State -/

/-- Where a call of `setGameState` stands. -/
inductive Caller where
  | setup | updateTimer | checkActions | keyHandler
deriving Repr, DecidableEq, Inhabited

/-- Ghost record of the calls that whole-run properties are about. -/
inductive Call where
  | setGameState (caller : Caller) (before after : GameState) (timer : Int)
      (gesture : GestureState)
  | initializeTest (token : Nat)
  | initializeStats (token : Nat) (time : Int)
  | destroyTest (token : Nat)
  | destroyStats (token : Nat)
  | updateHighScores (token : Nat) (stats : Statistics) (wpm : Int) (time : RealTimeInfo)
  | loadHighScores
  | parse (packet : Packet)
  | checkGesture (packet : Packet) (filled : Bool) (stars : Int)
deriving Repr, DecidableEq

/-- The globals of the program.  `nextToken` and `log` (newest call first) are ghost. -/
structure State where
  currentKey : Key
  currentState : GameState
  gameStateChange : Bool
  timer : Int
  counter : Int
  gestureState : GestureState
  xGesture : Int
  stars : Int
  test : Ptr TypingTest
  stats : Ptr Statistics
  happyAnimation : Animation
  madAnimation : Animation
  scores : ScoreStore
  data : UInt8
  mouse : Mouse
  cursor : Sprite
  backToMenuHighscore : Sprite
  view : View
  nextToken : Nat
  log : List Call

def State.record (call : Call) (s : State) : State := { s with log := call :: s.log }

/-! ### Objects of a game -/

/-- `destroy_test`. -/
def destroyTest (s : State) : Except Fault State := do
  let test ← s.test.free
  return { s with test := test, log := .destroyTest ((s.test.token?).getD 0) :: s.log }

/-- `destroy_stats`. -/
def destroyStats (s : State) : Except Fault State := do
  let stats ← s.stats.free
  return { s with stats := stats, log := .destroyStats ((s.stats.token?).getD 0) :: s.log }

/-- The `GAME` case of `setGameState`: fresh stars, test and statistics. -/
def startGame (env : Env) (s : State) : Except Fault State := do
  let test ← initializeTest env 100 40
  return { s with
    stars := 3
    test := .live s.nextToken test
    stats := .live (s.nextToken + 1) (initializeStats s.timer)
    nextToken := s.nextToken + 2
    log := .initializeStats (s.nextToken + 1) s.timer :: .initializeTest s.nextToken :: s.log }

/-- `(stats->typedWords * 60) / stats->time`, in 32-bit integers. -/
def gameSpeed (stats : Statistics) : Int32 := Int32.ofInt stats.typedWords * 60 / Int32.ofInt stats.time

/-- The `STATISTICS` case of `setGameState`: free the test, compute the speed, record the score. -/
def finishGame (env : Env) (s : State) : Except Fault State := do
  let stats ← s.stats.deref
  let s ← destroyTest s
  if stats.time = 0 then throw .divideByZero
  let wpm := gameSpeed stats
  return { s with
    scores := updateHighScores env.fopen wpm (env.rtc 0) s.scores
    log := .updateHighScores ((s.stats.token?).getD 0) stats wpm.toInt (env.rtc 0) :: s.log }

/-- `setGameState`; `caller` is ghost. -/
def setGameState (env : Env) (caller : Caller) (state : GameState) (s : State) :
    Except Fault State :=
  let entered :=
    { s with
      currentState := state
      gameStateChange := true
      log := .setGameState caller s.currentState state s.timer s.gestureState :: s.log }
  match state with
  | .menu => .ok { entered with currentKey := .noneKey }
  | .game => startGame env entered
  | .timers => .ok entered
  | .statistics => finishGame env entered
  | .highscores =>
      .ok { entered with
        scores := loadHighScores env.fopen s.scores
        log := .loadHighScores :: entered.log }
  | .instructions => .ok entered

/-! ### Typing -/

/-- `drawWords(test)` on the global test. -/
def redrawWords (loaded : LoadedSprites) (test : TypingTest) (s : State) : State :=
  { s with
    test := s.test.store (drawWords loaded test s.view).1
    view := (drawWords loaded test s.view).2 }

/-- `process_key`. -/
def processKey (loaded : LoadedSprites) (c : Char) (key : Key) (s : State) : Except Fault State := do
  if s.currentState = .game then
    let test ← s.test.deref
    let word ← test.currentWord
    let s := if test.currentInputIndex + 1 = word.length then { s with view := deleteCaret s.view }
      else s
    if test.currentInputIndex < word.length then
      let stats ← s.stats.deref
      let typed := typeLetter c word test stats
      let s := { s with stats := s.stats.store typed.2 }
      return { redrawWords loaded typed.1 s with currentKey := key }
    else
      return { s with currentKey := key }
  else
    return { s with currentKey := key }

/-- `handle_space_key`. -/
def handleSpaceKey (loaded : LoadedSprites) (env : Env) (s : State) : Except Fault State := do
  let test ← s.test.deref
  let word ← test.currentWord
  let stats ← s.stats.deref
  let judged := judgeWord word test stats
  let s :=
    if isCorrect word then { s with happyAnimation := startAnimation s.happyAnimation }
    else { s with madAnimation := startAnimation s.madAnimation }
  let s := { s with stats := s.stats.store judged.2 }
  let s :=
    if scrolls judged.1 then { s with view := drawBackground (env.rtc 1) .game s.view } else s
  return redrawWords loaded (advanceWord env judged.1) s

/-- `handle_delete_key`. -/
def handleDeleteKey (loaded : LoadedSprites) (s : State) : Except Fault State := do
  let test ← s.test.deref
  let _ ← test.currentWord
  return redrawWords loaded (deleteLetter test) s

/-- `fill_current_word`. -/
def fillCurrentWord (loaded : LoadedSprites) (s : State) : Except Fault State := do
  let test ← s.test.deref
  let word ← test.currentWord
  let s := redrawWords loaded (fillWord word test) s
  return { s with stars := s.stars - 1 }

/-! ### Keyboard -/

/-- `update_keyboard` after `kbc_ih` has run: dispatch on the global `data`. -/
def dispatchScancode (loaded : LoadedSprites) (env : Env) (s : State) : Except Fault State :=
  if bit 7 s.data then .ok s
  else
    match charMap s.data with
    | some c => processKey loaded c (keyMap s.data) s
    | none =>
        if s.data = keySpace then
          if s.currentState = .game then handleSpaceKey loaded env s else .ok s
        else if s.data = keyEnter then .ok { s with currentKey := .enter }
        else if s.data = keyDelete then
          let s := { s with currentKey := .back }
          if s.currentState = .game then handleDeleteKey loaded s else .ok s
        else if s.data = keyEsc then .ok { s with currentKey := .esc }
        else .ok s

/-- `update_keyboard`. -/
def updateKeyboard (loaded : LoadedSprites) (ports : PortReads) (env : Env) (s : State) :
    Except Fault State :=
  dispatchScancode loaded env { s with data := kbcIh ports s.data }

/-- `key_handler`. -/
def keyHandler (loaded : LoadedSprites) (ports : PortReads) (env : Env) (s : State) :
    Except Fault State := do
  match s.currentState with
  | .menu =>
      let s ← updateKeyboard loaded ports env s
      if s.currentKey = .enter then setGameState env .keyHandler .timers s else return s
  | _ =>
      let s ← updateKeyboard loaded ports env s
      if s.currentKey = .esc then
        let s ← setGameState env .keyHandler .menu s
        return { s with currentKey := .noneKey }
      else return s

/-! ### Mouse -/

/-- `pressed_button`. -/
def pressedButton (button : Sprite) (s : State) : Bool :=
  decide (s.cursor.x ≥ button.x) && decide (s.cursor.x ≤ button.x + button.width) &&
    decide (s.cursor.y ≥ button.y) && decide (s.cursor.y ≤ button.y + button.height) &&
    s.mouse.pp.lb

/-- `checkGesture`, with a ghost record of the packet, of whether it filled the word, and of the
stars left. -/
def checkGesture (loaded : LoadedSprites) (s : State) : Except Fault State := do
  let pp := s.mouse.pp
  let skip := fun (s : State) => s.record (.checkGesture pp false s.stars)
  if s.stars ≠ 0 then
    match s.gestureState with
    | .zero => return skip (if pp.lb then { s with gestureState := .lb } else s)
    | .lb =>
        if pp.lb = false then return skip { s with gestureState := .zero, xGesture := 0 }
        else
          let s := if pp.deltaX > 0 then { s with xGesture := s.xGesture + pp.deltaX } else s
          if s.xGesture > 400 then
            let s ← fillCurrentWord loaded s
            return { s with gestureState := .zero, xGesture := 0 }.record
              (.checkGesture pp true s.stars)
          else return skip s
  else return skip s

/-- `if (pressed_button(button)) action;` -/
def onPress (button : Sprite) (action : State → Except Fault State) (s : State) :
    Except Fault State :=
  if pressedButton button s then action s else .ok s

/-- `checkActions`. -/
def checkActions (loaded : LoadedSprites) (env : Env) (s : State) : Except Fault State := do
  match s.currentState with
  | .menu =>
      let s ← onPress playSprite (setGameState env .checkActions .timers) s
      let s ← onPress instructionsSprite (setGameState env .checkActions .instructions) s
      onPress highscoresSprite (setGameState env .checkActions .highscores) s
  | .timers =>
      let s ← onPress timer15Sprite
        (fun s => setGameState env .checkActions .game { s with timer := 15 }) s
      let s ← onPress timer30Sprite
        (fun s => setGameState env .checkActions .game { s with timer := 30 }) s
      onPress timer60Sprite
        (fun s => setGameState env .checkActions .game { s with timer := 60 }) s
  | .game => checkGesture loaded s
  | .instructions => return s
  | .statistics =>
      let s ← onPress backToMenuSprite
        (fun s => setGameState env .checkActions .menu s >>= destroyStats) s
      onPress playAgainSprite (setGameState env .checkActions .timers) s
  | .highscores =>
      onPress s.backToMenuHighscore (setGameState env .checkActions .menu) s

/-- The body of `update_mouse` for a complete packet: `parse`, `checkActions`, start over. -/
def handlePacket (loaded : LoadedSprites) (env : Env) (s : State) : Except Fault State := do
  let parsed := parse s.mouse s.cursor
  let s ← checkActions loaded env
    { s with
      mouse := parsed.1
      cursor := parsed.2
      log := .parse parsed.1.pp :: s.log }
  return { s with mouse := { s.mouse with bytesRead := 0 } }

/-- `update_mouse`. -/
def updateMouse (loaded : LoadedSprites) (ports : PortReads) (env : Env) (s : State) :
    Except Fault State :=
  let s := { s with mouse := sync (mouseIh ports s.mouse) }
  if s.mouse.bytesRead = 3 then handlePacket loaded env s else .ok s

/-! ### Timer and drawing -/

/-- `update_timer`. -/
def updateTimer (env : Env) (s : State) : Except Fault State := do
  let s :=
    { s with
      happyAnimation := updateAnimation s.happyAnimation
      madAnimation := updateAnimation s.madAnimation
      view :=
        { s.view with
          mainFrameBuffer := s.view.secondaryFrameBuffer
          secondaryFrameBuffer := s.view.secondaryFrameBufferNoMouse }
      counter := s.counter + 1 }
  match s.currentState with
  | .game =>
      let s ← if s.timer = 0 then setGameState env .updateTimer .statistics s else pure s
      if s.counter % 60 = 0 ∧ s.timer ≠ 0 then return { s with timer := s.timer - 1 } else return s
  | _ => return s

/-- `drawCursor` on the global cursor. -/
def showCursor (loaded : LoadedSprites) (s : State) : State :=
  { s with
    cursor := clampCursor s.cursor
    view := drawCursor loaded (clampCursor s.cursor) s.view }

/-- `drawTimers`. -/
def drawTimers (loaded : LoadedSprites) (view : View) : View :=
  let view := drawText loaded timerSelection white xMargin (xResolution - xMargin) yMargin view
  let draw := fun (name : SpriteName) (sprite : Sprite) (view : View) =>
    drawSpriteXPM (spritePointer loaded name) sprite.x sprite.y none false view
  let first := draw .timer15 timer15Sprite view
  if first.2 then first.1
  else
    let second := draw .timer30 timer30Sprite first.1
    if second.2 then second.1 else (draw .timer60 timer60Sprite second.1).1

/-- What `GameDrawer` draws once, right after a screen change. -/
def drawScreen (loaded : LoadedSprites) (env : Env) (s : State) : Except Fault State := do
  match s.currentState with
  | .menu =>
      let view := drawBackground (env.rtc 1) .menu s.view
      let view := drawStatic loaded .panda pandaSprite view
      let view := drawStatic loaded .bambuLeft bambuLeftSprite view
      let view := drawStatic loaded .bambuRight bambuRightSprite view
      let view := drawStatic loaded .play playSprite view
      let view := drawStatic loaded .instructions instructionsSprite view
      return { s with view := drawStatic loaded .highscores highscoresSprite view }
  | .game =>
      let view := drawRecordedTime loaded s.timer (drawBackground (env.rtc 1) .game s.view)
      let test ← s.test.deref
      let s := redrawWords loaded test { s with view := view }
      return { s with view := drawRealTime loaded (env.rtc 2) s.view }
  | .timers =>
      return { s with view := drawTimers loaded (drawBackground (env.rtc 1) .timers s.view) }
  | .instructions =>
      let view := drawBackground (env.rtc 1) .instructions s.view
      return { s with
        view := drawText loaded gameInstructions grey xMargin (xResolution - xMargin) 100 view }
  | .statistics =>
      let stats ← s.stats.deref
      let view := drawRectangle statisticsBoxX statisticsBoxY statisticsBoxSizeX statisticsBoxSizeY
        white s.view
      let view := drawText loaded statisticsMessage grey statisticsBoxX
        (statisticsBoxX + statisticsBoxSizeX) statisticsBoxY view
      let view := drawStatistics loaded stats view
      let view := drawStatic loaded .backToMenu backToMenuSprite view
      return { s with view := drawStatic loaded .playAgain playAgainSprite view }
  | .highscores =>
      let drawn := drawHighScores loaded (env.rtc 1) s.scores.highScores.entries
        s.backToMenuHighscore s.view
      return { s with backToMenuHighscore := drawn.1, view := drawn.2 }

/-- `GameDrawer`. -/
def gameDrawer (loaded : LoadedSprites) (env : Env) (s : State) : Except Fault State := do
  let s ← if s.gameStateChange then
      (fun (s : State) => { s with gameStateChange := false }) <$> drawScreen loaded env s
    else pure s
  match s.currentState with
  | .game =>
      let view := drawRealTime loaded (env.rtc 3) s.view
      let view := drawRecordedTime loaded s.timer view
      let s := showCursor loaded { s with view := drawStars loaded s.stars view }
      return { s with
        view := drawAnimationBoth loaded s.happyAnimation s.madAnimation s.view }
  | _ => return showCursor loaded s

/-! ### The main loop -/

/-- One hardware notification: which interrupt bits are set, and what the world answers to the
handler of each. -/
structure Notification where
  keyboard : Option (PortReads × Env)
  timer : Option Env
  mouse : Option (PortReads × Env)
deriving Inhabited

/-- The `HARDWARE` case of `proj_main_loop`: keyboard, timer, mouse, in this order. -/
def handleNotification (loaded : LoadedSprites) (message : Notification) (s : State) :
    Except Fault State := do
  let s ← match message.keyboard with
    | some (ports, env) => keyHandler loaded ports env s
    | none => pure s
  let s ← match message.timer with
    | some env => updateTimer env s >>= gameDrawer loaded env
    | none => pure s
  match message.mouse with
  | some (ports, env) => updateMouse loaded ports env s
  | none => pure s

/-- `currentState == MENU && currentKey == ESC`. -/
def exitRequested (s : State) : Bool := s.currentState == .menu && s.currentKey == .esc

/-- One round of the loop of `proj_main_loop`; past the exit nothing happens any more. -/
def mainLoopStep (loaded : LoadedSprites) (s : State) (message : Notification) :
    Except Fault State :=
  if exitRequested s then .ok s else handleNotification loaded message s

/-- The statically initialised globals, and `setup()`. -/
def setup (file : List Char) : State :=
  { currentKey := .noneKey
    currentState := .menu
    gameStateChange := true
    timer := 0
    counter := 0
    gestureState := .zero
    xGesture := 0
    stars := 0
    test := .null
    stats := .null
    happyAnimation := initialAnimation happyFrames
    madAnimation := initialAnimation madFrames
    scores := { highScores := .zero, file := file }
    data := 0
    mouse := { byteReceived := 0, bytesRead := 0, ppBytes := (0, 0, 0), pp := default }
    cursor := initialCursor
    backToMenuHighscore := backToMenuSprite
    view := default
    nextToken := 0
    log := [.setGameState .setup .menu .menu 0 .zero] }

/-- The state after handling a sequence of notifications from program start. -/
def run (loaded : LoadedSprites) (file : List Char) (messages : List Notification) :
    Except Fault State :=
  messages.foldlM (mainLoopStep loaded) (setup file)

end TypingTutor
