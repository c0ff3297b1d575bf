/-
Module: TypingTutor.Core.Typing
Layer: Core
Purpose: The typing test of one game, apart from drawing: `initializeTest`, `initializeStats`,
  `load_new_word`, `shift_words_up`, and the edits that `process_key`, `handle_space_key`,
  `handle_delete_key` and `fill_current_word` make to the test and the statistics.
Trusted boundary: human-reviewed spec
Main exports: Env, initializeTest, initializeStats, loadNewWord, shiftWordsUp, typeLetter, judgeWord,
  advanceWord, deleteLetter, fillWord
-/
import TypingTutor.Core.Data
import TypingTutor.Core.WordPool

namespace TypingTutor

/-- What the outside world answers while one handler runs: the outcome of the `rand()` call made for
word `i`, the indeterminate position and line fields of a `Word` built on the stack, the clock reading
at each call site of `rtc_read_time`, and whether `fopen` succeeds. -/
structure Env where
  rand : Nat → Nat
  junk : Nat → Int × Int × Int
  rtc : Nat → RealTimeInfo
  fopen : Bool
deriving Inhabited

/-! ### Building words -/

/-- A word as `initializeTest` and `load_new_word` build it; the position and line fields are not
initialised. -/
def newWord (characters : List Char) (junk : Int × Int × Int) : Word :=
  { letters := characters.map fun c => { character := c, status := 0 }
    status := 0
    x := junk.1
    y := junk.2.1
    line := junk.2.2 }

/-- The extra element at the end of the array. -/
def sentinelWord : Word := { letters := [], status := 0, x := -1, y := -1, line := -1 }

/-- `initializeTest(&test, wordPool, pool, count)`. -/
def initializeTest (env : Env) (pool count : Nat) : Except Fault TypingTest :=
  if pool > poolSize ∨ pool = 0 then .error .exitFailure
  else if count = 0 ∨ count > maxWords then .error .exitFailure
  else .ok
    { words :=
        (List.range count).map (fun i => newWord (poolWord (env.rand i % pool)) (env.junk i)) ++
          [sentinelWord]
      wordCount := count
      currentWordIndex := 0
      currentInputIndex := 0
      currentInput := List.replicate maxWordLength '\x00'
      numberOfLines := -1 }

/-- `initializeStats`, with the `time` that `setGameState` stores right after it. -/
def initializeStats (time : Int) : Statistics :=
  { correctWords := 0
    incorrectWords := 0
    correctLetters := 0
    incorrectLetters := 0
    typedLetters := 0
    typedWords := 0
    time := time }

/-- `load_new_word`. -/
def loadNewWord (env : Env) (test : TypingTest) (index : Nat) : TypingTest :=
  { test with
    words := test.words.set index (newWord (poolWord (env.rand index % 80)) (env.junk index)) }

/-! ### Scrolling -/

/-- The array and the two running indices of `shift_words_up`. -/
structure ShiftState where
  words : List Word
  penultimateLineIndex : Nat
  lastLineIndex : Nat
deriving Repr, DecidableEq

/-- `words[i].line == line`. -/
def onLine (words : List Word) (i : Nat) (line : Int) : Bool :=
  (words[i]?).any fun word => word.line == line

/-- `words[target] = words[source]`. -/
def copyWord (words : List Word) (target source : Nat) : List Word :=
  words.set target (words.getD source sentinelWord)

/-- One round of the copying loop of `shift_words_up`. -/
def shiftStep (numberOfLines : Int) (shift : ShiftState) (i : Nat) : ShiftState :=
  let moved :=
    if onLine shift.words i (numberOfLines - 1) then
      { shift with
        words := copyWord shift.words shift.penultimateLineIndex i
        penultimateLineIndex := shift.penultimateLineIndex + 1 }
    else shift
  if onLine moved.words i numberOfLines then
    { moved with
      words := copyWord moved.words (moved.penultimateLineIndex + moved.lastLineIndex) i
      lastLineIndex := moved.lastLineIndex + 1 }
  else moved

/-- The copying loop, `for (i = 0; i < wordCount - 1; i++)`. -/
def shiftLoop (test : TypingTest) : ShiftState :=
  (List.range (test.wordCount - 1)).foldl (shiftStep test.numberOfLines)
    { words := test.words, penultimateLineIndex := 0, lastLineIndex := 0 }

/-- `shift_words_up` up to the redrawing of the background. -/
def shiftWordsUp (env : Env) (test : TypingTest) : TypingTest :=
  let shifted := shiftLoop test
  let first := shifted.penultimateLineIndex + shifted.lastLineIndex
  (List.range' first (test.wordCount - first)).foldl (loadNewWord env)
    { test with words := shifted.words }

/-! ### Editing the current word -/

/-- `&test->words[test->currentWordIndex]`. -/
def TypingTest.currentWord (test : TypingTest) : Except Fault Word :=
  match test.words[test.currentWordIndex]? with
  | some word => .ok word
  | none => .error .outOfBounds

/-- A write through `currentWord`. -/
def TypingTest.modifyWord (test : TypingTest) (edit : Word → Word) : TypingTest :=
  { test with words := test.words.modify test.currentWordIndex edit }

/-- `letters[k].status = status`. -/
def Word.setLetterStatus (k : Nat) (status : Int) (word : Word) : Word :=
  { word with letters := word.letters.modify k fun letter => { letter with status := status } }

/-- The branch of `process_key` for a letter that fits the word: mark it, count it and move on. -/
def typeLetter (c : Char) (word : Word) (test : TypingTest) (stats : Statistics) :
    TypingTest × Statistics :=
  let k := test.currentInputIndex
  let counted := { stats with typedLetters := stats.typedLetters + 1 }
  if (word.letters[k]?).map (·.character) ≠ some c then
    ({ test.modifyWord (Word.setLetterStatus k (-1)) with currentInputIndex := k + 1 },
      { counted with incorrectLetters := counted.incorrectLetters + 1 })
  else
    ({ test.modifyWord (Word.setLetterStatus k 1) with currentInputIndex := k + 1 },
      { counted with correctLetters := counted.correctLetters + 1 })

/-- The first loop of `handle_space_key`. -/
def isCorrect (word : Word) : Bool :=
  word.letters.all fun letter => !(letter.status == -1 || letter.status == 0)

/-- `handle_space_key` up to the scroll: judge the current word and count it. -/
def judgeWord (word : Word) (test : TypingTest) (stats : Statistics) : TypingTest × Statistics :=
  let counted := { stats with typedWords := stats.typedWords + 1 }
  if isCorrect word then
    (test.modifyWord fun word => { word with status := 1 },
      { counted with correctWords := counted.correctWords + 1 })
  else
    (test.modifyWord fun word => { word with status := -1 },
      { counted with incorrectWords := counted.incorrectWords + 1 })

/-- `number_of_words_in_penultimate_line`. -/
def wordsInPenultimateLine (test : TypingTest) : Nat :=
  (test.words.take test.wordCount).countP fun word => word.line == test.numberOfLines - 1

/-- `isLastWordOnLine`: no later word is on the penultimate line. -/
def isLastWordOnLine (test : TypingTest) : Bool :=
  ((test.words.take test.wordCount).drop (test.currentWordIndex + 1)).all fun word =>
    !(word.line == test.numberOfLines - 1)

/-- The condition under which `handle_space_key` scrolls. -/
def scrolls (test : TypingTest) : Bool :=
  onLine test.words test.currentWordIndex (test.numberOfLines - 1) && isLastWordOnLine test

/-- The second half of `handle_space_key` apart from drawing: scroll or step to the next word, then
clear the input. -/
def advanceWord (env : Env) (test : TypingTest) : TypingTest :=
  let moved :=
    if scrolls test then
      { shiftWordsUp env test with currentWordIndex := wordsInPenultimateLine test }
    else { test with currentWordIndex := test.currentWordIndex + 1 }
  { moved with
    currentInputIndex := 0
    currentInput := List.replicate maxWordLength '\x00' }

/-- The edit of `handle_delete_key`. -/
def deleteLetter (test : TypingTest) : TypingTest :=
  if test.currentInputIndex > 0 then
    { test.modifyWord (Word.setLetterStatus (test.currentInputIndex - 1) 0) with
      currentInputIndex := test.currentInputIndex - 1 }
  else test

/-- The edit of `fill_current_word`. -/
def fillWord (word : Word) (test : TypingTest) : TypingTest :=
  { test.modifyWord fun word =>
      { word with letters := word.letters.map fun letter => { letter with status := 1 } } with
    currentInput := word.chars ++ test.currentInput.drop word.length
    currentInputIndex := word.length }

end TypingTutor
