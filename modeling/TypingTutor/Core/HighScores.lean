/-
Module: TypingTutor.Core.HighScores
Layer: Core
Purpose: The high-score table of `model.c` and its text file: `update_high_scores`, `save_high_scores`,
  `load_high_scores` and `initialize_high_scores`.  The table always has `MAX_HIGH_SCORES` entries, so
  its length is a field of the structure.
Trusted boundary: human-reviewed spec
Main exports: HighScores, ScoreStore, updateHighScores, saveHighScores, loadHighScores
-/
import TypingTutor.Core.Data
import TypingTutor.Lib.CFormat

namespace TypingTutor

open CFormat

/-- `MAX_HIGH_SCORES`. -/
def maxHighScores : Nat := 10

/-- The array `highScores[MAX_HIGH_SCORES]`. -/
structure HighScores where
  entries : List HighScore
  size : entries.length = maxHighScores
deriving Repr, DecidableEq

/-- The entry a static array starts with. -/
def zeroScore : HighScore :=
  { wpm := 0
    achievedTime := { year := 0, month := 0, day := 0, hours := 0, minutes := 0, seconds := 0 }
    day := 0
    month := 0 }

/-- The zero-initialised array at program start. -/
def HighScores.zero : HighScores :=
  { entries := List.replicate maxHighScores zeroScore
    size := List.length_replicate }

/-- The table in memory together with the contents of `highscores.txt`. -/
structure ScoreStore where
  highScores : HighScores
  file : List Char
deriving Repr, DecidableEq

/-! ### Insertion -/

/-- `for (j = top; j > i; j--) highScores[j] = highScores[j - 1];` -/
def shiftScoresDown (i : Nat) : Nat → List HighScore → List HighScore
  | 0, entries => entries
  | j + 1, entries =>
      if j + 1 > i then shiftScoresDown i j (entries.set (j + 1) (entries.getD j zeroScore))
      else entries

theorem length_shiftScoresDown (i top : Nat) (entries : List HighScore) :
    (shiftScoresDown i top entries).length = entries.length := by
  induction top generalizing entries with
  | zero => rfl
  | succ j inductionHypothesis =>
      rw [shiftScoresDown]
      split
      · rw [inductionHypothesis, List.length_set]
      · rfl

/-- The entry written for a finished game. -/
def newScore (wpm : Int32) (achievedTime : RealTimeInfo) : HighScore :=
  { wpm := wpm
    achievedTime := achievedTime
    day := achievedTime.day
    month := achievedTime.month }

/-- The insertion loop of `update_high_scores`: at the first entry below the new one, shift the
lower scores down, write the entry and stop. -/
def insertScore (wpm : Int32) (achievedTime : RealTimeInfo) (entries : List HighScore) :
    List HighScore :=
  match (List.range maxHighScores).find? fun i => (entries.getD i zeroScore).wpm < wpm with
  | none => entries
  | some i =>
      (shiftScoresDown i (maxHighScores - 1) entries).set i (newScore wpm achievedTime)

theorem length_insertScore (wpm : Int32) (achievedTime : RealTimeInfo)
    (entries : List HighScore) :
    (insertScore wpm achievedTime entries).length = entries.length := by
  unfold insertScore
  split
  · rfl
  · rw [List.length_set, length_shiftScoresDown]

/-! ### The text file -/

/-- One line, `"%d %02d:%02d:%02d %02d/%02d\n"`. -/
def scoreLine (score : HighScore) : List Char :=
  printInt score.wpm.toInt ++ ' ' ::
    (printPadded 2 score.achievedTime.hours.toNat ++ ':' ::
      (printPadded 2 score.achievedTime.minutes.toNat ++ ':' ::
        (printPadded 2 score.achievedTime.seconds.toNat ++ ' ' ::
          (printPadded 2 score.day.toNat ++ '/' ::
            (printPadded 2 score.month.toNat ++ ['\n'])))))

/-- The text that `save_high_scores` writes. -/
def scoreText (entries : List HighScore) : List Char := entries.flatMap scoreLine

/-- `save_high_scores`; `opened` is whether `fopen` succeeded. -/
def saveHighScores (opened : Bool) (store : ScoreStore) : ScoreStore :=
  if opened then { store with file := scoreText store.highScores.entries } else store

/-- The format `"%d %hhu:%hhu:%hhu %hhu/%hhu"`. -/
def scoreFormat : List Directive :=
  [.number storeInt, .space, .number storeByte, .literal ':', .number storeByte, .literal ':',
    .number storeByte, .space, .number storeByte, .literal '/', .number storeByte]

/-- The assignments of one `fscanf` call: the fields are filled in order, as far as the scan got. -/
def assignScore (score : HighScore) (values : List Int) : HighScore :=
  { wpm := (values[0]?).elim score.wpm Int32.ofInt
    achievedTime :=
      { score.achievedTime with
        hours := (values[1]?).elim score.achievedTime.hours (UInt8.ofNat ·.toNat)
        minutes := (values[2]?).elim score.achievedTime.minutes (UInt8.ofNat ·.toNat)
        seconds := (values[3]?).elim score.achievedTime.seconds (UInt8.ofNat ·.toNat) }
    day := (values[4]?).elim score.day (UInt8.ofNat ·.toNat)
    month := (values[5]?).elim score.month (UInt8.ofNat ·.toNat) }

/-- The reading loop of `load_high_scores`. -/
def loadScores : List HighScore → List Char → List HighScore
  | [], _ => []
  | score :: rest, input =>
      let scanned := scanf scoreFormat input
      if scanned.1.length ≠ 6 then assignScore score scanned.1 :: rest
      else assignScore score scanned.1 :: loadScores rest scanned.2

theorem length_loadScores (entries : List HighScore) (input : List Char) :
    (loadScores entries input).length = entries.length := by
  induction entries generalizing input with
  | nil => rfl
  | cons score rest inductionHypothesis =>
      simp only [loadScores]
      split
      · rfl
      · rw [List.length_cons, inductionHypothesis, List.length_cons]

/-- `initialize_high_scores`: the day, the month and the date in `achieved_time` are not touched. -/
def initializeHighScores (entries : List HighScore) : List HighScore :=
  entries.map fun score =>
    { score with
      wpm := 0
      achievedTime := { score.achievedTime with hours := 0, minutes := 0, seconds := 0 } }

/-- `load_high_scores`. -/
def loadHighScores (opened : Bool) (store : ScoreStore) : ScoreStore :=
  if opened then
    { store with
      highScores :=
        { entries := loadScores store.highScores.entries store.file
          size := by rw [length_loadScores, store.highScores.size] } }
  else
    { store with
      highScores :=
        { entries := initializeHighScores store.highScores.entries
          size := by rw [initializeHighScores, List.length_map, store.highScores.size] } }

/-- `update_high_scores`, which ends by saving the table. -/
def updateHighScores (opened : Bool) (wpm : Int32) (achievedTime : RealTimeInfo)
    (store : ScoreStore) : ScoreStore :=
  saveHighScores opened
    { store with
      highScores :=
        { entries := insertScore wpm achievedTime store.highScores.entries
          size := by rw [length_insertScore, store.highScores.size] } }

end TypingTutor
