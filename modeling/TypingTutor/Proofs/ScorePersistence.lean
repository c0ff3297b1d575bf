/-
Module: TypingTutor.Proofs.ScorePersistence
Layer: Proofs
Purpose: High scores across program sessions.  `update_high_scores` is the incremental step of a
  stable top ten, and the text file gives back the six saved fields of every entry.  A session that
  finishes a game before it has read the file starts from the zero table and overwrites what was
  there; every other sequence of sessions keeps the ten best of everything.
Trusted boundary: none
Main exports: insertScore_eq_take, update_inserts_below_equals, high_scores_round_trip, ScoreEvent,
  runSessions, runSessions_keeps_ten_best, unread_file_is_overwritten
-/
import TypingTutor.Core.HighScores
import TypingTutor.Lib.StableTop
import Mathlib.Data.List.GetD

namespace TypingTutor

open CFormat StableTop

/-! ### Insertion is the stable top-ten step -/

/-- The key of the table. -/
def speed (score : HighScore) : Int := score.wpm.toInt

theorem wpm_lt_iff (score : HighScore) (wpm : Int32) :
    score.wpm < wpm ↔ speed score < wpm.toInt :=
  Int32.lt_iff_toInt_lt

/-- The shifting loop moves the entries between the two indices down by one. -/
theorem getElem?_shiftScoresDown (i bound : Nat) (entries : List HighScore)
    (inside : bound < entries.length) (m : Nat) :
    (shiftScoresDown i bound entries)[m]? =
      if i < m ∧ m ≤ bound then entries[m - 1]? else entries[m]? := by
  induction bound generalizing entries with
  | zero =>
      have outside : ¬ (i < m ∧ m ≤ 0) := by omega
      rw [shiftScoresDown, if_neg outside]
  | succ j inductionHypothesis =>
      rw [shiftScoresDown]
      split
      · rename_i above
        rw [inductionHypothesis _ (by rw [List.length_set]; omega)]
        have source : entries.getD j zeroScore = entries[j] := by
          rw [List.getD_eq_getElem]
        rw [source]
        by_cases atTop : m = j + 1
        · subst atTop
          have notBelow : ¬ (i < j + 1 ∧ j + 1 ≤ j) := by omega
          rw [if_neg notBelow, if_pos ⟨above, Nat.le_refl _⟩]
          simp [inside]
        · by_cases between : i < m ∧ m ≤ j
          · rw [if_pos between, if_pos ⟨between.1, by omega⟩]
            rw [List.getElem?_set_ne (by omega)]
          · rw [if_neg between, if_neg (by omega)]
            rw [List.getElem?_set_ne (by omega)]
      · rename_i notAbove
        rw [if_neg (by omega)]

/-- Writing the new entry over the freed slot is an insertion that drops the last entry. -/
theorem set_shiftScoresDown (i : Nat) (entries : List HighScore) (new : HighScore)
    (size : entries.length = maxHighScores) (inside : i < maxHighScores) :
    (shiftScoresDown i (maxHighScores - 1) entries).set i new =
      (entries.take i ++ new :: entries.drop i).take maxHighScores := by
  have bound : maxHighScores - 1 < entries.length := by rw [size]; decide
  apply List.ext_getElem?
  intro m
  have lengthTake : (entries.take i).length = i := by
    rw [List.length_take, size]
    omega
  rw [List.getElem?_take]
  by_cases inTable : m < maxHighScores
  · rw [if_pos inTable]
    rcases Nat.lt_trichotomy m i with before | rfl | after
    · rw [List.getElem?_set_ne (by omega), getElem?_shiftScoresDown i _ _ bound,
        if_neg (by omega), List.getElem?_append_left (by omega), List.getElem?_take,
        if_pos before]
    · rw [List.getElem?_set_self (by rw [length_shiftScoresDown, size]; exact inTable),
        List.getElem?_append_right (by omega), lengthTake, Nat.sub_self]
      rfl
    · obtain ⟨gap, rfl⟩ : ∃ gap, m = i + gap + 1 := ⟨m - i - 1, by omega⟩
      rw [List.getElem?_set_ne (by omega), getElem?_shiftScoresDown i _ _ bound,
        if_pos ⟨by omega, by omega⟩, List.getElem?_append_right (by omega), lengthTake]
      have offset : i + gap + 1 - i = gap + 1 := by omega
      rw [offset, List.getElem?_cons_succ, List.getElem?_drop]
      rfl
  · rw [if_neg inTable, List.getElem?_eq_none]
    rw [List.length_set, length_shiftScoresDown, size]
    omega

/-- The insertion loop of `update_high_scores` is the incremental step of the top ten. -/
theorem insertScore_eq_take (wpm : Int32) (time : RealTimeInfo) (entries : List HighScore)
    (size : entries.length = maxHighScores) :
    insertScore wpm time entries =
      (insertBelow speed (newScore wpm time) entries).take maxHighScores := by
  -- The loop compares entry by entry; `getD` never leaves the table.
  have entryAt : ∀ j (inside : j < entries.length),
      entries.getD j zeroScore = entries.get ⟨j, inside⟩ := by
    intro j inside
    rw [List.getD_eq_getElem _ _ inside]
    rfl
  unfold insertScore
  split
  · rename_i noSlot
    have allAbove : ∀ element ∈ entries.take maxHighScores,
        speed (newScore wpm time) ≤ speed element := by
      intro element member
      obtain ⟨j, inside, rfl⟩ := List.mem_iff_getElem.mp (List.mem_of_mem_take member)
      have notBelow := List.find?_eq_none.mp noSlot j (List.mem_range.mpr (by omega))
      rw [entryAt j inside, decide_eq_true_eq, wpm_lt_iff] at notBelow
      exact not_lt.mp notBelow
    rw [insertBelow_eq_append speed _ entries maxHighScores allAbove
      (by rw [List.drop_eq_nil_of_le (by omega)]; simp)]
    rw [List.take_of_length_le (Nat.le_of_eq size), List.take_left' size]
  · rename_i i found
    obtain ⟨below, inRange, before⟩ := List.find?_range_eq_some.mp found
    have inside : i < maxHighScores := List.mem_range.mp inRange
    rw [set_shiftScoresDown i entries _ size inside]
    rw [insertBelow_eq_append speed _ entries i]
    · intro element member
      obtain ⟨j, inTake, rfl⟩ := List.mem_iff_getElem.mp member
      have jLess : j < i := by
        rw [List.length_take] at inTake
        omega
      have notBelow := before j jLess
      rw [entryAt j (by omega), Bool.not_eq_true', decide_eq_false_iff_not, wpm_lt_iff] at notBelow
      rw [List.getElem_take]
      exact not_lt.mp notBelow
    · intro element member
      rw [List.head?_drop, Option.mem_def] at member
      obtain ⟨insideEntries, rfl⟩ := List.getElem?_eq_some_iff.mp member
      rw [entryAt i insideEntries, decide_eq_true_eq, wpm_lt_iff] at below
      exact below

theorem updateHighScores_entries (opened : Bool) (wpm : Int32) (time : RealTimeInfo)
    (store : ScoreStore) :
    (updateHighScores opened wpm time store).highScores.entries =
      insertScore wpm time store.highScores.entries := by
  unfold updateHighScores saveHighScores
  split
  · rfl
  · rfl

/-- On a sorted table `update_high_scores` is stable top-ten insertion: the new entry goes right after
all entries that are at least as good, the table stays sorted, every old entry but the lowest keeps its
fields and its place among the others, and a speed that does not beat the lowest changes nothing. -/
theorem update_inserts_below_equals (opened : Bool) (wpm : Int32) (time : RealTimeInfo)
    (store : ScoreStore)
    (sorted : store.highScores.entries.Pairwise fun first second => speed second ≤ speed first) :
    (updateHighScores opened wpm time store).highScores.entries =
        (store.highScores.entries.filter (fun score => wpm.toInt ≤ speed score) ++
          newScore wpm time ::
            store.highScores.entries.filter (fun score => speed score < wpm.toInt)).take
          maxHighScores ∧
      ((updateHighScores opened wpm time store).highScores.entries.Pairwise fun first second =>
        speed second ≤ speed first) ∧
      store.highScores.entries.dropLast.Sublist
        (updateHighScores opened wpm time store).highScores.entries ∧
      ∀ lowest, store.highScores.entries.getLast? = some lowest → wpm.toInt ≤ speed lowest →
        (updateHighScores opened wpm time store).highScores.entries = store.highScores.entries := by
  have size := store.highScores.size
  rw [updateHighScores_entries, insertScore_eq_take wpm time _ size]
  refine ⟨?_, ?_, ?_, ?_⟩
  · exact congrArg (List.take maxHighScores)
      (insertBelow_of_pairwise speed (newScore wpm time) sorted)
  · exact (pairwise_insertBelow speed _ sorted).take
  · rw [← size]
    exact dropLast_sublist_take_insertBelow speed _ _
  · intro lowest last slow
    -- Everything is at least as good as the lowest entry, so the newcomer falls off the end.
    have above : ∀ score ∈ store.highScores.entries, speed (newScore wpm time) ≤ speed score := by
      obtain ⟨better, split⟩ := List.getLast?_eq_some_iff.mp last
      rw [split] at sorted ⊢
      intro score member
      rcases List.mem_append.mp member with before | here
      · exact le_trans slow ((List.pairwise_append.mp sorted).2.2 score before lowest (by simp))
      · rw [List.mem_singleton.mp here]
        exact slow
    rw [insertBelow_eq_append speed _ _ maxHighScores
      (fun score member => above score (List.mem_of_mem_take member))
      (by rw [List.drop_eq_nil_of_le (by omega)]; simp)]
    rw [List.take_of_length_le (Nat.le_of_eq size), List.take_left' size]

/-- A clock reading for concrete sessions. -/
def someEvening : RealTimeInfo :=
  { year := 24, month := 6, day := 2, hours := 21, minutes := 7, seconds := 30 }

def laterEvening : RealTimeInfo := { someEvening with day := 3 }

/-- Ten scores of one evening, two of them of the same speed. -/
def fullTable : HighScores :=
  { entries := [60, 52, 40, 40, 36, 30, 30, 20, 10, 5].map fun wpm => newScore wpm someEvening
    size := rfl }

/-- A score goes below the two that it equals, and the lowest falls off. -/
theorem equal_score_goes_below :
    (updateHighScores true 40 laterEvening { highScores := fullTable, file := [] }).highScores.entries =
      ([60, 52, 40, 40].map fun wpm => newScore wpm someEvening) ++ newScore 40 laterEvening ::
        [36, 30, 30, 20, 10].map fun wpm => newScore wpm someEvening := by
  have sorted : fullTable.entries.Pairwise fun first second => speed second ≤ speed first := by
    decide +kernel
  rw [(update_inserts_below_equals true 40 laterEvening
    { highScores := fullTable, file := [] } sorted).1]
  decide +kernel

/-! ### The file gives back what it was written from -/

/-- The six fields of an entry that the file keeps. -/
structure SavedScore where
  wpm : Int32
  hours : UInt8
  minutes : UInt8
  seconds : UInt8
  day : UInt8
  month : UInt8
deriving Repr, DecidableEq

def saved (score : HighScore) : SavedScore :=
  { wpm := score.wpm
    hours := score.achievedTime.hours
    minutes := score.achievedTime.minutes
    seconds := score.achievedTime.seconds
    day := score.day
    month := score.month }

/-- The key of the table survives saving. -/
def savedSpeed (score : SavedScore) : Int := score.wpm.toInt

theorem savedSpeed_saved (score : HighScore) : savedSpeed (saved score) = speed score := rfl

/-- The six numbers that `fscanf` stores for an entry. -/
def savedValues (score : HighScore) : List Int :=
  [score.wpm.toInt, score.achievedTime.hours.toNat, score.achievedTime.minutes.toNat,
    score.achievedTime.seconds.toNat, score.day.toNat, score.month.toNat]

/-- The format reads one printed line up to its line break. -/
theorem scanf_scoreLine (score : HighScore) (rest : List Char) :
    scanf scoreFormat (scoreLine score ++ rest) = (savedValues score, '\n' :: rest) := by
  have stopBlank : ∀ tail, NoDigit (' ' :: tail) := fun tail => noDigit_cons rfl
  have stopColon : ∀ tail, NoDigit (':' :: tail) := fun tail => noDigit_cons rfl
  have stopSlash : ∀ tail, NoDigit ('/' :: tail) := fun tail => noDigit_cons rfl
  have stopBreak : ∀ tail, NoDigit ('\n' :: tail) := fun tail => noDigit_cons rfl
  have byte : ∀ value : UInt8, storeByte value.toNat = value.toNat :=
    fun value => storeByte_of_lt value.toNat_lt
  have wpm : storeInt score.wpm.toInt = score.wpm.toInt :=
    storeInt_of_range score.wpm.le_toInt score.wpm.toInt_lt
  simp only [scoreFormat, scoreLine, List.append_assoc, List.cons_append, List.nil_append]
  rw [scanf_printInt _ _ _ (stopBlank _), scanf_space_number, scanf_number_space _ _ rfl,
    scanf_printPadded _ _ _ _ (stopColon _), scanf_literal,
    scanf_printPadded _ _ _ _ (stopColon _), scanf_literal,
    scanf_printPadded _ _ _ _ (stopBlank _), scanf_space_number, scanf_number_space _ _ rfl,
    scanf_printPadded _ _ _ _ (stopSlash _), scanf_literal,
    scanf_printPadded _ _ _ _ (stopBreak _)]
  simp only [scanf, byte, wpm, savedValues]

/-- An entry in memory with the six saved fields of another. -/
def restored (old score : HighScore) : HighScore :=
  { wpm := score.wpm
    achievedTime :=
      { old.achievedTime with
        hours := score.achievedTime.hours
        minutes := score.achievedTime.minutes
        seconds := score.achievedTime.seconds }
    day := score.day
    month := score.month }

theorem saved_restored (old score : HighScore) : saved (restored old score) = saved score := rfl

/-- Assigning all six values restores the saved fields and no others, whatever was there before. -/
theorem assignScore_savedValues (old score : HighScore) :
    assignScore old (savedValues score) = restored old score := by
  simp [assignScore, savedValues, restored]

/-- The line break left over by one record is white space in front of the next. -/
theorem scanf_scoreFormat_break (input : List Char) :
    scanf scoreFormat ('\n' :: input) = scanf scoreFormat input :=
  scanf_number_space _ _ rfl input

theorem loadScores_break (entries : List HighScore) (input : List Char) :
    loadScores entries ('\n' :: input) = loadScores entries input := by
  cases entries with
  | nil => rfl
  | cons score rest => simp only [loadScores, scanf_scoreFormat_break]

/-- Loading a saved table restores the six saved fields of every entry, whatever table was in
memory. -/
theorem loadScores_scoreText_eq (old table : List HighScore) (size : old.length = table.length) :
    loadScores old (scoreText table) = List.zipWith restored old table := by
  induction table generalizing old with
  | nil =>
      rw [List.length_nil, List.length_eq_zero_iff] at size
      subst size
      rfl
  | cons score table inductionHypothesis =>
      cases old with
      | nil => simp at size
      | cons first old =>
          have text : scoreText (score :: table) = scoreLine score ++ scoreText table := rfl
          have complete : ¬ (savedValues score).length ≠ 6 := by simp [savedValues]
          simp only [loadScores, text, scanf_scoreLine, if_neg complete, List.zipWith_cons_cons]
          rw [assignScore_savedValues, loadScores_break,
            inductionHypothesis old (Nat.succ.inj size)]

theorem map_saved_zipWith_restored {old table : List HighScore} (size : old.length = table.length) :
    (List.zipWith restored old table).map saved = table.map saved := by
  induction table generalizing old with
  | nil => simp
  | cons score table inductionHypothesis =>
      cases old with
      | nil => simp at size
      | cons first old =>
          rw [List.zipWith_cons_cons, List.map_cons, List.map_cons, saved_restored,
            inductionHypothesis (Nat.succ.inj size)]

theorem loadScores_scoreText (old table : List HighScore) (size : old.length = table.length) :
    (loadScores old (scoreText table)).map saved = table.map saved := by
  rw [loadScores_scoreText_eq old table size, map_saved_zipWith_restored size]

/-- The text depends on the saved fields only. -/
theorem scoreText_congr {first second : List HighScore}
    (same : first.map saved = second.map saved) : scoreText first = scoreText second := by
  have lineOfSaved : ∀ one two : HighScore, saved one = saved two →
      scoreLine one = scoreLine two := by
    intro one two sameFields
    simp only [saved, SavedScore.mk.injEq] at sameFields
    obtain ⟨wpm, hours, minutes, seconds, day, month⟩ := sameFields
    simp only [scoreLine, wpm, hours, minutes, seconds, day, month]
  induction first generalizing second with
  | nil =>
      rw [List.map_nil, eq_comm, List.map_eq_nil_iff] at same
      rw [same]
  | cons one first inductionHypothesis =>
      cases second with
      | nil => simp at same
      | cons two second =>
          rw [List.map_cons, List.map_cons, List.cons.injEq] at same
          simp only [scoreText, List.flatMap_cons] at inductionHypothesis ⊢
          rw [lineOfSaved one two same.1, inductionHypothesis same.2]

/-- `load_high_scores` on the file that `save_high_scores` writes from a table, with another table in
memory. -/
def reload (table memory : HighScores) (before : List Char) : ScoreStore :=
  loadHighScores true
    { highScores := memory
      file := (saveHighScores true { highScores := table, file := before }).file }

/-- The file round trip: loading restores the six saved fields of every entry and leaves the other
fields of the table in memory alone, and saving again writes the same text. -/
theorem high_scores_round_trip (table memory : HighScores) (before : List Char) :
    (reload table memory before).highScores.entries.map saved = table.entries.map saved ∧
      (reload table memory before).highScores.entries =
        List.zipWith restored memory.entries table.entries ∧
      (saveHighScores true (reload table memory before)).file =
        (saveHighScores true { highScores := table, file := before }).file := by
  have size : memory.entries.length = table.entries.length := by rw [memory.size, table.size]
  have loaded : (reload table memory before).highScores.entries =
      loadScores memory.entries (scoreText table.entries) := rfl
  have fields := loadScores_scoreText memory.entries table.entries size
  rw [← loaded] at fields
  refine ⟨fields, ?_, scoreText_congr fields⟩
  rw [loaded]
  exact loadScores_scoreText_eq memory.entries table.entries size

/-- Two tables of one size with the same text have the same saved fields: loading the text into any
table yields the fields of both. -/
theorem saved_of_scoreText_eq {first second : List HighScore}
    (size : first.length = second.length) (same : scoreText first = scoreText second) :
    first.map saved = second.map saved := by
  rw [← loadScores_scoreText first second size, ← same, loadScores_scoreText first first rfl]

/-! ### Sessions -/

/-- What a session does to the high scores: a game runs out its timer (`setGameState(STATISTICS)`), or
the high-score screen is entered (`setGameState(HIGHSCORES)`).  `fopen` succeeds. -/
inductive ScoreEvent where
  | gameOver (wpm : Int32) (time : RealTimeInfo)
  | highscores
deriving Repr, DecidableEq

def scoreStep (store : ScoreStore) : ScoreEvent → ScoreStore
  | .gameOver wpm time => updateHighScores true wpm time store
  | .highscores => loadHighScores true store

/-- A program session: the table in memory starts out as zeros, the file is what the last session
left. -/
def runSession (file : List Char) (session : List ScoreEvent) : List Char :=
  (session.foldl scoreStep { highScores := .zero, file := file }).file

def runSessions (file : List Char) (sessions : List (List ScoreEvent)) : List Char :=
  sessions.foldl runSession file

/-- The entries of the games finished, oldest first. -/
def finishedGames (session : List ScoreEvent) : List HighScore :=
  session.filterMap fun event =>
    match event with
    | .gameOver wpm time => some (newScore wpm time)
    | .highscores => none

/-- The ten best entries, older ones first among equals. -/
def tenBest (entries : List HighScore) : List HighScore := top speed maxHighScores entries

/-- A session that starts with a finished game, before it has entered the high-score screen. -/
def ScoresBeforeLoading (session : List ScoreEvent) : Prop :=
  ∃ wpm time, session.head? = some (.gameOver wpm time)

instance (session : List ScoreEvent) : Decidable (ScoresBeforeLoading session) :=
  match session with
  | [] => .isFalse (by rintro ⟨_, _, impossible⟩; cases impossible)
  | .gameOver wpm time :: _ => .isTrue ⟨wpm, time, rfl⟩
  | .highscores :: _ => .isFalse (by rintro ⟨_, _, impossible⟩; cases impossible)

/-- Every session reads the file before it writes it, unless the file is that of the zero table. -/
def ReadsBeforeWriting : List Char → List (List ScoreEvent) → Prop
  | _, [] => True
  | file, session :: sessions =>
      (ScoresBeforeLoading session → file = scoreText HighScores.zero.entries) ∧
        ReadsBeforeWriting (runSession file session) sessions

/-- The table in memory is the ten best of a history, as far as its saved fields go. -/
def Remembers (store : ScoreStore) (history : List HighScore) : Prop :=
  store.highScores.entries.map saved = (tenBest history).map saved

theorem length_tenBest_of_remembers {store : ScoreStore} {history : List HighScore}
    (remembers : Remembers store history) : (tenBest history).length = maxHighScores := by
  have sizes := congrArg List.length remembers
  rw [List.length_map, List.length_map, store.highScores.size] at sizes
  exact sizes.symm

/-- A finished game on a table that remembers the history: the table and the file both move on to the
history with that game. -/
theorem remembers_gameOver {store : ScoreStore} {history : List HighScore} (wpm : Int32)
    (time : RealTimeInfo) (remembers : Remembers store history) :
    Remembers (scoreStep store (.gameOver wpm time)) (history ++ [newScore wpm time]) ∧
      (scoreStep store (.gameOver wpm time)).file =
        scoreText (tenBest (history ++ [newScore wpm time])) := by
  have table : (scoreStep store (.gameOver wpm time)).highScores.entries =
      insertScore wpm time store.highScores.entries := rfl
  have moved : Remembers (scoreStep store (.gameOver wpm time)) (history ++ [newScore wpm time]) := by
    unfold Remembers tenBest at remembers ⊢
    rw [table, insertScore_eq_take wpm time _ store.highScores.size, top_concat, List.map_take,
      List.map_take, insertBelow_map speed savedSpeed_saved, insertBelow_map speed savedSpeed_saved,
      remembers]
  refine ⟨moved, ?_⟩
  have written : (scoreStep store (.gameOver wpm time)).file =
      scoreText (scoreStep store (.gameOver wpm time)).highScores.entries := rfl
  rw [written]
  exact scoreText_congr moved

/-- Entering the high-score screen makes the table remember what the file holds. -/
theorem remembers_highscores {store : ScoreStore} {history : List HighScore}
    (size : (tenBest history).length = maxHighScores)
    (holds : store.file = scoreText (tenBest history)) :
    Remembers (scoreStep store .highscores) history ∧
      (scoreStep store .highscores).file = scoreText (tenBest history) := by
  refine ⟨?_, holds⟩
  have table : (scoreStep store .highscores).highScores.entries =
      loadScores store.highScores.entries store.file := rfl
  rw [Remembers, table, holds]
  exact loadScores_scoreText _ _ (by rw [store.highScores.size, size])

/-- Once the table remembers the history, the rest of the session keeps the file right. -/
theorem session_from_remembering (session : List ScoreEvent) :
    ∀ (store : ScoreStore) (history : List HighScore),
      Remembers store history → store.file = scoreText (tenBest history) →
        (session.foldl scoreStep store).file =
          scoreText (tenBest (history ++ finishedGames session)) ∧
        (tenBest (history ++ finishedGames session)).length = maxHighScores := by
  induction session with
  | nil =>
      intro store history remembers holds
      rw [finishedGames, List.filterMap_nil, List.append_nil]
      exact ⟨holds, length_tenBest_of_remembers remembers⟩
  | cons event session inductionHypothesis =>
      intro store history remembers holds
      cases event with
      | gameOver wpm time =>
          obtain ⟨remembersNext, holdsNext⟩ := remembers_gameOver wpm time remembers
          have games : history ++ finishedGames (.gameOver wpm time :: session) =
              (history ++ [newScore wpm time]) ++ finishedGames session := by
            simp [finishedGames]
          rw [games]
          exact inductionHypothesis _ _ remembersNext holdsNext
      | highscores =>
          obtain ⟨remembersNext, holdsNext⟩ :=
            remembers_highscores (length_tenBest_of_remembers remembers) holds
          exact inductionHypothesis _ _ remembersNext holdsNext

/-- One session that reads before it writes. -/
theorem runSession_keeps_tenBest {file : List Char} {session : List ScoreEvent}
    {history : List HighScore} (size : (tenBest history).length = maxHighScores)
    (holds : file = scoreText (tenBest history))
    (reads : ScoresBeforeLoading session → file = scoreText HighScores.zero.entries) :
    runSession file session = scoreText (tenBest (history ++ finishedGames session)) ∧
      (tenBest (history ++ finishedGames session)).length = maxHighScores := by
  cases session with
  | nil =>
      rw [finishedGames, List.filterMap_nil, List.append_nil]
      exact ⟨holds, size⟩
  | cons event session =>
      cases event with
      | gameOver wpm time =>
          -- The file holds the zero table, so the zeros in memory are what it holds.
          have zeros := reads ⟨wpm, time, rfl⟩
          have remembers : Remembers { highScores := .zero, file := file } history := by
            refine saved_of_scoreText_eq ?_ ?_
            · rw [size]
              exact HighScores.zero.size
            · rw [← zeros, holds]
          exact session_from_remembering _ _ history remembers holds
      | highscores =>
          obtain ⟨remembers, holdsNext⟩ :=
            @remembers_highscores { highScores := .zero, file := file } history size holds
          exact session_from_remembering session _ history remembers holdsNext

theorem runSessions_from (sessions : List (List ScoreEvent)) :
    ∀ (file : List Char) (history : List HighScore),
      (tenBest history).length = maxHighScores → file = scoreText (tenBest history) →
      ReadsBeforeWriting file sessions →
        runSessions file sessions =
          scoreText (tenBest (history ++ sessions.flatMap finishedGames)) := by
  induction sessions with
  | nil =>
      intro file history size holds _
      rw [List.flatMap_nil, List.append_nil]
      exact holds
  | cons session sessions inductionHypothesis =>
      intro file history size holds reads
      obtain ⟨readsNow, readsLater⟩ := reads
      obtain ⟨holdsNext, sizeNext⟩ := runSession_keeps_tenBest size holds readsNow
      rw [List.flatMap_cons, ← List.append_assoc]
      exact inductionHypothesis _ _ sizeNext holdsNext readsLater

/-- High scores are kept across sessions as long as every session reads the file before it writes
it: the file then holds the ten best of its initial entries and of all finished games. -/
theorem runSessions_keeps_ten_best (table : HighScores)
    (sorted : table.entries.Pairwise fun first second => speed second ≤ speed first)
    (sessions : List (List ScoreEvent))
    (reads : ReadsBeforeWriting (scoreText table.entries) sessions) :
    runSessions (scoreText table.entries) sessions =
      scoreText (tenBest (table.entries ++ sessions.flatMap finishedGames)) := by
  have initial : tenBest table.entries = table.entries := by
    rw [tenBest, top, rank_of_pairwise speed sorted]
    exact List.take_of_length_le (Nat.le_of_eq table.size)
  exact runSessions_from sessions _ table.entries (by rw [initial]; exact table.size)
    (by rw [initial]) reads

/-- Two sessions from the zero table: a game at once, then a visit to the screen and a better game. -/
theorem two_sessions_keep_ten_best :
    runSessions (scoreText HighScores.zero.entries)
        [[.gameOver 36 someEvening], [.highscores, .gameOver 50 someEvening]] =
      scoreText (tenBest (HighScores.zero.entries ++
        [newScore 36 someEvening, newScore 50 someEvening])) := by
  refine runSessions_keeps_ten_best HighScores.zero (by decide +kernel)
    [[.gameOver 36 someEvening], [.highscores, .gameOver 50 someEvening]] ?_
  refine ⟨fun _ => rfl, ?_, trivial⟩
  rintro ⟨_, _, impossible⟩
  cases impossible

/-- The table after one earlier game of 36 words per minute. -/
def earlierTable : HighScores :=
  { entries := newScore 36 someEvening :: List.replicate 9 zeroScore
    size := rfl }

/-- A session that finishes a game without having entered the high-score screen loses the earlier
game: the zero table in memory is written over the file. -/
theorem unread_file_is_overwritten :
    (earlierTable.entries.Pairwise fun first second => speed second ≤ speed first) ∧
      runSessions (scoreText earlierTable.entries) [[.gameOver 10 someEvening]] ≠
        scoreText (tenBest (earlierTable.entries ++ [newScore 10 someEvening])) := by
  constructor
  · decide +kernel
  · decide +kernel

end TypingTutor
