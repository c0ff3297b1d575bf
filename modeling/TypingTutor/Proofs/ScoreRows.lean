/-
Module: TypingTutor.Proofs.ScoreRows
Layer: Proofs
Purpose: The rows of the high-score screen and their buffer.  The widths of the format are minima,
  and the table can hold any numbers that a file brings.  A row fits its fifty bytes exactly when
  the speed is small enough for the number of three-digit fields beside it.
Trusted boundary: none
Main exports: Narrow, length_scoreRow_le_iff, TableCall, rows_fit_iff, widest_row_overflows
-/
import TypingTutor.Core.View
import TypingTutor.Lib.Runs
import TypingTutor.Proofs.ScoreRecords

namespace TypingTutor

open CFormat Runs

/-! ### One row -/

/-- The fields of a record that take three columns. -/
def threeDigitFields (fields : List Int) : Nat := fields.countP fun field => decide (100 ≤ field)

/-- A record leaves room for its speed: 11 columns, less one for each field of three digits. -/
def Narrow : List Int → Prop
  | [] => True
  | wpm :: fields =>
      -10 ^ (10 - threeDigitFields fields) < wpm ∧ wpm < 10 ^ (11 - threeDigitFields fields)

/-- The five fields behind the speed. -/
def scoreFields (score : HighScore) : List Int := (savedValues score).tail

/-- The columns of a row that do not depend on the entry, and those that do. -/
theorem length_scoreRow {rank : Int} (ranked : 1 ≤ rank ∧ rank ≤ 10) (score : HighScore) :
    (scoreRow rank score).length =
      38 + max 4 (printInt score.wpm.toInt).length + threeDigitFields (scoreFields score) := by
  have rankWidth : (printSpaced 2 rank).length = 2 := by
    have two := (length_printInt_le_iff (by decide : 0 < 1) rank).mpr (by omega)
    rw [length_printSpaced]
    omega
  have byte : ∀ value : UInt8, (printPadded 2 value.toNat).length =
      2 + if 100 ≤ value.toNat then 1 else 0 := by
    intro value
    exact length_printPadded_two (value.toNat_lt.trans (by decide))
  have field : ∀ value : UInt8, ((100 : Int) ≤ (value.toNat : Int)) ↔ 100 ≤ value.toNat := by
    intro value
    omega
  simp only [scoreRow, List.length_append, List.length_cons, rankWidth, length_printSpaced, byte,
    scoreFields, savedValues, List.tail_cons, threeDigitFields, List.countP_cons, List.countP_nil,
    decide_eq_true_eq, field, String.length_toList]
  have texts : ". ".length = 2 ∧ " WPM   TIME: ".length = 13 ∧ "  DATE: ".length = 8 := by decide
  omega

theorem threeDigitFields_le (score : HighScore) : threeDigitFields (scoreFields score) ≤ 5 :=
  List.countP_le_length

/-- A row has at most 49 characters exactly when its entry is narrow. -/
theorem length_scoreRow_le_iff {rank : Int} (ranked : 1 ≤ rank ∧ rank ≤ 10) (score : HighScore) :
    (scoreRow rank score).length ≤ 49 ↔ Narrow (savedValues score) := by
  have few := threeDigitFields_le score
  have room : 0 < 10 - threeDigitFields (scoreFields score) := by omega
  have fits := length_printInt_le_iff room score.wpm.toInt
  have columns : 10 - threeDigitFields (scoreFields score) + 1 =
      11 - threeDigitFields (scoreFields score) := by omega
  rw [columns] at fits
  rw [length_scoreRow ranked]
  change _ ↔ -10 ^ (10 - threeDigitFields (scoreFields score)) < score.wpm.toInt ∧
    score.wpm.toInt < 10 ^ (11 - threeDigitFields (scoreFields score))
  rw [← fits]
  omega

/-! ### Tables -/

/-- A call that changes the table: loading some file, or entering a score. -/
inductive TableCall where
  | load (opened : Bool) (file : List Char)
  | update (opened : Bool) (wpm : Int32) (achievedTime : RealTimeInfo)

def TableCall.apply (table : HighScores) : TableCall → HighScores
  | .load opened file => (loadHighScores opened { highScores := table, file := file }).highScores
  | .update opened wpm achievedTime =>
      (updateHighScores opened wpm achievedTime { highScores := table, file := [] }).highScores

def tableStep (table : HighScores) (call : TableCall) : Except Fault HighScores :=
  .ok (call.apply table)

/-- Every row of the table fits `score[50]`, with its terminator. -/
def RowsFit (table : HighScores) : Prop :=
  ∀ (i : Nat) (score : HighScore), table.entries[i]? = some score →
    (scoreRow (i + 1) score).length + 1 ≤ 50

/-- What the call brings into the table is narrow: each record of the file, with the numbers of the
entry in memory where the record is cut off, and a score that beats an entry. -/
def TableCall.BringsNarrow (table : HighScores) : TableCall → Prop
  | .load opened file =>
      opened = true → ∀ (i : Nat) (values : List Int) (entry : HighScore),
        (scoreRecords maxHighScores file)[i]? = some values → table.entries[i]? = some entry →
          Narrow (values ++ (savedValues entry).drop values.length)
  | .update _ wpm achievedTime =>
      (∃ entry ∈ table.entries, entry.wpm < wpm) → Narrow (savedValues (newScore wpm achievedTime))

theorem rowsFit_iff (table : HighScores) :
    RowsFit table ↔ ∀ entry ∈ table.entries, Narrow (savedValues entry) := by
  have ranked : ∀ (i : Nat) (entry : HighScore), table.entries[i]? = some entry →
      1 ≤ (i : Int) + 1 ∧ (i : Int) + 1 ≤ 10 := by
    intro i entry here
    have inside := (List.getElem?_eq_some_iff.mp here).1
    rw [table.size] at inside
    have ten : i < 10 := inside
    omega
  constructor
  · intro fit entry member
    obtain ⟨i, here⟩ := List.mem_iff_getElem?.mp member
    apply (length_scoreRow_le_iff (ranked i entry here) entry).mp
    have row := fit i entry here
    omega
  · intro narrow i entry here
    have row := (length_scoreRow_le_iff (ranked i entry here) entry).mpr
      (narrow entry (List.mem_of_getElem? here))
    omega

/-- A score that beats no entry is not entered. -/
theorem insertScore_of_low {wpm : Int32} {time : RealTimeInfo} {entries : List HighScore}
    (size : entries.length = maxHighScores) (low : ¬ ∃ entry ∈ entries, entry.wpm < wpm) :
    insertScore wpm time entries = entries := by
  have noSlot : (List.range maxHighScores).find?
      (fun i => (entries.getD i zeroScore).wpm < wpm) = none := by
    rw [List.find?_eq_none]
    intro i member below
    have inside : i < entries.length := by
      rw [size]
      exact List.mem_range.mp member
    rw [decide_eq_true_eq, List.getD_eq_getElem _ _ inside] at below
    exact low ⟨_, List.getElem_mem inside, below⟩
  rw [insertScore, noSlot]

/-- A score that beats an entry is entered, and no entry is new but that one. -/
theorem insertScore_of_high {wpm : Int32} {time : RealTimeInfo} {entries : List HighScore}
    (size : entries.length = maxHighScores) (high : ∃ entry ∈ entries, entry.wpm < wpm) :
    newScore wpm time ∈ insertScore wpm time entries ∧
      ∀ entry ∈ insertScore wpm time entries, entry = newScore wpm time ∨ entry ∈ entries := by
  have slot : ∃ i, (List.range maxHighScores).find?
      (fun i => (entries.getD i zeroScore).wpm < wpm) = some i := by
    rw [← Option.isSome_iff_exists, List.find?_isSome]
    obtain ⟨entry, member, below⟩ := high
    obtain ⟨i, inside, rfl⟩ := List.mem_iff_getElem.mp member
    refine ⟨i, List.mem_range.mpr (size ▸ inside), ?_⟩
    rw [decide_eq_true_eq, List.getD_eq_getElem _ _ inside]
    exact below
  obtain ⟨i, found⟩ := slot
  have inRange : i < maxHighScores := List.mem_range.mp (List.mem_of_find?_eq_some found)
  have inserted : insertScore wpm time entries =
      (shiftScoresDown i (maxHighScores - 1) entries).set i (newScore wpm time) := by
    rw [insertScore, found]
  constructor
  · rw [inserted]
    apply List.mem_set
    rw [length_shiftScoresDown, size]
    exact inRange
  · intro entry member
    rw [inserted, set_shiftScoresDown i entries _ size inRange] at member
    rcases List.mem_append.mp (List.mem_of_mem_take member) with before | behind
    · exact .inr (List.mem_of_mem_take before)
    · rcases List.mem_cons.mp behind with new | after
      · exact .inl new
      · exact .inr (List.mem_of_mem_drop after)

/-- The numbers of an entry after loading: those of its record, completed from its own. -/
theorem savedValues_loaded {table : HighScores} {file : List Char} {i : Nat} {entry : HighScore}
    (here : (loadScores table.entries file)[i]? = some entry) :
    ∃ old, table.entries[i]? = some old ∧
      ((scoreRecords maxHighScores file)[i]? = none ∧ entry = old ∨
        ∃ values, (scoreRecords maxHighScores file)[i]? = some values ∧
          savedValues entry = values ++ (savedValues old).drop values.length) := by
  rw [loadScores_getElem?, table.size, Option.map_eq_some_iff] at here
  obtain ⟨old, isOld, loadedAs⟩ := here
  refine ⟨old, isOld, ?_⟩
  cases record : (scoreRecords maxHighScores file)[i]? with
  | none =>
      rw [record] at loadedAs
      exact .inl ⟨rfl, loadedAs.symm⟩
  | some values =>
      rw [record] at loadedAs
      obtain ⟨input, rfl⟩ := exists_scanf_of_scoreRecords record
      refine .inr ⟨_, rfl, ?_⟩
      rw [← loadedAs]
      exact savedValues_assignScore old input

theorem rowsFit_load (table : HighScores) (fit : RowsFit table) (file : List Char) :
    RowsFit (TableCall.apply table (.load true file)) ↔
      TableCall.BringsNarrow table (.load true file) := by
  have loading : (TableCall.apply table (.load true file)).entries =
      loadScores table.entries file := rfl
  rw [rowsFit_iff] at fit
  rw [rowsFit_iff, loading]
  constructor
  · intro narrow _ i values old record isOld
    have here : (loadScores table.entries file)[i]? = some (assignScore old values) := by
      rw [loadScores_getElem?, isOld, table.size, record]
      rfl
    obtain ⟨input, rfl⟩ := exists_scanf_of_scoreRecords record
    rw [← savedValues_assignScore]
    exact narrow _ (List.mem_of_getElem? here)
  · intro brings entry member
    obtain ⟨i, here⟩ := List.mem_iff_getElem?.mp member
    obtain ⟨old, isOld, ⟨-, rfl⟩ | ⟨values, record, numbers⟩⟩ := savedValues_loaded here
    · exact fit entry (List.mem_of_getElem? isOld)
    · rw [numbers]
      exact brings rfl i values old record isOld

/-- Without a file the speeds and times are zero, and such a row always fits. -/
theorem rowsFit_initialize (table : HighScores) (file : List Char) :
    RowsFit (TableCall.apply table (.load false file)) := by
  have initializing : (TableCall.apply table (.load false file)).entries =
      initializeHighScores table.entries := rfl
  rw [rowsFit_iff, initializing, initializeHighScores]
  intro entry member
  obtain ⟨old, -, rfl⟩ := List.mem_map.mp member
  change -10 ^ _ < (0 : Int) ∧ (0 : Int) < 10 ^ _
  constructor
  · rw [Int.neg_lt_zero_iff]
    positivity
  · positivity

theorem rowsFit_update (table : HighScores) (fit : RowsFit table) (opened : Bool) (wpm : Int32)
    (achievedTime : RealTimeInfo) :
    RowsFit (TableCall.apply table (.update opened wpm achievedTime)) ↔
      TableCall.BringsNarrow table (.update opened wpm achievedTime) := by
  have updating : (TableCall.apply table (.update opened wpm achievedTime)).entries =
      insertScore wpm achievedTime table.entries := updateHighScores_entries _ _ _ _
  rw [rowsFit_iff] at fit
  rw [rowsFit_iff, updating]
  by_cases high : ∃ entry ∈ table.entries, entry.wpm < wpm
  · obtain ⟨entered, known⟩ := @insertScore_of_high wpm achievedTime _ table.size high
    constructor
    · intro narrow _
      exact narrow _ entered
    · intro brings entry member
      rcases known entry member with rfl | old
      · exact brings high
      · exact fit entry old
  · rw [insertScore_of_low table.size high]
    exact ⟨fun _ beaten => absurd beaten high, fun _ => fit⟩

/-- On a table whose rows fit, a call leads to such a table exactly when it brings narrow records.
-/
theorem rowsFit_apply (table : HighScores) (fit : RowsFit table) (call : TableCall) :
    RowsFit (call.apply table) ↔ call.BringsNarrow table := by
  cases call with
  | load opened file =>
      cases opened with
      | true => exact rowsFit_load table fit file
      | false =>
          constructor
          · intro _ opened
            cases opened
          · intro _
            exact rowsFit_initialize table file
  | update opened wpm achievedTime => exact rowsFit_update table fit opened wpm achievedTime

theorem rowsFit_zero : RowsFit .zero := by
  rw [rowsFit_iff]
  intro entry member
  rw [(List.mem_replicate.mp member).2]
  exact ⟨by decide, by decide⟩

/-- In every sequence of loads and new scores, all tables have rows that fit `score[50]` if and only
if every record that comes into the table is narrow. -/
theorem rows_fit_iff (calls : List TableCall) :
    (∀ part, part <+: calls → ∀ table, part.foldlM tableStep .zero = .ok table → RowsFit table) ↔
      Along tableStep (fun table call => call.BringsNarrow table) .zero calls := by
  have kept : ∀ table call next, True → tableStep table call = .ok next → True :=
    fun _ _ _ _ _ => trivial
  apply prefixes_iff_along kept _ _ trivial rowsFit_zero
  · intro table call next _ fit stepped
    cases stepped
    exact rowsFit_apply table fit call
  · intro table call fault _ _ stepped
    cases stepped

/-- A file with the smallest speed and five times 255. -/
def widestFile : List Char := "-2147483648 255:255:255 255/255".toList

/-- Its row has 54 characters. -/
theorem widest_row_overflows :
    ∃ table, [TableCall.load true widestFile].foldlM tableStep .zero = .ok table ∧
      ¬ RowsFit table ∧
      (table.entries[0]?).map (fun score => (scoreRow 1 score).length) = some 54 := by
  refine ⟨TableCall.apply .zero (.load true widestFile), rfl, ?_⟩
  have long : ((TableCall.apply .zero (.load true widestFile)).entries[0]?).map
      (fun score => (scoreRow 1 score).length) = some 54 := by
    decide +kernel
  refine ⟨?_, long⟩
  intro fit
  obtain ⟨score, here, length⟩ := Option.map_eq_some_iff.mp long
  have row := fit 0 score here
  have rank : ((0 : Nat) : Int) + 1 = 1 := rfl
  rw [rank, length] at row
  exact absurd row (by decide)

end TypingTutor
