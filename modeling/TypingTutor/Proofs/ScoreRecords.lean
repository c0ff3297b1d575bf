/-
Module: TypingTutor.Proofs.ScoreRecords
Layer: Proofs
Purpose: Loading any file.  `fscanf` stores the numbers of a record in the live table as it reads
  them, so the record at which `load_high_scores` stops has been stored as far as it went.  The
  entries stay whole exactly when that record brings no number that the entry does not have already.
Trusted boundary: none
Main exports: scoreRecords, loadScores_getElem?, savedValues_assignScore, WholeRecords,
  whole_records_iff, cut_record_is_stored
-/
import TypingTutor.Proofs.ScorePersistence

namespace TypingTutor

open CFormat

/-! ### The records of a file -/

/-- The numbers of the records that `load_high_scores` gets to with `count` entries to fill.  It
stops at the first record without six numbers, which is the last of the list. -/
def scoreRecords : Nat → List Char → List (List Int)
  | 0, _ => []
  | count + 1, input =>
      let scanned := scanf scoreFormat input
      if scanned.1.length ≠ 6 then [scanned.1]
      else scanned.1 :: scoreRecords count scanned.2

/-- Each entry gets the numbers of its record, as many as were read. -/
theorem loadScores_getElem? (entries : List HighScore) (input : List Char) (i : Nat) :
    (loadScores entries input)[i]? =
      (entries[i]?).map fun entry =>
        ((scoreRecords entries.length input)[i]?).elim entry (assignScore entry) := by
  induction entries generalizing input i with
  | nil => rfl
  | cons entry rest inductionHypothesis =>
      rw [loadScores, List.length_cons, scoreRecords]
      by_cases short : (scanf scoreFormat input).1.length ≠ 6
      · simp only [if_pos short]
        cases i with
        | zero => rfl
        | succ i => simp
      · simp only [if_neg short]
        cases i with
        | zero => rfl
        | succ i =>
            simp only [List.getElem?_cons_succ]
            exact inductionHypothesis _ i

/-! ### The numbers of a record -/

theorem toInt_ofInt_storeInt (raw : Int) : (Int32.ofInt (storeInt raw)).toInt = storeInt raw := by
  obtain ⟨low, high⟩ := storeInt_bounds raw
  exact Int32.toInt_ofInt_of_le low high

theorem toNat_ofNat_storeByte (raw : Int) :
    ((UInt8.ofNat (storeByte raw).toNat).toNat : Int) = storeByte raw := by
  obtain ⟨low, high⟩ := storeByte_bounds raw
  have small : (storeByte raw).toNat < UInt8.size := (Int.toNat_lt low).mpr high
  rw [UInt8.toNat_ofNat_of_lt' small, Int.toNat_of_nonneg low]

/-- After a record has been read, the entry has the numbers of the record, and its own where the
record has none. -/
theorem savedValues_assignScore (entry : HighScore) (input : List Char) :
    savedValues (assignScore entry (scanf scoreFormat input).1) =
      (scanf scoreFormat input).1 ++
        (savedValues entry).drop (scanf scoreFormat input).1.length := by
  have stored := scanf_stored scoreFormat input
  generalize (scanf scoreFormat input).1 = values at stored
  rcases stored with _ | ⟨_, wpm, _ | ⟨_, hours, _ | ⟨_, minutes, _ | ⟨_, seconds,
    _ | ⟨_, day, _ | ⟨_, month, _ | _⟩⟩⟩⟩⟩⟩
  all_goals
    simp only [savedValues, assignScore, List.getElem?_cons_zero, List.getElem?_cons_succ,
      List.getElem?_nil, Option.elim_some, Option.elim_none, toInt_ofInt_storeInt,
      toNat_ofNat_storeByte, List.length_cons, List.length_nil, List.drop_succ_cons, List.drop_zero,
      List.cons_append, List.nil_append]

/-- Reading numbers that the entry already has changes nothing. -/
theorem assignScore_of_start {entry : HighScore} {values : List Int}
    (known : values <+: savedValues entry) : assignScore entry values = entry := by
  simp only [savedValues, List.prefix_cons_iff, List.prefix_nil] at known
  rcases known with rfl | ⟨_, rfl, rfl | ⟨_, rfl, rfl | ⟨_, rfl, rfl | ⟨_, rfl,
    rfl | ⟨_, rfl, rfl | ⟨_, rfl, rfl⟩⟩⟩⟩⟩⟩
  all_goals simp [assignScore]

/-- A record changes the entry unless all its numbers are there already. -/
theorem assignScore_eq_self_iff (entry : HighScore) (input : List Char) :
    assignScore entry (scanf scoreFormat input).1 = entry ↔
      (scanf scoreFormat input).1 <+: savedValues entry := by
  constructor
  · intro same
    have numbers := savedValues_assignScore entry input
    rw [same] at numbers
    exact ⟨_, numbers.symm⟩
  · exact assignScore_of_start

/-- The entry with the six numbers of a record in its fields. -/
def replacedBy (entry : HighScore) : List Int → HighScore
  | [wpm, hours, minutes, seconds, day, month] =>
      { wpm := Int32.ofInt wpm
        achievedTime :=
          { entry.achievedTime with
            hours := UInt8.ofNat hours.toNat
            minutes := UInt8.ofNat minutes.toNat
            seconds := UInt8.ofNat seconds.toNat }
        day := UInt8.ofNat day.toNat
        month := UInt8.ofNat month.toNat }
  | _ => entry

theorem assignScore_complete {values : List Int} (complete : values.length = 6) (entry : HighScore) :
    assignScore entry values = replacedBy entry values := by
  rcases values with _ | ⟨wpm, _ | ⟨hours, _ | ⟨minutes, _ | ⟨seconds, _ | ⟨day,
    _ | ⟨month, _ | ⟨extra, rest⟩⟩⟩⟩⟩⟩⟩
  case cons.cons.cons.cons.cons.cons.nil => rfl
  all_goals simp at complete

/-- Every record is what one `fscanf` reads somewhere in the file. -/
theorem exists_scanf_of_scoreRecords {count i : Nat} {file : List Char} {values : List Int}
    (record : (scoreRecords count file)[i]? = some values) :
    ∃ input, values = (scanf scoreFormat input).1 := by
  induction count generalizing file i with
  | zero => cases record
  | succ count inductionHypothesis =>
      rw [scoreRecords] at record
      split at record
      · cases i with
        | zero =>
            cases record
            exact ⟨file, rfl⟩
        | succ i => cases record
      · cases i with
        | zero =>
            cases record
            exact ⟨file, rfl⟩
        | succ i => exact inductionHypothesis record

/-! ### Whole entries -/

/-- Loading the file turns the entries `before` into `after` record by record: the entry of a record
with six numbers is replaced by it, and every other entry is as it was. -/
structure WholeRecords (file : List Char) (before after : List HighScore) : Prop where
  replaced : ∀ (i : Nat) (values : List Int) (entry : HighScore),
    (scoreRecords before.length file)[i]? = some values → values.length = 6 →
      before[i]? = some entry → after[i]? = some (replacedBy entry values)
  untouched : ∀ i : Nat,
    (∀ values, (scoreRecords before.length file)[i]? = some values → values.length ≠ 6) →
      after[i]? = before[i]?

/-- The record at which the loop stops, if there is one, brings nothing that its entry does not
have. -/
def DamageIsKnown (file : List Char) (before : List HighScore) : Prop :=
  ∀ (i : Nat) (values : List Int) (entry : HighScore),
    (scoreRecords before.length file)[i]? = some values → values.length ≠ 6 →
      before[i]? = some entry → values <+: savedValues entry

/-- Loading a file keeps every entry whole if and only if the first record that does not match the
format has no number, or only numbers that the entry in memory has already. -/
theorem whole_records_iff (store : ScoreStore) :
    WholeRecords store.file store.highScores.entries
        (loadHighScores true store).highScores.entries ↔
      DamageIsKnown store.file store.highScores.entries := by
  have loading : (loadHighScores true store).highScores.entries =
      loadScores store.highScores.entries store.file := rfl
  rw [loading]
  generalize store.highScores.entries = before
  constructor
  · intro whole i values entry record damaged here
    obtain ⟨input, rfl⟩ := exists_scanf_of_scoreRecords record
    have same := whole.untouched i (by
      intro other isRecord
      rw [record] at isRecord
      cases isRecord
      exact damaged)
    rw [loadScores_getElem?, here, record] at same
    exact (assignScore_eq_self_iff entry input).mp (Option.some.inj same)
  · intro known
    refine ⟨?_, ?_⟩
    · intro i values entry record complete here
      rw [loadScores_getElem?, here, record]
      exact congrArg some (assignScore_complete complete entry)
    · intro i damaged
      rw [loadScores_getElem?]
      cases here : before[i]? with
      | none => rfl
      | some entry =>
          cases record : (scoreRecords before.length store.file)[i]? with
          | none => rfl
          | some values =>
              exact congrArg some
                (assignScore_of_start (known i values entry record (damaged values record) here))

/-- A file that ends in the middle of its first record. -/
def cutFile : List Char := "42 12:34".toList

/-- The speed and two fields of the time are stored, and the rest of the entry is the old one. -/
theorem cut_record_is_stored :
    ¬ WholeRecords cutFile HighScores.zero.entries
      (loadHighScores true { highScores := .zero, file := cutFile }).highScores.entries := by
  intro whole
  have cut : (scoreRecords HighScores.zero.entries.length cutFile)[0]? = some [42, 12, 34] := by
    decide +kernel
  have same := whole.untouched 0 (by
    intro values record
    rw [cut] at record
    cases record
    decide)
  revert same
  decide +kernel

end TypingTutor
