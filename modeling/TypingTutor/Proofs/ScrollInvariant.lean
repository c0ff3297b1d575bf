/-
Module: TypingTutor.Proofs.ScrollInvariant
Layer: Proofs
Purpose: The space key and the scroll.  Before the first drawing as well as after it, the words that
  are scrolled away lie before the cursor and the words that are carried over lie behind it; the line
  that is kept fits on one line of the new layout.  So every game keeps the words before the cursor
  judged and those behind it untouched, and keeps the current word off the last line while there are
  three lines or more.
Trusted boundary: none
Main exports: AtScroll, advanceWord_scroll, edit_wellScrolled, AfterScroll, scroll_invariant
-/
import TypingTutor.Proofs.Scrolling

namespace TypingTutor

open Runs Compaction LineBreaking

/-! ### Lines of a ruled sheet -/

/-- The line field of a word is its line number. -/
theorem Ruled.line {test : TypingTest} (ruled : Ruled test) {i : Nat} {word : Word}
    (here : test.words[i]? = some word) (inside : i < test.wordCount) :
    (lineNumbers test)[i]? = some word.line := by
  rw [← ruled.1, List.getElem?_map, List.getElem?_take_of_lt inside, here]
  rfl

/-- The widths of the words on one line. -/
theorem Ruled.itemsOnLine {test : TypingTest} (ruled : Ruled test) (number : Int) :
    itemsOnLine gamePage number 0 xMargin (widths test) =
      ((test.words.take test.wordCount).filter fun word => word.line == number).map
        wordLengthInPixels := by
  have numbers : lines gamePage 0 xMargin (widths test) =
      (test.words.take test.wordCount).map (·.line) := ruled.1.symm
  rw [LineBreaking.itemsOnLine, numbers, widths, List.zip_map', List.filter_map, List.map_map]
  rfl

/-- Words of one line fit on a line. -/
theorem Ruled.fits {test : TypingTest} (ruled : Ruled test) {number : Int} (line : 0 ≤ number) :
    Fits gamePage xMargin (((test.words.take test.wordCount).filter fun word =>
      word.line == number).map wordLengthInPixels) := by
  rw [← ruled.itemsOnLine]
  obtain ⟨first, later⟩ := @fits_itemsOnLine gamePage number 0 xMargin (widths test)
  rcases Int.lt_or_eq_of_le line with positive | zero
  · exact later positive
  · exact first zero.symm

/-- Forty words do not fit on one line. -/
theorem Ruled.numberOfLines_pos {test : TypingTest} (ruled : Ruled test) (sheet : Sheet test) :
    1 ≤ test.numberOfLines := by
  have size : (test.words.take test.wordCount).length = 40 := by
    rw [List.length_take, sheet.count, sheet.size]
    rfl
  have bounded : ∀ word ∈ test.words.take test.wordCount,
      0 ≤ word.line ∧ word.line ≤ test.numberOfLines := by
    intro word member
    obtain ⟨i, inside, rfl⟩ := List.mem_take_iff_getElem.mp member
    have number : (lineNumbers test)[i]? = some test.words[i].line :=
      ruled.line (List.getElem?_eq_getElem (by omega)) (by omega)
    exact ⟨le_of_mem_lines _ (List.mem_of_getElem? number), le_last_of_lines number ruled.2⟩
  by_contra few
  have single : ∀ word ∈ test.words.take test.wordCount, (word.line == (0 : Int)) = true := by
    intro word member
    obtain ⟨low, high⟩ := bounded word member
    rw [beq_iff_eq]
    omega
  have fits := ruled.fits (le_refl 0)
  rw [List.filter_eq_self.mpr single] at fits
  have wide : ∀ width ∈ (test.words.take test.wordCount).map wordLengthInPixels, 16 ≤ width := by
    intro width member
    obtain ⟨word, there, rfl⟩ := List.mem_map.mp member
    rw [sheet.count] at there
    have letters : word.letters ≠ [] := by
      intro empty
      apply (sheet.pool word there).1
      rw [Word.chars, empty]
      rfl
    have long : 1 ≤ word.length := List.length_pos_iff.mpr letters
    rw [wordLengthInPixels]
    omega
  have tooLong := fits_width fits wide 38 (by rw [List.length_map, size])
  revert tooLong
  decide

/-! ### Between judging and moving on -/

/-- The test after `handle_space_key` has judged the current word. -/
structure Judged (test : TypingTest) : Prop where
  sheet : Sheet test
  phase : Undrawn test ∨ Ruled test
  inside : test.currentWordIndex < test.wordCount
  judged : ∀ word ∈ test.words.take (test.currentWordIndex + 1), word.status = 1 ∨ word.status = -1
  waiting : ∀ word ∈ (test.words.take test.wordCount).drop (test.currentWordIndex + 1),
    word.status = 0 ∧ word.Untouched
  notLast : NotLast test

/-- The test after the cursor has moved on: nothing has been typed from the cursor on. -/
structure Ready (test : TypingTest) : Prop where
  sheet : Sheet test
  judged : ∀ word ∈ test.words.take test.currentWordIndex, word.status = 1 ∨ word.status = -1
  waiting : ∀ word ∈ (test.words.take test.wordCount).drop test.currentWordIndex,
    word.status = 0 ∧ word.Untouched
  notLast : NotLast test

theorem Ready.window {test : TypingTest} (ready : Ready test) : Window test where
  judged := ready.judged
  waiting := fun word member => (ready.waiting word member).1
  untouched := by
    intro word member
    rw [← List.drop_drop] at member
    exact (ready.waiting word (List.mem_of_mem_drop member)).2

/-- Judging writes the status of the current word. -/
theorem judgeWord_eq (word : Word) (test : TypingTest) (stats : Statistics) :
    ∃ status, (status = 1 ∨ status = -1) ∧ (judgeWord word test stats).1 =
      test.modifyWord fun word => { word with status := status } := by
  rw [judgeWord]
  split
  · exact ⟨1, .inl rfl, rfl⟩
  · exact ⟨-1, .inr rfl, rfl⟩

section Judging

variable {test : TypingTest} {status : Int}

theorem Sheet.judge (sheet : Sheet test) :
    Sheet (test.modifyWord fun word => { word with status := status }) where
  count := sheet.count
  size := by
    rw [TypingTest.modifyWord, List.length_modify]
    exact sheet.size
  pool := by
    have chars := @map_modify_of_keeps _ _ Word.chars (fun word => { word with status := status })
      (fun _ => rfl) test.words test.currentWordIndex
    apply @forall_mem_of_map_eq _ _ Word.chars
      (fun chars => chars ≠ [] ∧ ∀ c ∈ chars, 'A' ≤ c ∧ c ≤ 'Z') _ _ _ sheet.pool
    rw [TypingTest.modifyWord, List.map_take, List.map_take, chars]
  sentinel := by
    have parts := @map_modify_of_keeps _ _ (fun word => (word.chars, word.line))
      (fun word => { word with status := status }) (fun _ => rfl) test.words test.currentWordIndex
    apply @forall_mem_of_map_eq _ _ (fun word : Word => (word.chars, word.line))
      (fun part => part.1 = [] ∧ part.2 = -1) _ _ _ sheet.sentinel
    rw [TypingTest.modifyWord, List.map_drop, List.map_drop, parts]

theorem lineNumbers_judge :
    lineNumbers (test.modifyWord fun word => { word with status := status }) = lineNumbers test := by
  refine lineNumbers_congr rfl ?_
  exact @map_modify_of_keeps _ _ Word.length (fun word => { word with status := status })
    (fun _ => rfl) test.words test.currentWordIndex

theorem phase_judge (phase : Undrawn test ∨ Ruled test) :
    Undrawn (test.modifyWord fun word => { word with status := status }) ∨
      Ruled (test.modifyWord fun word => { word with status := status }) := by
  rcases phase with undrawn | ruled
  · exact .inl undrawn
  · right
    have lines := @map_modify_of_keeps _ _ Word.line (fun word => { word with status := status })
      (fun _ => rfl) test.words test.currentWordIndex
    rw [Ruled, lineNumbers_judge]
    refine ⟨?_, ruled.2⟩
    rw [← ruled.1, TypingTest.modifyWord]
    change ((test.words.modify _ _).take test.wordCount).map Word.line =
      (test.words.take test.wordCount).map Word.line
    rw [List.map_take, List.map_take, lines]

theorem WellScrolled.judge (scrolled : WellScrolled test)
    (inside : test.currentWordIndex < test.wordCount) (verdict : status = 1 ∨ status = -1) :
    Judged (test.modifyWord fun word => { word with status := status }) where
  sheet := scrolled.sheet.judge
  phase := phase_judge scrolled.phase
  inside := inside
  judged := by
    have bound : test.currentWordIndex < test.words.length := by
      have count := scrolled.sheet.count
      have size := scrolled.sheet.size
      omega
    intro word member
    rw [TypingTest.modifyWord] at member
    rcases List.mem_append.mp ((take_succ_modify bound) ▸ member) with earlier | here
    · exact (scrolled.window inside).judged word earlier
    · rw [List.mem_singleton.mp here]
      exact verdict
  waiting := by
    intro word member
    have behind : ((test.words.modify test.currentWordIndex fun word =>
        { word with status := status }).take test.wordCount).drop (test.currentWordIndex + 1) =
          (test.words.take test.wordCount).drop (test.currentWordIndex + 1) := by
      rw [List.drop_take, List.drop_take, List.drop_modify_of_lt _ _ _ _ (Nat.lt_succ_self _)]
    change word ∈ ((test.words.modify test.currentWordIndex _).take test.wordCount).drop
      (test.currentWordIndex + 1) at member
    rw [behind] at member
    refine ⟨(scrolled.window inside).waiting word ?_, (scrolled.window inside).untouched word member⟩
    exact List.mem_of_mem_drop (List.drop_drop ▸ member)
  notLast := by
    rw [NotLast, lineNumbers_judge]
    exact scrolled.notLast inside

end Judging

/-! ### The scroll -/

/-- Where the lines stand when the scroll is triggered: the current word is on the penultimate line,
nothing before it is on the last line, and nothing behind it is on the penultimate line. -/
structure AtScroll (test : TypingTest) : Prop where
  here : ∃ word, test.words[test.currentWordIndex]? = some word ∧ word.line = test.numberOfLines - 1
  before : ∀ i word, test.words[i]? = some word → i < test.currentWordIndex →
    word.line ≠ test.numberOfLines
  after : ∀ i word, test.words[i]? = some word → test.currentWordIndex < i → i < test.wordCount →
    word.line ≠ test.numberOfLines - 1
  early : test.currentWordIndex < 39

section Scroll

variable {test : TypingTest}

/-- The trigger compares line fields.  Before the first drawing these hold anything, but then the
cursor is on the first word. -/
theorem Judged.atScroll (judged : Judged test) (scrolling : scrolls test = true) : AtScroll test := by
  rw [scrolls, Bool.and_eq_true] at scrolling
  obtain ⟨current, isLast⟩ := scrolling
  obtain ⟨word, here, line⟩ : ∃ word, test.words[test.currentWordIndex]? = some word ∧
      word.line = test.numberOfLines - 1 := by
    rw [onLine, Option.any_eq_true] at current
    obtain ⟨word, found, line⟩ := current
    exact ⟨word, found, beq_iff_eq.mp line⟩
  refine ⟨⟨word, here, line⟩, ?_, ?_, ?_⟩
  · intro i other there before
    rcases judged.phase with undrawn | ruled
    · rw [undrawn.2] at before
      cases before
    · have number := ruled.line there (before.trans judged.inside)
      have currentNumber := ruled.line here judged.inside
      have order := lines_mono number currentNumber (Nat.le_of_lt before)
      omega
  · intro i other there behind inside
    rw [isLastWordOnLine, List.all_eq_true] at isLast
    have member := mem_drop_take there behind inside
    have off := isLast other member
    rw [Bool.not_eq_true', beq_eq_false_iff_ne] at off
    exact off
  · have count := judged.sheet.count
    have inside := judged.inside
    rcases judged.phase with undrawn | ruled
    · rw [undrawn.2]
      decide
    · by_contra late
      have last : test.currentWordIndex = 39 := by omega
      have number := ruled.line here inside
      have size : (lineNumbers test).length = 40 := by
        rw [lineNumbers, length_lines, widths, List.length_map, List.length_take, count,
          judged.sheet.size]
        rfl
      have ending := ruled.2
      rw [List.getLast?_eq_getElem?, size] at ending
      rw [last, ending] at number
      have same := Option.some.inj number
      omega

/-- Words of the last line come behind the words of the penultimate line. -/
theorem AtScroll.ordered (scroll : AtScroll test) (sheet : Sheet test) :
    (test.words.take (test.wordCount - 1)).Pairwise fun earlier later =>
      onLastLine test earlier = true → onPenultimateLine test later = false := by
  rw [List.pairwise_iff_getElem]
  intro i j insideFirst insideSecond order last
  rw [List.length_take, sheet.count, sheet.size] at insideFirst insideSecond
  rw [List.getElem_take] at last ⊢
  simp only [onLastLine, onPenultimateLine, beq_iff_eq, beq_eq_false_iff_ne] at last ⊢
  have count := sheet.count
  have size := sheet.size
  have first : test.words[i]? = some test.words[i] := List.getElem?_eq_getElem (by omega)
  have second : test.words[j]? = some test.words[j] := List.getElem?_eq_getElem (by omega)
  rcases Nat.lt_or_ge test.currentWordIndex j with behind | upTo
  · exact scroll.after j _ second behind (by omega)
  · exact absurd last (scroll.before i _ first (by omega))

/-- The retained words have been judged. -/
theorem AtScroll.retained_before (scroll : AtScroll test) (sheet : Sheet test) :
    ∀ word ∈ retained test, word ∈ test.words.take (test.currentWordIndex + 1) := by
  intro word member
  obtain ⟨there, penultimate⟩ := List.mem_filter.mp member
  obtain ⟨i, inside, rfl⟩ := List.mem_take_iff_getElem.mp there
  have count := sheet.count
  apply List.mem_take_iff_getElem.mpr
  refine ⟨i, ?_, rfl⟩
  by_contra behind
  apply scroll.after i test.words[i] (List.getElem?_eq_getElem (by omega)) (by omega) (by omega)
  exact beq_iff_eq.mp penultimate

/-- The carried words are still to be typed. -/
theorem AtScroll.carried_behind (scroll : AtScroll test) :
    ∀ word ∈ carried test,
      word ∈ (test.words.take test.wordCount).drop (test.currentWordIndex + 1) := by
  intro word member
  obtain ⟨there, last⟩ := List.mem_filter.mp member
  obtain ⟨i, inside, rfl⟩ := List.mem_take_iff_getElem.mp there
  have onLast : test.words[i].line = test.numberOfLines := beq_iff_eq.mp last
  have here : test.words[i]? = some test.words[i] := List.getElem?_eq_getElem (by omega)
  have behind : test.currentWordIndex < i := by
    rcases Nat.lt_trichotomy i test.currentWordIndex with before | same | behind
    · exact absurd onLast (scroll.before i _ here before)
    · obtain ⟨word, current, line⟩ := scroll.here
      rw [← same, here] at current
      have equal := Option.some.inj current
      rw [← equal] at line
      omega
    · exact behind
  apply mem_drop_take here behind
  omega

/-- The last word of the array is not on the penultimate line, so leaving it out makes no
difference. -/
theorem AtScroll.retained_eq (scroll : AtScroll test) (sheet : Sheet test) :
    (test.words.take test.wordCount).filter (onPenultimateLine test) = retained test := by
  have size := sheet.size
  have bound : 39 < test.words.length := by omega
  have early := scroll.early
  have off : onPenultimateLine test test.words[39] = false := by
    rw [onPenultimateLine, beq_eq_false_iff_ne]
    apply scroll.after 39 _ (List.getElem?_eq_getElem bound) early
    rw [sheet.count]
    decide
  rw [retained, sheet.count, List.take_succ_eq_append_getElem bound, List.filter_append]
  simp [off]

/-- The index that the scroll sets is the number of retained words. -/
theorem AtScroll.wordsInPenultimateLine (scroll : AtScroll test) (sheet : Sheet test) :
    wordsInPenultimateLine test = (retained test).length := by
  rw [TypingTutor.wordsInPenultimateLine, List.countP_eq_length_filter, ← scroll.retained_eq sheet]
  rfl

theorem AtScroll.retained_pos (scroll : AtScroll test) (sheet : Sheet test) :
    0 < (retained test).length := by
  obtain ⟨word, here, line⟩ := scroll.here
  have early := scroll.early
  apply List.length_pos_of_mem
  apply List.mem_filter.mpr
  refine ⟨?_, beq_iff_eq.mpr line⟩
  obtain ⟨bound, rfl⟩ := List.getElem?_eq_some_iff.mp here
  apply List.mem_take_iff_getElem.mpr
  refine ⟨test.currentWordIndex, ?_, rfl⟩
  rw [sheet.count]
  omega

theorem retained_lt (sheet : Sheet test) : (retained test).length < 40 := by
  have bound : (retained test).length ≤ (test.words.take (test.wordCount - 1)).length :=
    List.length_filter_le _ _
  rw [List.length_take, sheet.count, sheet.size] at bound
  exact Nat.lt_succ_of_le bound

/-- The retained words fit on one line: they come from one line, or there is only one of them. -/
theorem Judged.retained_fits (judged : Judged test) (scroll : AtScroll test) :
    Fits gamePage xMargin ((retained test).map wordLengthInPixels) := by
  rcases judged.phase with undrawn | ruled
  · have few : (retained test).length ≤ 1 := by
      have others : ((test.words.take (test.wordCount - 1)).drop 1).filter (onPenultimateLine test) =
          [] := by
        rw [List.filter_eq_nil_iff]
        intro word member
        obtain ⟨k, bound, rfl⟩ := List.mem_drop_iff_getElem.mp member
        rw [List.length_take] at bound
        rw [List.getElem_take, onPenultimateLine, beq_iff_eq]
        apply scroll.after (1 + k) _ (List.getElem?_eq_getElem (by omega))
        · rw [undrawn.2]
          omega
        · omega
      rw [retained, ← List.take_append_drop 1 (test.words.take (test.wordCount - 1)),
        List.filter_append, others, List.append_nil]
      apply (List.length_filter_le _ _).trans
      exact List.length_take_le 1 _
    cases shape : retained test with
    | nil => trivial
    | cons first others =>
        cases others with
        | nil => trivial
        | cons second rest =>
            rw [shape, List.length_cons, List.length_cons] at few
            omega
  · have lines := ruled.numberOfLines_pos judged.sheet
    have fits := ruled.fits (Int.sub_nonneg_of_le lines)
    rw [← scroll.retained_eq judged.sheet]
    exact fits

/-- The words after a scroll. -/
theorem Judged.advanceWord_scroll (judged : Judged test) (scrolling : scrolls test = true)
    (env : Env) :
    advanceWord env test =
      { test with
        words := retained test ++ carried test ++ newWords env test ++ test.words.drop test.wordCount
        currentWordIndex := (retained test).length
        currentInputIndex := 0
        currentInput := List.replicate maxWordLength '\x00' } := by
  have scroll := judged.atScroll scrolling
  have size : test.words.length = test.wordCount + 1 := by
    rw [judged.sheet.size, judged.sheet.count]
  rw [advanceWord, if_pos scrolling, shiftWordsUp_eq size (scroll.ordered judged.sheet),
    scroll.wordsInPenultimateLine judged.sheet]

theorem newWords_fresh (env : Env) :
    ∀ word ∈ newWords env test, FromPool word ∧ word.status = 0 ∧ word.Untouched := by
  intro word member
  obtain ⟨i, -, rfl⟩ := List.mem_map.mp member
  refine ⟨newWord_fromPool ?_ _, rfl, newWord_untouched _ _⟩
  exact (Nat.mod_lt _ (by decide)).trans_le (by decide)

/-- The line numbers after a scroll start with the retained words on line zero. -/
theorem Judged.lineNumbers_scroll (judged : Judged test) (scrolling : scrolls test = true)
    (env : Env) :
    (lineNumbers (advanceWord env test)).take (retained test).length =
      List.replicate (retained test).length 0 := by
  have scroll := judged.atScroll scrolling
  have short : (retained test).length ≤ test.wordCount := by
    rw [judged.sheet.count]
    exact Nat.le_of_lt (retained_lt judged.sheet)
  obtain ⟨rest, front⟩ : ∃ rest, widths (advanceWord env test) =
      (retained test).map wordLengthInPixels ++ rest := by
    rw [judged.advanceWord_scroll scrolling env, widths]
    simp only [List.append_assoc]
    rw [List.take_append, List.take_of_length_le short, List.map_append]
    exact ⟨_, rfl⟩
  have kept := lines_of_fits (judged.retained_fits scroll) 0 rest
  rw [List.length_map] at kept
  rw [lineNumbers, front]
  exact kept

/-- A scroll leaves the cursor on the first word to type. -/
theorem Judged.scrolled (judged : Judged test) (scrolling : scrolls test = true) (env : Env) :
    Ready (advanceWord env test) := by
  have scroll := judged.atScroll scrolling
  have sheet := judged.sheet
  have size : test.words.length = test.wordCount + 1 := by rw [sheet.size, sheet.count]
  have length := length_scrolled size (scroll.ordered sheet) env
  rw [sheet.count] at length
  have next := judged.advanceWord_scroll scrolling env
  have front : (advanceWord env test).words.take 40 =
      retained test ++ carried test ++ newWords env test := by
    rw [next]
    exact List.take_left' length
  have behind : (advanceWord env test).words.drop 40 = test.words.drop 40 := by
    rw [next]
    change (_ ++ test.words.drop test.wordCount).drop 40 = _
    rw [List.drop_left' length, sheet.count]
  have count : (advanceWord env test).wordCount = 40 := by
    rw [next]
    exact sheet.count
  have cursor : (advanceWord env test).currentWordIndex = (retained test).length := by rw [next]
  refine ⟨⟨count, ?_, ?_, ?_⟩, ?_, ?_, ?_⟩
  · have total := congrArg List.length (List.take_append_drop 40 (advanceWord env test).words)
    rw [front, behind, List.length_append, length, List.length_drop, sheet.size] at total
    exact total.symm
  · intro word member
    rw [front] at member
    rcases List.mem_append.mp member with old | new
    · apply sheet.pool word
      rcases List.mem_append.mp old with kept | moved
      · exact (List.take_sublist_take_left (by rw [sheet.count]; decide)).subset
          (List.mem_filter.mp kept).1
      · exact (List.take_sublist_take_left (by rw [sheet.count]; decide)).subset
          (List.mem_filter.mp moved).1
    · exact (newWords_fresh env word new).1
  · rw [behind]
    exact sheet.sentinel
  · intro word member
    rw [cursor, next] at member
    change word ∈ (retained test ++ _ ++ _ ++ _).take (retained test).length at member
    rw [List.append_assoc, List.append_assoc, List.take_left] at member
    exact judged.judged word (scroll.retained_before sheet word member)
  · intro word member
    rw [cursor, count, front, List.append_assoc, List.drop_left] at member
    rcases List.mem_append.mp member with moved | new
    · exact judged.waiting word (scroll.carried_behind word moved)
    · exact (newWords_fresh env word new).2
  · intro last here _ number three
    -- The word in front of the cursor is on line zero.
    have positive := scroll.retained_pos sheet
    have zeros := judged.lineNumbers_scroll scrolling env
    have previous : (lineNumbers (advanceWord env test))[(retained test).length - 1]? = some 0 := by
      have entry := congrArg (fun numbers => numbers[(retained test).length - 1]?) zeros
      rw [List.getElem?_take_of_lt (by omega), List.getElem?_replicate_of_lt (by omega)] at entry
      exact entry
    rw [cursor] at number
    have successor : (retained test).length = (retained test).length - 1 + 1 := by omega
    rw [successor] at number
    rcases lines_step previous number with same | step
    · omega
    · omega

end Scroll

/-! ### The step to the next word -/

theorem advanceWord_step {test : TypingTest} (staying : scrolls test = false) (env : Env) :
    advanceWord env test =
      { test with
        currentWordIndex := test.currentWordIndex + 1
        currentInputIndex := 0
        currentInput := List.replicate maxWordLength '\x00' } := by
  rw [advanceWord, if_neg (by rw [staying]; decide)]

theorem Judged.stepped {test : TypingTest} (judged : Judged test) (staying : scrolls test = false)
    (env : Env) : Ready (advanceWord env test) := by
  rw [advanceWord_step staying env]
  refine ⟨⟨judged.sheet.count, judged.sheet.size, judged.sheet.pool, judged.sheet.sentinel⟩,
    judged.judged, judged.waiting, ?_⟩
  intro last next ending number three
  change (lineNumbers test).getLast? = some last at ending
  change (lineNumbers test)[test.currentWordIndex + 1]? = some next at number
  rcases judged.phase with undrawn | ruled
  · rw [undrawn.2] at number
    have second := lineNumbers_one number
    omega
  · have size : (lineNumbers test).length ≤ test.wordCount := by
      rw [lineNumbers, length_lines, widths, List.length_map]
      exact List.length_take_le _ _
    obtain ⟨bound, -⟩ := List.getElem?_eq_some_iff.mp number
    have bounds : test.wordCount + 1 = test.words.length := by
      rw [judged.sheet.size, judged.sheet.count]
    have current : test.words[test.currentWordIndex]? = some test.words[test.currentWordIndex] :=
      List.getElem?_eq_getElem (by omega)
    have here := ruled.line current judged.inside
    have same : last = test.numberOfLines := Option.some.inj (ending.symm.trans ruled.2)
    have notLast := judged.notLast last _ ending here three
    rcases lines_step here number with equal | successor
    · omega
    · -- The current word is not the last one of the penultimate line.
      by_contra beyond
      have line : test.words[test.currentWordIndex].line = test.numberOfLines - 1 := by omega
      have onPenultimate : onLine test.words test.currentWordIndex (test.numberOfLines - 1) = true := by
        rw [onLine, current]
        exact beq_iff_eq.mpr line
      rw [scrolls, onPenultimate, Bool.true_and, isLastWordOnLine, List.all_eq_false] at staying
      obtain ⟨later, member, off⟩ := staying
      obtain ⟨k, inside, rfl⟩ := List.mem_drop_iff_getElem.mp member
      rw [List.length_take] at inside
      rw [List.getElem_take, Bool.not_eq_true, Bool.not_eq_false', beq_iff_eq] at off
      have laterNumber := ruled.line (List.getElem?_eq_getElem
        (by omega : test.currentWordIndex + 1 + k < test.words.length)) (by omega)
      have order := lines_mono number laterNumber (Nat.le_add_right _ k)
      omega

/-- Moving on from a judged word. -/
theorem Judged.advance {test : TypingTest} (judged : Judged test) (env : Env) :
    Ready (advanceWord env test) := by
  cases scrolling : scrolls test with
  | true => exact judged.scrolled scrolling env
  | false => exact judged.stepped scrolling env

/-! ### Every edit -/

section Edits

variable {loaded : LoadedSprites}

/-- Behind the last word a space does not scroll: the sentinel is on no line. -/
theorem scrolls_behind {test : TypingTest} (sheet : Sheet test) (phase : Undrawn test ∨ Ruled test)
    (behind : test.wordCount ≤ test.currentWordIndex) : scrolls test = false := by
  have count := sheet.count
  rcases phase with undrawn | ruled
  · rw [undrawn.2] at behind
    omega
  · have lines := ruled.numberOfLines_pos sheet
    rw [scrolls, Bool.and_eq_false_iff]
    left
    rw [onLine]
    cases here : test.words[test.currentWordIndex]? with
    | none => rfl
    | some word =>
        have member : word ∈ test.words.drop 40 := by
          obtain ⟨bound, rfl⟩ := List.getElem?_eq_some_iff.mp here
          apply List.mem_drop_iff_getElem.mpr
          exact ⟨test.currentWordIndex - 40, by omega, by congr 1; omega⟩
        have line := (sheet.sentinel word member).2
        rw [Option.any_some, beq_eq_false_iff_ne]
        omega

theorem Ready.drawn {test : TypingTest} (ready : Ready test) (letters : LettersLoaded loaded) :
    WellScrolled (layout loaded test) :=
  wellScrolled_layout letters ready.sheet (fun _ => ready.window) (fun _ => ready.notLast)

/-- The space key keeps the invariant. -/
theorem WellScrolled.space {test : TypingTest} (letters : LettersLoaded loaded)
    (scrolled : WellScrolled test) (env : Env) (word : Word) (stats : Statistics) :
    WellScrolled (layout loaded (advanceWord env (judgeWord word test stats).1)) := by
  obtain ⟨status, verdict, judging⟩ := judgeWord_eq word test stats
  rw [judging]
  by_cases inside : test.currentWordIndex < test.wordCount
  · exact ((scrolled.judge inside verdict).advance env).drawn letters
  · have sheet : Sheet (test.modifyWord fun word => { word with status := status }) :=
      scrolled.sheet.judge
    have staying := scrolls_behind sheet (phase_judge scrolled.phase) (not_lt.mp inside)
    rw [advanceWord_step staying env]
    have outside : ¬ test.currentWordIndex + 1 < test.wordCount := by omega
    apply wellScrolled_layout letters
    · exact ⟨sheet.count, sheet.size, sheet.pool, sheet.sentinel⟩
    · exact fun impossible => absurd impossible outside
    · exact fun impossible => absurd impossible outside

/-- Every edit keeps the invariant. -/
theorem edit_wellScrolled (letters : LettersLoaded loaded) {change : Edit} {game edited : Game}
    (scrolled : WellScrolled game.test) (done : edit loaded change game = .ok edited) :
    WellScrolled edited.test := by
  cases change with
  | letter c =>
      simp only [edit, bind_eq_ok] at done
      obtain ⟨word, -, returned⟩ := done
      split at returned
      · cases returned
        exact scrolled.inPlace letters (typeLetter_inPlace c word game.test game.stats)
      · cases returned
        exact scrolled
  | delete =>
      simp only [edit, bind_eq_ok] at done
      obtain ⟨word, -, returned⟩ := done
      cases returned
      exact scrolled.inPlace letters (deleteLetter_inPlace game.test)
  | fill =>
      simp only [edit, bind_eq_ok] at done
      obtain ⟨word, -, returned⟩ := done
      cases returned
      exact scrolled.inPlace letters (fillWord_inPlace word game.test)
  | space env =>
      simp only [edit, bind_eq_ok] at done
      obtain ⟨word, -, returned⟩ := done
      cases returned
      exact scrolled.space letters env word game.stats
  | draw =>
      cases done
      exact scrolled.inPlace letters ⟨rfl, rfl, rfl, rfl⟩

/-! ### Whole runs -/

/-- Every game of a run keeps the invariant. -/
theorem run_wellScrolled (letters : LettersLoaded loaded) {file : List Char}
    {messages : List Notification} {s : State} (ran : run loaded file messages = .ok s) :
    InPlay (fun game => WellScrolled game.test) s.core := by
  refine run_keeps ?_ ?_ ran
  · apply effect_inPlay
    · intro env seconds
      exact freshTest_wellScrolled env
    · intro change game edited _ scrolled done
      exact edit_wellScrolled letters scrolled done
    · trivial
  · intro playing
    cases playing

end Edits

/-- The test after a scroll: the cursor is on the first word behind the retained line, and the retained
line is the first line. -/
structure AfterScroll (judged next : TypingTest) : Prop where
  cursor : next.currentWordIndex = (retained judged).length
  kept : (next.words.take (retained judged).length).map Word.text = (retained judged).map Word.text
  typed : ∀ word ∈ next.words.take (retained judged).length,
    (word.status = 1 ∨ word.status = -1) ∧ word.line = 0

theorem Judged.afterScroll {loaded : LoadedSprites} (letters : LettersLoaded loaded)
    {test : TypingTest} (judged : Judged test) (scrolling : scrolls test = true) (env : Env) :
    AfterScroll test (layout loaded (advanceWord env test)) := by
  have scrolled : WellScrolled (layout loaded (advanceWord env test)) :=
    (judged.scrolled scrolling env).drawn letters
  have next := judged.advanceWord_scroll scrolling env
  have cursor : (layout loaded (advanceWord env test)).currentWordIndex = (retained test).length := by
    rw [next]
    rfl
  have short := retained_lt judged.sheet
  have inside : (layout loaded (advanceWord env test)).currentWordIndex <
      (layout loaded (advanceWord env test)).wordCount := by
    rw [cursor, scrolled.sheet.count]
    exact short
  refine ⟨cursor, ?_, ?_⟩
  · rw [List.map_take, layout_text, ← List.map_take, next]
    change ((retained test ++ _ ++ _ ++ _).take (retained test).length).map Word.text = _
    rw [List.append_assoc, List.append_assoc, List.take_left]
  · intro word member
    refine ⟨(scrolled.window inside).judged word (by rw [cursor]; exact member), ?_⟩
    obtain ⟨i, bound, rfl⟩ := List.mem_take_iff_getElem.mp member
    have ruled : Ruled (layout loaded (advanceWord env test)) := by
      rcases scrolled.phase with undrawn | ruled
      · have positive := (judged.atScroll scrolling).retained_pos judged.sheet
        rw [← cursor, undrawn.2] at positive
        cases positive
      · exact ruled
    have number := ruled.line (List.getElem?_eq_getElem (by omega))
        (by rw [scrolled.sheet.count]; omega :
      i < (layout loaded (advanceWord env test)).wordCount)
    have zeros := congrArg (fun numbers => numbers[i]?) (judged.lineNumbers_scroll scrolling env)
    rw [lineNumbers_layout] at number
    simp only [List.getElem?_take_of_lt (by omega : i < (retained test).length),
      List.getElem?_replicate_of_lt (by omega : i < (retained test).length)] at zeros
    rw [zeros] at number
    exact (Option.some.inj number).symm

/-- What a game state with a current word promises: the words before the current one are judged, the
others are not, and those behind it are untouched; with three lines or more the current word is not on
the last one; and a space that scrolls goes on with the first word behind the retained line. -/
structure ScrollInvariant (loaded : LoadedSprites) (test : TypingTest) : Prop where
  window : Window test
  notOnLastLine : 2 ≤ test.numberOfLines → ∀ word, test.words[test.currentWordIndex]? = some word →
    word.line ≤ test.numberOfLines - 1
  afterScroll : ∀ env word stats, scrolls (judgeWord word test stats).1 = true →
    AfterScroll (judgeWord word test stats).1
      (layout loaded (advanceWord env (judgeWord word test stats).1))

theorem WellScrolled.scrollInvariant {loaded : LoadedSprites} (letters : LettersLoaded loaded)
    {test : TypingTest} (scrolled : WellScrolled test)
    (inside : test.currentWordIndex < test.wordCount) : ScrollInvariant loaded test where
  window := scrolled.window inside
  notOnLastLine := by
    intro three word here
    rcases scrolled.phase with undrawn | ruled
    · rw [undrawn.1] at three
      omega
    · exact scrolled.notLast inside _ _ ruled.2 (ruled.line here inside) three
  afterScroll := by
    intro env word stats scrolling
    obtain ⟨status, verdict, judging⟩ := judgeWord_eq word test stats
    rw [judging] at scrolling ⊢
    exact (scrolled.judge inside verdict).afterScroll letters scrolling env

/-- With all letter sprites loaded, every game state that a run reaches, before the first drawing of
the game or after it, keeps the scroll invariant as long as there is a current word. -/
theorem scroll_invariant (loaded : LoadedSprites) (letters : LettersLoaded loaded)
    (file : List Char) (messages : List Notification) (s : State)
    (ran : run loaded file messages = .ok s) (playing : s.currentState = .game) :
    ∃ token test, s.test = .live token test ∧ test.wordCount = 40 ∧ test.words.length = 41 ∧
      (test.currentWordIndex < test.wordCount → ScrollInvariant loaded test) := by
  obtain ⟨testToken, statsToken, game, holds, scrolled⟩ := run_wellScrolled letters ran playing
  exact ⟨testToken, game.test, holds.test, scrolled.sheet.count, scrolled.sheet.size,
    scrolled.scrollInvariant letters⟩

theorem lettersLoaded_everySprite : LettersLoaded everySprite := fun _ _ _ => rfl

/-- One word of the first game has been judged. -/
theorem scroll_invariant_after_space :
    LettersLoaded everySprite ∧
      ∃ s, run everySprite [] (intoGame ++ [keyPress keySpace]) = .ok s ∧ s.currentState = .game ∧
        ∃ token test, s.test = .live token test ∧ test.wordCount = 40 ∧ test.words.length = 41 ∧
          (test.currentWordIndex < test.wordCount → ScrollInvariant everySprite test) := by
  have checked : (run everySprite [] (intoGame ++ [keyPress keySpace])).toOption.any
      (fun s => s.currentState == .game) = true := by
    decide +kernel
  obtain ⟨s, ran, shown⟩ := exists_ok_of_any checked
  have playing : s.currentState = .game := beq_iff_eq.mp shown
  exact ⟨lettersLoaded_everySprite, s, ran, playing,
    scroll_invariant everySprite lettersLoaded_everySprite [] _ s ran playing⟩

end TypingTutor
