/-
Module: TypingTutor.Proofs.Caret
Layer: Proofs
Purpose: One caret, under the next letter, in every game after its first frame.  Each stroke redraws
  the words, some erase the caret before; with all letters loaded only two strokes leave a caret
  behind: a swipe that completes a word, and a space in the last word of the array, both with
  letters still to come.
Trusted boundary: none
Main exports: OneCaret, redrawOf, EndsWord, Settled, caret_follows_iff, caret_behind_filled_word
-/
import TypingTutor.Proofs.CaretMarks
import TypingTutor.Proofs.LineEditor

namespace TypingTutor

open Runs

/-! ### What each stroke draws -/

/-- The marks that there should be: one under the current letter, and none behind the last letter.
-/
def wantedMarks (test : TypingTest) : Finset (Int × Int) :=
  match test.words[test.currentWordIndex]? with
  | some word =>
      if test.currentInputIndex < word.length then {caretSpot word test.currentInputIndex} else ∅
  | none => ∅

/-- The marks are those that there should be, as long as there is a current word. -/
def OneCaret (s : State) : Prop :=
  ∀ token test, s.test = .live token test → test.currentWordIndex < test.words.length →
    s.view.marks = wantedMarks test

theorem OneCaret.of_same {s next : State} (one : OneCaret s) (test : next.test = s.test)
    (same : SameCaret s.view next.view) : OneCaret next := by
  intro token shown live inside
  rw [same.marks]
  exact one token shown (test ▸ live) inside

/-- There is a letter under the cursors. -/
def LettersToCome (test : TypingTest) : Prop :=
  ∃ word, test.words[test.currentWordIndex]? = some word ∧ test.currentInputIndex < word.length

theorem lettersToCome_iff {test : TypingTest} {word : Word}
    (here : test.words[test.currentWordIndex]? = some word) :
    LettersToCome test ↔ test.currentInputIndex < word.length := by
  constructor
  · rintro ⟨other, there, letters⟩
    rw [here] at there
    cases there
    exact letters
  · intro letters
    exact ⟨word, here, letters⟩

theorem wantedMarks_eq {test : TypingTest} {word : Word}
    (here : test.words[test.currentWordIndex]? = some word) :
    wantedMarks test =
      if test.currentInputIndex < word.length then {caretSpot word test.currentInputIndex} else ∅ := by
  rw [wantedMarks, here]

/-- A mark is wanted while there are letters to come. -/
theorem wantedMarks_eq_empty_iff {test : TypingTest} :
    wantedMarks test = ∅ ↔ ¬ LettersToCome test := by
  cases here : test.words[test.currentWordIndex]? with
  | none => simp [wantedMarks, LettersToCome, here]
  | some word =>
      rw [lettersToCome_iff here, wantedMarks_eq here]
      by_cases letters : test.currentInputIndex < word.length
      · simp [letters]
      · simp [letters]

/-- The test that a stroke has drawn, and whether the caret is erased before. -/
structure Redraw where
  test : TypingTest
  cleans : Bool

/-- The drawing of a stroke; a letter behind the end of the word draws nothing. -/
def redrawOf (stroke : Stroke) (word : Word) (test : TypingTest) (stats : Statistics) :
    Option Redraw :=
  match stroke with
  | .letter c _ =>
      if test.currentInputIndex < word.length then
        some { test := (typeLetter c word test stats).1
               cleans := decide (test.currentInputIndex + 1 = word.length) }
      else none
  | .backspace => some { test := deleteLetter test, cleans := false }
  | .fill => some { test := fillWord word test, cleans := false }
  | .space env =>
      some { test := advanceWord env (judgeWord word test stats).1
             cleans := scrolls (judgeWord word test stats).1 }
  | .draw => some { test := test, cleans := false }

section Strokes

variable {loaded : LoadedSprites}

/-- What a drawing leaves: the test laid out, and the view drawn from one without the caret or with
the old one. -/
structure Redrawn (loaded : LoadedSprites) (token : Nat) (redraw : Redraw) (before : View)
    (next : State) : Prop where
  test : next.test = .live token (layout loaded redraw.test)
  view : ∃ view, next.view = (drawWords loaded redraw.test view).2 ∧ Tracked view ∧
    view.marks = if redraw.cleans then ∅ else before.marks

theorem redrawn_redrawWords {token : Nat} {old : TypingTest} {before : View} {stored : State}
    (redraw : Redraw) (live : stored.test = .live token old) (tracked : Tracked stored.view)
    (marks : stored.view.marks = if redraw.cleans then ∅ else before.marks) :
    Redrawn loaded token redraw before (redrawWords loaded redraw.test stored) where
  test := by
    simp only [redrawWords, live, Ptr.store_live, drawWords_fst]
  view := ⟨stored.view, rfl, tracked, marks⟩

/-- Drawing keeps the letters. -/
theorem lettersToCome_layout {test : TypingTest} :
    LettersToCome (layout loaded test) ↔ LettersToCome test := by
  have texts := layout_getElem? loaded test test.currentWordIndex
  cases here : test.words[test.currentWordIndex]? with
  | none =>
      rw [here, Option.map_none, Option.map_eq_none_iff] at texts
      have there : (layout loaded test).words[(layout loaded test).currentWordIndex]? = none := texts
      simp [LettersToCome, here, there]
  | some word =>
      rw [here, Option.map_some, Option.map_eq_some_iff] at texts
      obtain ⟨placed, there, text⟩ := texts
      have length : placed.length = word.length := congrArg (fun text => text.1.length) text
      rw [lettersToCome_iff here, lettersToCome_iff there, length]
      rfl

/-- With all letters loaded the drawing gets to the caret whenever one is wanted. -/
theorem reachesCaret_iff (letters : LettersLoaded loaded) {test : TypingTest} (sheet : Sheet test) :
    reachesCaret loaded test = true ↔ LettersToCome test := by
  rw [reachesCaret, reachesWord_iff _ (sheet.drawable letters)]
  constructor
  · exact And.right
  · rintro ⟨word, here, toCome⟩
    refine ⟨?_, word, here, toCome⟩
    by_contra behind
    have empty := sheet.letters_behind here (not_lt.mp behind)
    rw [Word.length, empty] at toCome
    exact absurd toCome (Nat.not_lt_zero _)

/-- A drawing leaves one caret when there are letters to come, and otherwise when the old one was
erased or there was none. -/
theorem Redrawn.oneCaret_iff (letters : LettersLoaded loaded) {token : Nat} {redraw : Redraw}
    {before : View} {next : State} (redrawn : Redrawn loaded token redraw before next)
    (sheet : Sheet redraw.test) :
    Tracked next.view ∧
      (OneCaret next ↔ (redraw.test.currentWordIndex < redraw.test.words.length →
        LettersToCome redraw.test ∨ redraw.cleans = true ∨ before.marks = ∅)) := by
  obtain ⟨view, drawn, tracked, marks⟩ := redrawn.view
  have one : OneCaret next ↔ (redraw.test.currentWordIndex < redraw.test.words.length →
      next.view.marks = wantedMarks (layout loaded redraw.test)) := by
    rw [← length_layout_words loaded redraw.test]
    constructor
    · intro one inside
      exact one token _ redrawn.test inside
    · intro one other test live inside
      rw [redrawn.test] at live
      cases live
      exact one inside
  have words := @drawWords_marks loaded redraw.test view tracked
  rw [← drawn] at words
  have reaches := reachesCaret_iff letters sheet
  by_cases toCome : LettersToCome redraw.test
  · rw [if_pos (reaches.mpr toCome)] at words
    obtain ⟨word, there, marked⟩ := words
    refine ⟨marked.tracked, ?_⟩
    have wanted : wantedMarks (layout loaded redraw.test) =
        {caretSpot word redraw.test.currentInputIndex} := by
      have inside := (lettersToCome_iff there).mp (lettersToCome_layout.mpr toCome)
      rw [wantedMarks_eq there, if_pos inside]
      rfl
    rw [one, wanted, marked.marks]
    simp [toCome]
  · rw [if_neg (fun there => toCome (reaches.mp there))] at words
    refine ⟨words.tracked tracked, ?_⟩
    have wanted := wantedMarks_eq_empty_iff.mpr (fun there => toCome (lettersToCome_layout.mp there) :
      ¬ LettersToCome (layout loaded redraw.test))
    rw [one, wanted, words.marks, marks]
    cases redraw.cleans with
    | true => simp
    | false => simp [toCome]

/-- Without the caret there is nothing to track. -/
theorem tracked_of_clean {view : View} (clean : view.marks = ∅) : Tracked view := .inl clean

/-- What a stroke leaves, by what it draws. -/
def DrawsAs (loaded : LoadedSprites) (token : Nat) (s next : State) : Option Redraw → Prop
  | some redraw => Redrawn loaded token redraw s.view next
  | none => next.test = s.test ∧ SameCaret s.view next.view

section Handlers

variable {s next : State} {testToken statsToken : Nat} {game : Game} {word : Word}
  (holds : s.core.Holds testToken statsToken game) (tracked : Tracked s.view)

include holds tracked

/-- `process_key` erases the caret before the last letter. -/
theorem processKey_draws {c : Char} {key : Key} (playing : s.currentState = .game)
    (reading : game.test.currentWord = .ok word) (stepped : processKey loaded c key s = .ok next) :
    DrawsAs loaded testToken s next (redrawOf (.letter c key) word game.test game.stats) := by
  simp only [processKey, if_pos playing, holds.derefTest, bind, Except.bind, reading] at stepped
  by_cases fits : game.test.currentInputIndex < word.length
  · rw [redrawOf, if_pos fits]
    rw [if_pos fits] at stepped
    by_cases last : game.test.currentInputIndex + 1 = word.length
    · rw [if_pos last] at stepped
      simp only [holds.derefStats] at stepped
      cases stepped
      have clean := (deleteCaret_marks tracked).1
      have drawn := @redrawn_redrawWords loaded testToken game.test s.view
        { s with
          view := deleteCaret s.view
          stats := s.stats.store (typeLetter c word game.test game.stats).2 }
        { test := (typeLetter c word game.test game.stats).1, cleans := decide _ }
        holds.test (tracked_of_clean clean) (by rw [if_pos (decide_eq_true last)]; exact clean)
      exact ⟨drawn.test, drawn.view⟩
    · rw [if_neg last] at stepped
      simp only [holds.derefStats] at stepped
      cases stepped
      have drawn := @redrawn_redrawWords loaded testToken game.test s.view
        { s with stats := s.stats.store (typeLetter c word game.test game.stats).2 }
        { test := (typeLetter c word game.test game.stats).1, cleans := decide _ }
        holds.test tracked (by rw [if_neg (by simpa using last)])
      exact ⟨drawn.test, drawn.view⟩
  · have notLast : ¬ game.test.currentInputIndex + 1 = word.length := by omega
    rw [redrawOf, if_neg fits]
    rw [if_neg fits, if_neg notLast] at stepped
    cases stepped
    exact ⟨rfl, .refl _⟩

theorem handleDeleteKey_draws (reading : game.test.currentWord = .ok word)
    (stepped : handleDeleteKey loaded s = .ok next) :
    DrawsAs loaded testToken s next (redrawOf .backspace word game.test game.stats) := by
  simp only [handleDeleteKey, holds.derefTest, bind, Except.bind, reading] at stepped
  cases stepped
  exact redrawn_redrawWords { test := deleteLetter game.test, cleans := false } holds.test tracked rfl

/-- `fill_current_word` does not erase the caret. -/
theorem fillCurrentWord_draws (reading : game.test.currentWord = .ok word)
    (stepped : fillCurrentWord loaded s = .ok next) :
    DrawsAs loaded testToken s next (redrawOf .fill word game.test game.stats) := by
  simp only [fillCurrentWord, holds.derefTest, bind, Except.bind, reading] at stepped
  cases stepped
  have drawn := @redrawn_redrawWords loaded testToken game.test s.view s
    { test := fillWord word game.test, cleans := false } holds.test tracked rfl
  exact ⟨drawn.test, drawn.view⟩

/-- `handle_space_key` erases the caret only when it scrolls. -/
theorem handleSpaceKey_draws {env : Env} (reading : game.test.currentWord = .ok word)
    (stepped : handleSpaceKey loaded env s = .ok next) :
    DrawsAs loaded testToken s next (redrawOf (.space env) word game.test game.stats) := by
  simp only [handleSpaceKey, holds.derefTest, holds.derefStats, bind, Except.bind, reading] at stepped
  cases stepped
  rw [redrawOf]
  generalize (judgeWord word game.test game.stats).1 = judged
  apply redrawn_redrawWords { test := advanceWord env judged, cleans := scrolls judged }
  · split_ifs
    all_goals exact holds.test
  · split_ifs
    all_goals first
      | exact tracked_of_clean (drawBackground_marks _ _ _)
      | exact tracked
  · cases scrolls judged with
    | true => exact drawBackground_marks _ _ _
    | false =>
        split_ifs
        all_goals rfl

theorem redrawTest_draws (stepped : redrawTest loaded s = .ok next) :
    Redrawn loaded testToken { test := game.test, cleans := false } s.view next := by
  simp only [redrawTest, holds.derefTest, bind, Except.bind] at stepped
  cases stepped
  exact redrawn_redrawWords { test := game.test, cleans := false } holds.test tracked rfl

/-- Every stroke draws what `redrawOf` says. -/
theorem typingStep_draws {stroke : Stroke} (playing : s.currentState = .game)
    (here : game.test.words[game.test.currentWordIndex]? = some word)
    (stepped : typingStep loaded s stroke = .ok next) :
    DrawsAs loaded testToken s next (redrawOf stroke word game.test game.stats) := by
  have reading : game.test.currentWord = .ok word := by rw [TypingTest.currentWord, here]
  cases stroke with
  | letter c key => exact processKey_draws holds tracked playing reading stepped
  | backspace => exact handleDeleteKey_draws holds tracked reading stepped
  | fill => exact fillCurrentWord_draws holds tracked reading stepped
  | space env => exact handleSpaceKey_draws holds tracked reading stepped
  | draw => exact redrawTest_draws holds tracked stepped

end Handlers

/-! ### The two strokes that leave a caret behind -/

/-- The strokes that end the current word without erasing its caret: a swipe, and a space in the
last word of the array. -/
def EndsWord (test : TypingTest) : Stroke → Prop
  | .letter _ _ => False
  | .backspace => False
  | .fill => True
  | .space _ => test.currentWordIndex + 1 = test.wordCount
  | .draw => False

/-- The stroke does not end a word that has letters to come. -/
def Settled (s : State) (stroke : Stroke) : Prop :=
  ∀ token test, s.test = .live token test → EndsWord test stroke → ¬ LettersToCome test

/-- An edit of the current word moves the input index only. -/
theorem EditedInPlace.lettersToCome_iff {test next : TypingTest} {word : Word}
    (edited : EditedInPlace test next)
    (here : test.words[test.currentWordIndex]? = some word) :
    LettersToCome next ↔ next.currentInputIndex < word.length := by
  have outlines := congrArg (fun outlines => outlines[test.currentWordIndex]?) edited.outlines
  simp only [List.getElem?_map, here, Option.map_some, Option.map_eq_some_iff] at outlines
  obtain ⟨changed, there, outline⟩ := outlines
  have length : changed.length = word.length := by
    have chars := congrArg (fun outline => outline.1.length) outline
    simp only [Word.outline, Word.chars, List.length_map] at chars
    exact chars
  rw [← edited.cursor] at there
  rw [TypingTutor.lettersToCome_iff there, length]

theorem deleteLetter_currentInputIndex (test : TypingTest) :
    (deleteLetter test).currentInputIndex ≤ test.currentInputIndex := by
  rw [deleteLetter]
  split_ifs
  · exact Nat.sub_le _ 1
  · exact Nat.le_refl _

/-- A judged word is left for a word that is not empty, unless it is the last word of the array. -/
theorem Judged.lettersToCome_advance {test : TypingTest} (judged : Judged test)
    (staying : scrolls test = false) (env : Env) :
    LettersToCome (advanceWord env test) ↔ test.currentWordIndex + 1 ≠ test.wordCount := by
  rw [advanceWord_step staying env]
  have inside := judged.inside
  have count := judged.sheet.count
  have size := judged.sheet.size
  have there : test.words[test.currentWordIndex + 1]? = some test.words[test.currentWordIndex + 1] :=
    List.getElem?_eq_getElem (by omega)
  generalize test.words[test.currentWordIndex + 1] = word at there
  rw [TypingTutor.lettersToCome_iff there]
  by_cases last : test.currentWordIndex + 1 = test.wordCount
  · have empty := judged.sheet.letters_behind there (Nat.le_of_eq last.symm)
    simp [last, Word.length, empty]
  · have some := judged.sheet.length_pos there (Nat.lt_of_le_of_ne inside last)
    simp [last, some]

/-- After a space the caret is erased by a scroll, or moves to the next word unless there is none.
-/
theorem caret_after_space {test : TypingTest} (scrolled : WellScrolled test) {word : Word}
    {stats : Statistics} {env : Env} {redraw : Redraw}
    (drawn : redrawOf (.space env) word test stats = some redraw) :
    Sheet redraw.test ∧
      ((redraw.test.currentWordIndex < redraw.test.words.length →
          LettersToCome redraw.test ∨ redraw.cleans = true ∨ ¬ LettersToCome test) ↔
        (EndsWord test (.space env) → ¬ LettersToCome test)) := by
  cases drawn
  obtain ⟨status, verdict, judging⟩ := judgeWord_eq word test stats
  simp only [judging, EndsWord]
  have sheet := @Sheet.judge test status scrolled.sheet
  have phase := @phase_judge test status scrolled.phase
  have judged := fun inside => scrolled.judge inside verdict
  have cursor : (test.modifyWord fun word => { word with status := status }).currentWordIndex =
      test.currentWordIndex := rfl
  have count : (test.modifyWord fun word => { word with status := status }).wordCount =
      test.wordCount := rfl
  generalize (test.modifyWord fun word => { word with status := status }) = marked at *
  have forty := sheet.count
  have size := sheet.size
  by_cases inside : test.currentWordIndex < test.wordCount
  · refine ⟨((judged inside).advance env).sheet, ?_⟩
    cases scrolling : scrolls marked with
    | true =>
        have early := ((judged inside).atScroll scrolling).early
        have notLast : test.currentWordIndex + 1 ≠ test.wordCount := by omega
        simp [notLast]
    | false =>
        have moved := (judged inside).lettersToCome_advance scrolling env
        rw [cursor, count] at moved
        have within : (advanceWord env marked).currentWordIndex <
            (advanceWord env marked).words.length := by
          rw [advanceWord_step scrolling env]
          change marked.currentWordIndex + 1 < marked.words.length
          omega
        rw [moved]
        simp only [within, Bool.false_eq_true, false_or, true_implies, ne_eq]
        exact Decidable.imp_iff_not_or.symm
  · have staying := scrolls_behind sheet phase (by omega)
    rw [advanceWord_step staying env]
    refine ⟨⟨sheet.count, sheet.size, sheet.pool, sheet.sentinel⟩, ?_⟩
    constructor
    · intro _ ends
      omega
    · intro _ within
      change marked.currentWordIndex + 1 < marked.words.length at within
      omega

/-- A stroke draws a caret, erases the old one or had none before, exactly when it is settled. -/
theorem caret_after_stroke {test : TypingTest} (scrolled : WellScrolled test) {word : Word}
    (here : test.words[test.currentWordIndex]? = some word) {stats : Statistics} {stroke : Stroke}
    {redraw : Redraw} (drawn : redrawOf stroke word test stats = some redraw) :
    Sheet redraw.test ∧
      ((redraw.test.currentWordIndex < redraw.test.words.length →
          LettersToCome redraw.test ∨ redraw.cleans = true ∨ ¬ LettersToCome test) ↔
        (EndsWord test stroke → ¬ LettersToCome test)) := by
  cases stroke with
  | letter c key =>
      rw [redrawOf, Option.ite_none_right_eq_some] at drawn
      obtain ⟨fits, same⟩ := drawn
      cases same
      have edited := typeLetter_inPlace c word test stats
      refine ⟨scrolled.sheet.inPlace edited, ?_⟩
      have input := edited.lettersToCome_iff here
      rw [typeLetter_currentInputIndex] at input
      simp only [input, EndsWord, decide_eq_true_eq, false_implies, iff_true]
      intro _
      rcases Nat.lt_or_ge (test.currentInputIndex + 1) word.length with more | last
      · exact .inl more
      · exact .inr (.inl (by omega))
  | backspace =>
      cases drawn
      have edited := deleteLetter_inPlace test
      refine ⟨scrolled.sheet.inPlace edited, ?_⟩
      have input := edited.lettersToCome_iff here
      have back := deleteLetter_currentInputIndex test
      simp only [input, lettersToCome_iff here, EndsWord, false_implies, iff_true]
      intro _
      omega
  | fill =>
      cases drawn
      have edited := fillWord_inPlace word test
      refine ⟨scrolled.sheet.inPlace edited, ?_⟩
      have input := edited.lettersToCome_iff here
      have full : ¬ LettersToCome (fillWord word test) := by
        rw [input]
        exact Nat.lt_irrefl _
      have inside : (fillWord word test).currentWordIndex < (fillWord word test).words.length := by
        change test.currentWordIndex < (test.words.modify _ _).length
        rw [List.length_modify]
        exact (List.getElem?_eq_some_iff.mp here).1
      simp [inside, full, EndsWord]
  | space env => exact caret_after_space scrolled drawn
  | draw =>
      cases drawn
      refine ⟨scrolled.sheet, ?_⟩
      simp only [EndsWord, false_implies, iff_true]
      intro _
      exact (Classical.em (LettersToCome test)).imp_right .inr

/-! ### The game -/

/-- A game is being played, with its test and statistics. -/
structure InGame (testToken statsToken : Nat) (game : Game) (s : State) : Prop where
  playing : s.currentState = .game
  holds : s.core.Holds testToken statsToken game
  scrolled : WellScrolled game.test

/-- Every stroke applies an edit to the game. -/
theorem typingStep_applies {s : State} {testToken statsToken : Nat} {game : Game}
    (playing : s.currentState = .game) (holds : s.core.Holds testToken statsToken game)
    (stroke : Stroke) :
    ∃ (core : Core) (change : Edit), core.currentState = .game ∧
      Applies core testToken statsToken (edit loaded change game) (typingStep loaded s stroke) := by
  cases stroke with
  | letter c key => exact ⟨s.core, .letter c, playing, processKey_applies c key playing holds⟩
  | backspace => exact ⟨s.core, .delete, playing, handleDeleteKey_applies holds⟩
  | fill => exact ⟨{ s.core with stars := s.stars - 1 }, .fill, playing, fillCurrentWord_applies holds⟩
  | space env => exact ⟨s.core, .space env, playing, handleSpaceKey_applies env holds⟩
  | draw => exact ⟨s.core, .draw, playing, redrawTest_applies holds⟩

/-- A stroke leads to a game again. -/
theorem typingStep_inGame (letters : LettersLoaded loaded) {s next : State} {stroke : Stroke}
    {testToken statsToken : Nat} {game : Game} (inGame : InGame testToken statsToken game s)
    (stepped : typingStep loaded s stroke = .ok next) :
    ∃ edited, InGame testToken statsToken edited next := by
  obtain ⟨core, change, playing, applied⟩ :=
    @typingStep_applies loaded s testToken statsToken game inGame.playing inGame.holds stroke
  rw [stepped] at applied
  rcases applies_iff.mp applied with ⟨edited, other, done, same, after⟩ | ⟨fault, _, failed⟩
  · cases same
    refine ⟨edited, ?_, ?_, edit_wellScrolled letters inGame.scrolled done⟩
    · exact (congrArg Core.currentState after).trans playing
    · rw [after]
      exact ⟨rfl, rfl⟩
  · cases failed

/-- A fault comes from a missing word. -/
theorem no_word_of_fault {s : State} {stroke : Stroke} {fault : Fault} {testToken statsToken : Nat}
    {game : Game} (inGame : InGame testToken statsToken game s)
    (failed : typingStep loaded s stroke = .error fault) :
    game.test.words[game.test.currentWordIndex]? = none := by
  obtain ⟨core, change, -, applied⟩ :=
    @typingStep_applies loaded s testToken statsToken game inGame.playing inGame.holds stroke
  rw [failed] at applied
  rcases applies_iff.mp applied with ⟨_, _, _, returned, _⟩ | ⟨_, faulted, _⟩
  · cases returned
  · cases here : game.test.words[game.test.currentWordIndex]? with
    | none => rfl
    | some word =>
        have reading : game.test.currentWord = .ok word := by rw [TypingTest.currentWord, here]
        cases change with
        | letter c =>
            simp only [edit, reading, bind, Except.bind] at faulted
            split_ifs at faulted
            all_goals cases faulted
        | delete | fill | space | draw =>
            simp only [edit, reading, bind, Except.bind] at faulted
            cases faulted

/-- Without a word under the cursor only drawing returns. -/
theorem draws_of_no_word {s next : State} {stroke : Stroke} {testToken statsToken : Nat} {game : Game}
    (inGame : InGame testToken statsToken game s)
    (nowhere : game.test.words[game.test.currentWordIndex]? = none)
    (stepped : typingStep loaded s stroke = .ok next) : stroke = .draw := by
  have reading : game.test.currentWord = .error .outOfBounds := by rw [TypingTest.currentWord, nowhere]
  obtain ⟨playing, holds, -⟩ := inGame
  cases stroke with
  | letter c key =>
      simp [typingStep, processKey, playing, holds.derefTest, reading, bind, Except.bind] at stepped
  | backspace =>
      simp [typingStep, handleDeleteKey, holds.derefTest, reading, bind, Except.bind] at stepped
  | fill =>
      simp [typingStep, fillCurrentWord, holds.derefTest, reading, bind, Except.bind] at stepped
  | space env =>
      simp [typingStep, handleSpaceKey, holds.derefTest, reading, bind, Except.bind] at stepped
  | draw => rfl

/-- While there is one caret or none to track, a stroke keeps it so exactly when it is settled. -/
theorem typingStep_oneCaret (letters : LettersLoaded loaded) {s next : State} {stroke : Stroke}
    {testToken statsToken : Nat} {game : Game} (inGame : InGame testToken statsToken game s)
    (tracked : Tracked s.view) (stepped : typingStep loaded s stroke = .ok next) :
    Tracked next.view ∧ (OneCaret s → (OneCaret next ↔ Settled s stroke)) := by
  have settled : Settled s stroke ↔ (EndsWord game.test stroke → ¬ LettersToCome game.test) := by
    have live : s.test = .live testToken game.test := inGame.holds.test
    constructor
    · intro settled
      exact settled testToken game.test live
    · intro ends token test other
      rw [live] at other
      cases other
      exact ends
  rw [settled]
  cases here : game.test.words[game.test.currentWordIndex]? with
  | none =>
      obtain rfl := draws_of_no_word inGame here stepped
      obtain ⟨trackedNext, one⟩ :=
        (redrawTest_draws inGame.holds tracked stepped).oneCaret_iff letters inGame.scrolled.sheet
      refine ⟨trackedNext, fun _ => one.trans ?_⟩
      have outside : ¬ game.test.currentWordIndex < game.test.words.length := by
        rw [List.getElem?_eq_none_iff] at here
        exact not_lt.mpr here
      simp [outside, EndsWord]
  | some word =>
      have draws := typingStep_draws inGame.holds tracked inGame.playing here stepped
      cases drawn : redrawOf stroke word game.test game.stats with
      | none =>
          rw [drawn] at draws
          obtain ⟨test, same⟩ := draws
          have notEnds : ¬ EndsWord game.test stroke := by
            cases stroke with
            | letter c key => exact id
            | backspace | fill | space | draw => cases drawn
          refine ⟨same.tracked tracked, ?_⟩
          intro one
          simp [one.of_same test same, notEnds]
      | some redraw =>
          rw [drawn] at draws
          obtain ⟨sheet, decided⟩ := caret_after_stroke inGame.scrolled here drawn
          obtain ⟨trackedNext, iff⟩ := Redrawn.oneCaret_iff letters draws sheet
          refine ⟨trackedNext, ?_⟩
          intro one
          have before : s.view.marks = wantedMarks game.test :=
            one testToken game.test inGame.holds.test (List.getElem?_eq_some_iff.mp here).1
          rw [iff, before, wantedMarks_eq_empty_iff]
          exact decided

/-! ### The first frame -/

theorem drawGlyphs_sameCaret (step : Int) (text : List Char) (x y : Int) (view : View) :
    SameCaret view (drawGlyphs loaded true step text x y view).1 := by
  induction text generalizing x view with
  | nil => exact .refl view
  | cons c text ih =>
      rw [drawGlyphs]
      have drawn := drawSpriteXPM_sameCaret (keySpriteMap loaded (charToKey c)) x y none true view
      split_ifs
      · exact drawn
      · exact drawn.trans (ih _ _)

theorem drawRealTime_sameCaret (now : RealTimeInfo) (view : View) :
    SameCaret view (drawRealTime loaded now view) := by
  have timed : SameCaret view { view with timeInfo := now } := ⟨rfl, rfl⟩
  rw [drawRealTime]
  exact timed.trans (drawGlyphs_sameCaret 13 _ _ _ _)

theorem drawScreen_game {env : Env} {s : State} {test : TypingTest}
    (playing : s.currentState = .game) (live : s.test.deref = .ok test) :
    drawScreen loaded env s =
      let shown := redrawWords loaded test
        { s with view := drawRecordedTime loaded s.timer (drawBackground (env.rtc 1) .game s.view) }
      .ok { shown with view := drawRealTime loaded (env.rtc 2) shown.view } := by
  simp only [drawScreen, playing, live, bind, Except.bind]
  rfl

/-- The first frame of a game shows one caret. -/
theorem drawScreen_oneCaret (letters : LettersLoaded loaded) {env : Env} {s start : State}
    {testToken statsToken : Nat} {game : Game} (inGame : InGame testToken statsToken game s)
    (drawn : drawScreen loaded env s = .ok start) :
    InGame testToken statsToken { game with test := layout loaded game.test } start ∧
      Tracked start.view ∧ OneCaret start := by
  rw [drawScreen_game inGame.playing inGame.holds.derefTest] at drawn
  cases drawn
  have clean : (drawRecordedTime loaded s.timer (drawBackground (env.rtc 1) .game s.view)).marks = ∅ :=
    (drawGlyphs_sameCaret 13 _ _ _ _).marks.trans (drawBackground_marks _ _ _)
  generalize drawRecordedTime loaded s.timer (drawBackground (env.rtc 1) .game s.view) = cleared
    at clean ⊢
  have redrawn := @redrawn_redrawWords loaded testToken game.test s.view { s with view := cleared }
    { test := game.test, cleans := true } inGame.holds.test (tracked_of_clean clean) clean
  have core := @core_redrawWords loaded s testToken statsToken game { s with view := cleared }
    game.stats game.test (core_unstored inGame.holds) inGame.holds
  generalize redrawWords loaded game.test { s with view := cleared } = shown at redrawn core ⊢
  obtain ⟨tracked, one⟩ := redrawn.oneCaret_iff letters inGame.scrolled.sheet
  have same := @drawRealTime_sameCaret loaded (env.rtc 2) shown.view
  refine ⟨⟨?_, ?_, ?_⟩, same.tracked tracked, ?_⟩
  · exact (congrArg Core.currentState core).trans inGame.playing
  · change shown.core.Holds _ _ _
    rw [core]
    exact ⟨rfl, rfl⟩
  · exact @edit_wellScrolled loaded letters .draw _ _ inGame.scrolled rfl
  · exact (one.mpr (fun _ => .inr (.inl rfl))).of_same rfl same

/-- A new game is at the first letter of its first word. -/
theorem start_inGame {env : Env} {caller : Caller} {s started : State}
    (begun : setGameState env caller .game s = .ok started) :
    ∃ testToken statsToken game, InGame testToken statsToken game started ∧
      LettersToCome game.test := by
  rw [setGameState_game] at begun
  cases begun
  have scrolled := freshTest_wellScrolled env
  refine ⟨s.nextToken, s.nextToken + 1, { test := freshTest env, stats := initializeStats s.timer },
    ⟨rfl, ⟨rfl, rfl⟩, scrolled⟩, ?_⟩
  have first : (freshTest env).words[0]? =
      some (newWord (poolWord (env.rand 0 % 100)) (env.junk 0)) := by
    simp [freshTest]
  have some : 0 < (freshTest env).wordCount := Nat.zero_lt_succ 39
  exact ⟨_, first, scrolled.sheet.length_pos first some⟩

/-- A game whose caret is tracked. -/
def CaretGame (s : State) : Prop :=
  (∃ testToken statsToken game, InGame testToken statsToken game s) ∧ Tracked s.view

theorem typingStep_caretGame (letters : LettersLoaded loaded) {s next : State} {stroke : Stroke}
    (caretGame : CaretGame s) (stepped : typingStep loaded s stroke = .ok next) : CaretGame next := by
  obtain ⟨⟨testToken, statsToken, game, inGame⟩, tracked⟩ := caretGame
  obtain ⟨edited, inGameNext⟩ := typingStep_inGame letters inGame stepped
  exact ⟨⟨testToken, statsToken, edited, inGameNext⟩,
    (typingStep_oneCaret letters inGame tracked stepped).1⟩

end Strokes

/-- After the first frame of a game there is one caret, under the next letter, in every state of a
run, if and only if no swipe and no space in the last word of the array comes while there are
letters to come. -/
theorem caret_follows_iff (loaded : LoadedSprites) (letters : LettersLoaded loaded)
    (env frameEnv : Env) (caller : Caller) (s started typed start : State)
    (begun : setGameState env caller .game s = .ok started) (early : List Stroke)
    (before : early.foldlM (typingStep loaded) started = .ok typed)
    (drawn : drawScreen loaded frameEnv typed = .ok start) (strokes : List Stroke) :
    (∀ part, part <+: strokes → ∀ reached, part.foldlM (typingStep loaded) start = .ok reached →
      OneCaret reached) ↔
      Along (typingStep loaded) Settled start strokes := by
  have playing : Outcome (fun s => ∃ testToken statsToken game, InGame testToken statsToken game s)
      (fun _ : Fault => True) (.ok typed) := by
    rw [← before]
    apply foldlM_outcome
    · rintro state stroke ⟨testToken, statsToken, game, inGame⟩
      cases stepped : typingStep loaded state stroke with
      | error fault => trivial
      | ok next =>
          obtain ⟨edited, inGameNext⟩ := typingStep_inGame letters inGame stepped
          exact ⟨testToken, statsToken, edited, inGameNext⟩
    · obtain ⟨testToken, statsToken, game, inGame, -⟩ := start_inGame begun
      exact ⟨testToken, statsToken, game, inGame⟩
  obtain ⟨testToken, statsToken, game, inGame⟩ := playing
  obtain ⟨inGameStart, tracked, one⟩ := drawScreen_oneCaret letters inGame drawn
  have caretGame : CaretGame start := ⟨⟨testToken, statsToken, _, inGameStart⟩, tracked⟩
  apply prefixes_iff_along _ _ _ caretGame one
  · intro state stroke next caretGame stepped
    exact typingStep_caretGame letters caretGame stepped
  · rintro state stroke next ⟨⟨testToken, statsToken, game, inGame⟩, tracked⟩ one stepped
    exact (typingStep_oneCaret letters inGame tracked stepped).2 one
  · rintro state stroke fault ⟨⟨testToken, statsToken, game, inGame⟩, -⟩ _ failed
    have nowhere := no_word_of_fault inGame failed
    rintro token test live - ⟨word, here, -⟩
    have same : test = game.test := by
      have other : state.test = .live testToken game.test := inGame.holds.test
      rw [other] at live
      cases live
      rfl
    rw [same, nowhere] at here
    cases here

/-- The first frame of the first game. -/
theorem first_frame :
    ∃ started start, setGameState default .checkActions .game (setup []) = .ok started ∧
      drawScreen everySprite default started = .ok start := by
  have begun := setGameState_game default .checkActions (setup [])
  obtain ⟨testToken, statsToken, game, inGame, -⟩ := start_inGame begun
  exact ⟨_, _, begun, drawScreen_game inGame.playing inGame.holds.derefTest⟩

/-- A letter and a backspace. -/
theorem caret_follows_backspace :
    LettersLoaded everySprite ∧
      ∃ started start, setGameState default .checkActions .game (setup []) = .ok started ∧
        [].foldlM (typingStep everySprite) started = .ok started ∧
        drawScreen everySprite default started = .ok start ∧
        ∀ part, part <+: [Stroke.letter 'A' .a, .backspace] →
          ∀ reached, part.foldlM (typingStep everySprite) start = .ok reached → OneCaret reached := by
  obtain ⟨started, start, begun, drawn⟩ := first_frame
  refine ⟨lettersLoaded_everySprite, started, start, begun, rfl, drawn, ?_⟩
  apply (caret_follows_iff everySprite lettersLoaded_everySprite default default .checkActions
    (setup []) started started start begun [] rfl drawn _).mpr
  apply along_of_forall
  intro stroke member state token test live ends
  simp only [List.mem_cons, List.not_mem_nil, or_false] at member
  rcases member with rfl | rfl
  · exact ends.elim
  · exact ends.elim

/-- A swipe at the first letter of the first game leaves the caret there. -/
theorem caret_behind_filled_word :
    LettersLoaded everySprite ∧
      ∃ started start reached, setGameState default .checkActions .game (setup []) = .ok started ∧
        drawScreen everySprite default started = .ok start ∧ OneCaret start ∧
        [Stroke.fill].foldlM (typingStep everySprite) start = .ok reached ∧ ¬ OneCaret reached := by
  obtain ⟨started, start, begun, drawn⟩ := first_frame
  obtain ⟨testToken, statsToken, game, inGame, toCome⟩ := start_inGame begun
  obtain ⟨inGameStart, tracked, one⟩ := drawScreen_oneCaret lettersLoaded_everySprite inGame drawn
  have toComeStart : LettersToCome (layout everySprite game.test) := lettersToCome_layout.mpr toCome
  cases filled : typingStep everySprite start .fill with
  | error fault =>
      obtain ⟨word, here, -⟩ := toComeStart
      rw [no_word_of_fault inGameStart filled] at here
      cases here
  | ok reached =>
      refine ⟨lettersLoaded_everySprite, started, start, reached, begun, drawn, one, ?_, ?_⟩
      · rw [List.foldlM_cons, filled]
        rfl
      · intro oneReached
        have settled := ((typingStep_oneCaret lettersLoaded_everySprite inGameStart tracked filled).2
          one).mp oneReached
        exact settled testToken _ inGameStart.holds.test trivial toComeStart

end TypingTutor
