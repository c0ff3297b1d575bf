/-
Module: TypingTutor.Proofs.WordCursor
Layer: Proofs
Purpose: The word cursor and the array of words.  No edit of a game reads or writes outside the array
  while the cursor is inside, and only the space key moves the cursor.  It leaves the array exactly
  when a space is typed behind the last word; a run without such a space never faults.
Trusted boundary: none
Main exports: WithinArray, edit_within, Overruns, cursor_within_array, cursor_passes_last_word
-/
import TypingTutor.Proofs.Effects

namespace TypingTutor

open Runs

/-! ### One edit -/

/-- The array has an element for every word and one more, the word cursor points into it, and the
input cursor stays inside the word. -/
structure WithinArray (test : TypingTest) : Prop where
  size : test.words.length = test.wordCount + 1
  cursor : test.currentWordIndex ≤ test.wordCount
  input : ∃ word, test.words[test.currentWordIndex]? = some word ∧
    test.currentInputIndex ≤ word.length

theorem withinArray_freshTest (env : Env) : WithinArray (freshTest env) where
  size := by simp [freshTest]
  cursor := Nat.zero_le _
  input := by
    have size : (freshTest env).words.length = 41 := by simp [freshTest]
    exact ⟨_, List.getElem?_eq_getElem (by rw [size]; exact Nat.zero_lt_succ 40), Nat.zero_le _⟩

/-- The cursor of a bounded test has a word under it. -/
theorem WithinArray.currentWord {test : TypingTest} (within : WithinArray test) :
    ∃ word, test.currentWord = .ok word ∧ test.words[test.currentWordIndex]? = some word ∧
      test.currentInputIndex ≤ word.length := by
  obtain ⟨word, here, fits⟩ := within.input
  exact ⟨word, by rw [TypingTest.currentWord, here], here, fits⟩

theorem withinArray_layout {loaded : LoadedSprites} {test : TypingTest} (within : WithinArray test) :
    WithinArray (layout loaded test) where
  size := by
    rw [length_layout_words]
    exact within.size
  cursor := within.cursor
  input := by
    obtain ⟨word, here, fits⟩ := within.input
    have texts := layout_getElem? loaded test test.currentWordIndex
    rw [here, Option.map_some, Option.map_eq_some_iff] at texts
    obtain ⟨placed, there, text⟩ := texts
    have letters : placed.letters = word.letters := congrArg Prod.fst text
    refine ⟨placed, there, ?_⟩
    rw [Word.length, letters]
    exact fits

/-- Rewriting the current word in place, letters and all. -/
theorem withinArray_modify {test next : TypingTest} {change : Word → Word} {word : Word}
    (within : WithinArray test) (here : test.words[test.currentWordIndex]? = some word)
    (words : next.words = test.words.modify test.currentWordIndex change)
    (count : next.wordCount = test.wordCount)
    (cursor : next.currentWordIndex = test.currentWordIndex)
    (sameLength : (change word).length = word.length)
    (fits : next.currentInputIndex ≤ word.length) : WithinArray next where
  size := by
    rw [words, List.length_modify, count]
    exact within.size
  cursor := by
    rw [cursor, count]
    exact within.cursor
  input := by
    refine ⟨change word, ?_, ?_⟩
    · rw [words, cursor, List.getElem?_modify_eq, here]
      rfl
    · rw [sameLength]
      exact fits

theorem length_setLetterStatus (k : Nat) (status : Int) (word : Word) :
    (Word.setLetterStatus k status word).length = word.length := by
  rw [Word.length, Word.setLetterStatus, List.length_modify, Word.length]

theorem withinArray_typeLetter {test : TypingTest} (c : Char) {word : Word} (stats : Statistics)
    (within : WithinArray test) (here : test.words[test.currentWordIndex]? = some word)
    (room : test.currentInputIndex < word.length) :
    WithinArray (typeLetter c word test stats).1 := by
  rw [typeLetter]
  split
  · exact withinArray_modify within here rfl rfl rfl (length_setLetterStatus _ _ _) room
  · exact withinArray_modify within here rfl rfl rfl (length_setLetterStatus _ _ _) room

theorem withinArray_deleteLetter {test : TypingTest} {word : Word} (within : WithinArray test)
    (here : test.words[test.currentWordIndex]? = some word)
    (fits : test.currentInputIndex ≤ word.length) : WithinArray (deleteLetter test) := by
  rw [deleteLetter]
  split
  · exact withinArray_modify within here rfl rfl rfl (length_setLetterStatus _ _ _)
      ((Nat.sub_le _ 1).trans fits)
  · exact within

theorem withinArray_fillWord {test : TypingTest} {word : Word} (within : WithinArray test)
    (here : test.words[test.currentWordIndex]? = some word) :
    WithinArray (fillWord word test) := by
  refine withinArray_modify within here rfl rfl rfl ?_ (Nat.le_refl _)
  rw [Word.length, List.length_map, Word.length]

/-- Scrolling rewrites elements of the array and never resizes it. -/
theorem length_shiftWordsUp (env : Env) (test : TypingTest) :
    (shiftWordsUp env test).words.length = test.words.length ∧
      (shiftWordsUp env test).wordCount = test.wordCount := by
  have copied : (shiftLoop test).words.length = test.words.length := by
    rw [shiftLoop]
    generalize initial : (⟨test.words, 0, 0⟩ : ShiftState) = start
    have size : start.words.length = test.words.length := by rw [← initial]
    clear initial
    generalize List.range (test.wordCount - 1) = rounds
    induction rounds generalizing start with
    | nil => exact size
    | cons i rounds inductionHypothesis =>
        apply inductionHypothesis
        rw [← size, shiftStep]
        split
        · split
          · simp [copyWord]
          · simp [copyWord]
        · split
          · simp [copyWord]
          · rfl
  rw [shiftWordsUp]
  generalize initial : { test with words := (shiftLoop test).words } = start
  have size : start.words.length = test.words.length ∧ start.wordCount = test.wordCount := by
    rw [← initial]
    exact ⟨copied, rfl⟩
  clear initial
  generalize List.range' _ _ = indices
  induction indices generalizing start with
  | nil => exact size
  | cons i indices inductionHypothesis =>
      apply inductionHypothesis
      rw [loadNewWord, List.length_set]
      exact size

/-- The step to the next word needs a next element; a scroll goes back to the words of one line. -/
theorem withinArray_advanceWord (env : Env) {test : TypingTest}
    (size : test.words.length = test.wordCount + 1)
    (inside : test.currentWordIndex < test.wordCount) : WithinArray (advanceWord env test) := by
  have fits : ∀ next : TypingTest, next.words.length = next.wordCount + 1 →
      next.currentWordIndex ≤ next.wordCount → next.currentInputIndex = 0 → WithinArray next := by
    intro next size cursor empty
    refine ⟨size, cursor, ?_⟩
    have bound : next.currentWordIndex < next.words.length := by omega
    exact ⟨_, List.getElem?_eq_getElem bound, by rw [empty]; exact Nat.zero_le _⟩
  rw [advanceWord]
  split
  · obtain ⟨words, count⟩ := length_shiftWordsUp env test
    apply fits
    · change (shiftWordsUp env test).words.length = (shiftWordsUp env test).wordCount + 1
      rw [words, count]
      exact size
    · change wordsInPenultimateLine test ≤ (shiftWordsUp env test).wordCount
      rw [count, wordsInPenultimateLine]
      apply List.countP_le_length.trans
      rw [List.length_take]
      exact Nat.min_le_left _ _
    · rfl
  · exact fits _ size inside rfl

theorem withinArray_judgeWord {test : TypingTest} {word : Word} (stats : Statistics)
    (within : WithinArray test) (here : test.words[test.currentWordIndex]? = some word)
    (fits : test.currentInputIndex ≤ word.length) :
    WithinArray (judgeWord word test stats).1 ∧
      (judgeWord word test stats).1.currentWordIndex = test.currentWordIndex ∧
      (judgeWord word test stats).1.wordCount = test.wordCount := by
  rw [judgeWord]
  split
  · exact ⟨withinArray_modify within here rfl rfl rfl rfl fits, rfl, rfl⟩
  · exact ⟨withinArray_modify within here rfl rfl rfl rfl fits, rfl, rfl⟩

/-- Inside the array every edit succeeds, and it stays inside unless a space is typed behind the last
word. -/
theorem edit_within (loaded : LoadedSprites) (change : Edit) {game : Game}
    (within : WithinArray game.test) :
    ∃ edited, edit loaded change game = .ok edited ∧
      ((change.Stays ∨ game.test.currentWordIndex < game.test.wordCount) →
        WithinArray edited.test) := by
  obtain ⟨word, reading, here, fits⟩ := within.currentWord
  cases change with
  | letter c =>
      simp only [edit, reading]
      by_cases room : game.test.currentInputIndex < word.length
      · refine ⟨_, if_pos room, ?_⟩
        intro _
        exact withinArray_layout (withinArray_typeLetter c game.stats within here room)
      · exact ⟨_, if_neg room, fun _ => within⟩
  | delete =>
      simp only [edit, reading]
      refine ⟨_, rfl, ?_⟩
      intro _
      exact withinArray_layout (withinArray_deleteLetter within here fits)
  | fill =>
      simp only [edit, reading]
      refine ⟨_, rfl, ?_⟩
      intro _
      exact withinArray_layout (withinArray_fillWord within here)
  | space env =>
      simp only [edit, reading]
      refine ⟨_, rfl, ?_⟩
      intro allowed
      have inside : game.test.currentWordIndex < game.test.wordCount := by
        rcases allowed with stays | inside
        · exact absurd rfl (stays env)
        · exact inside
      obtain ⟨judged, cursor, count⟩ := withinArray_judgeWord game.stats within here fits
      apply withinArray_layout
      apply withinArray_advanceWord env judged.size
      rw [cursor, count]
      exact inside
  | draw => exact ⟨_, rfl, fun _ => withinArray_layout within⟩

/-! ### Whole runs -/

/-- A game in play keeps its cursors inside the array. -/
def CursorSafe : Core → Prop := InPlay fun game => WithinArray game.test

section Runs

variable {loaded : LoadedSprites}

theorem effect_cursorSafe : ∀ core next, core.Live → CursorSafe core →
    Effect loaded Edit.Stays core next → CursorSafe next := by
  apply effect_inPlay
  · intro env _
    exact withinArray_freshTest env
  · intro change game edited stays within done
    obtain ⟨result, returned, kept⟩ := edit_within loaded change within
    rw [done] at returned
    cases returned
    exact kept (.inl stays)
  · intro env
    exact Edit.noConfusion

/-- The state of a run that has not faulted and cannot fault by anything but a space. -/
def Safe (s : State) : Prop := GameLedger s.core ∧ CursorSafe s.core

def NoFault (_ : Fault) : Prop := False

theorem not_editFault {core : Core} (safe : CursorSafe core) (fault : Fault) :
    ¬ EditFault loaded core fault := by
  rintro ⟨playing, change, testToken, statsToken, game, holds, failed⟩
  obtain ⟨edited, done, -⟩ := edit_within loaded change (safe.of_holds playing holds)
  rw [failed] at done
  cases done

theorem action_safe (s : State) (outcome : Except Fault State) (safe : Safe s)
    (action : Action loaded s outcome) : Outcome Safe NoFault outcome := by
  apply (action_keeps effect_cursorSafe safe.1 safe.2 action).mono fun _ kept => kept
  intro fault failed
  exact not_editFault safe.2 fault failed

/-- A space typed in front of the end of the array. -/
theorem handleSpaceKey_safe {s : State} (env : Env) (safe : Safe s) (playing : s.currentState = .game)
    (inside : ∀ token test, s.test = .live token test → test.currentWordIndex < test.wordCount) :
    Outcome Safe NoFault (handleSpaceKey loaded env s) := by
  obtain ⟨testToken, statsToken, game, holds, within⟩ := safe.2 playing
  have applied := @handleSpaceKey_applies loaded s testToken statsToken game env holds
  have kept := step_ledger s _ safe.1 (.space env playing holds applied)
  obtain ⟨edited, done, stays⟩ := edit_within loaded (.space env) within
  rcases applies_iff.mp applied with ⟨result, next, returned, handled, core⟩ | ⟨fault, failed, -⟩
  · rw [handled] at kept ⊢
    rw [done] at returned
    cases returned
    refine ⟨kept, ?_⟩
    intro _
    refine ⟨testToken, statsToken, edited, ?_, stays (.inr (inside testToken game.test holds.test))⟩
    rw [core]
    exact ⟨rfl, rfl⟩
  · rw [done] at failed
    cases failed

/-- The keyboard interrupt of the message dispatches a space in a game whose cursor is behind the last
word. -/
def Overruns (s : State) (message : Notification) : Prop :=
  ∃ ports env token test, message.keyboard = some (ports, env) ∧
    kbcIh ports s.data = keySpace ∧ s.currentState = .game ∧ s.test = .live token test ∧
    test.wordCount ≤ test.currentWordIndex

instance (s : State) (message : Notification) : Decidable (Overruns s message) :=
  decidable_of_iff (∃ call, message.keyboard = some call ∧ kbcIh call.1 s.data = keySpace ∧
    s.currentState = .game ∧ ∃ test, s.test.deref.toOption = some test ∧
      test.wordCount ≤ test.currentWordIndex) <| by
    constructor
    · rintro ⟨⟨ports, env⟩, key, space, playing, test, read, behind⟩
      cases pointer : s.test with
      | null | freed =>
          rw [pointer] at read
          cases read
      | live token current =>
          rw [pointer] at read
          cases read
          exact ⟨ports, env, token, test, key, space, playing, pointer, behind⟩
    · rintro ⟨ports, env, token, test, key, space, playing, live, behind⟩
      refine ⟨(ports, env), key, space, playing, test, ?_, behind⟩
      rw [live]
      rfl

theorem keyHandler_safe {s : State} (ports : PortReads) (env : Env) (safe : Safe s)
    (inside : kbcIh ports s.data = keySpace → s.currentState = .game →
      ∀ token test, s.test = .live token test → test.currentWordIndex < test.wordCount) :
    Outcome Safe NoFault (keyHandler loaded ports env s) := by
  have received : Safe { s with data := kbcIh ports s.data } := safe
  have typed : Outcome Safe NoFault (updateKeyboard loaded ports env s) := by
    rw [updateKeyboard]
    rcases dispatchScancode_step env { s with data := kbcIh ports s.data } with
      action | ⟨space, playing, dispatched⟩
    · exact action_safe _ _ received action
    · rw [dispatched]
      exact handleSpaceKey_safe env received playing (inside space playing)
  rw [keyHandler_eq]
  cases updated : updateKeyboard loaded ports env s with
  | error fault =>
      rw [updated] at typed
      exact typed
  | ok next =>
      rw [updated] at typed
      have screen : next.currentState = s.currentState := by
        obtain ⟨_, _, _, _, _, _, rfl⟩ := updateKeyboard_typedFrom updated
        rfl
      have left : Chain (Action loaded) next (leaveByKey env s.currentState next) :=
        leaveByKey_chain env screen
      exact left.keeps action_safe typed

/-- One round of the main loop without an overrun. -/
theorem mainLoopStep_safe (s : State) (message : Notification) (safe : Safe s)
    (inside : ¬ Overruns s message) : Outcome Safe NoFault (mainLoopStep loaded s message) := by
  apply mainLoopStep_outcome safe
  · intro call key
    apply keyHandler_safe call.1 call.2 safe
    intro space playing token test hasTest
    by_contra behind
    apply inside
    exact ⟨call.1, call.2, token, test, key, space, playing, hasTest, not_lt.mp behind⟩
  · intro env _ typed safeKey
    exact (timerInterrupt_chain env typed).keeps action_safe safeKey
  · intro call _ ticked safeTick
    exact (updateMouse_chain call.1 call.2 ticked).keeps action_safe safeTick

theorem setup_safe (file : List Char) : Safe (setup file) := by
  refine ⟨setup_ledger file, ?_⟩
  intro playing
  cases playing

/-- A run in which no space is typed behind the last word never faults, and in every game state it
reaches both cursors are inside the array. -/
theorem cursor_within_array (loaded : LoadedSprites) (file : List Char)
    (messages : List Notification)
    (neverOverruns : Along (mainLoopStep loaded) (fun s message => ¬ Overruns s message)
      (setup file) messages) :
    ∃ s, run loaded file messages = .ok s ∧
      (s.currentState = .game → ∃ token test, s.test = .live token test ∧ WithinArray test) := by
  have ran : Outcome Safe NoFault (run loaded file messages) :=
    foldlM_outcome_along mainLoopStep_safe (setup_safe file) neverOverruns
  cases outcome : run loaded file messages with
  | error fault =>
      rw [outcome] at ran
      exact ran.elim
  | ok s =>
      rw [outcome] at ran
      refine ⟨s, rfl, ?_⟩
      intro playing
      obtain ⟨testToken, statsToken, game, holds, within⟩ := ran.2 playing
      exact ⟨testToken, game.test, holds.test, within⟩

end Runs

/-- Forty-two words `THIS` are submitted and a letter is typed: the lines scroll, and the cursor
stays on the words. -/
def fortyTwoSpaces : List Notification :=
  intoGame ++ List.replicate 42 (keyPress keySpace) ++ [keyPress 0x1E]

theorem forty_two_spaces_within_array :
    Along (mainLoopStep everySprite) (fun s message => ¬ Overruns s message) (setup []) fortyTwoSpaces ∧
      ∃ s, run everySprite [] fortyTwoSpaces = .ok s ∧
        (s.currentState = .game → ∃ token test, s.test = .live token test ∧ WithinArray test) := by
  have neverOverruns : Along (mainLoopStep everySprite) (fun s message => ¬ Overruns s message)
      (setup []) fortyTwoSpaces := by
    decide +kernel
  exact ⟨neverOverruns, cursor_within_array everySprite [] _ neverOverruns⟩

/-- The same answers of the world to every handler of a notification. -/
def Notification.inWorld (env : Env) (message : Notification) : Notification :=
  { keyboard := message.keyboard.map fun call => (call.1, env)
    timer := message.timer.map fun _ => env
    mouse := message.mouse.map fun call => (call.1, env) }

/-- Every word drawn from the pool is `"A"`. -/
def shortWords : Env := { (default : Env) with rand := fun _ => 2 }

/-- Forty short words fill two lines.  The second line is never scrolled away, and the forty-first
space moves the cursor behind the sentinel. -/
theorem cursor_passes_last_word :
    ∃ s, run everySprite []
        ((intoGame ++ List.replicate 41 (keyPress keySpace)).map (·.inWorld shortWords)) = .ok s ∧
      s.currentState = .game ∧
      ∃ token test, s.test = .live token test ∧ test.wordCount < test.currentWordIndex := by
  have checked : (run everySprite []
      ((intoGame ++ List.replicate 41 (keyPress keySpace)).map (·.inWorld shortWords))).toOption.any
        (fun s => s.currentState == .game &&
          s.test.deref.toOption.any fun test => test.wordCount < test.currentWordIndex) = true := by
    decide +kernel
  obtain ⟨s, ran, check⟩ := exists_ok_of_any checked
  rw [Bool.and_eq_true, beq_iff_eq] at check
  obtain ⟨playing, behind⟩ := check
  obtain ⟨test, read, passed⟩ := exists_ok_of_any behind
  obtain ⟨token, hasTest⟩ := Ptr.deref_eq_ok read
  exact ⟨s, ran, playing, token, test, hasTest, of_decide_eq_true passed⟩

end TypingTutor
