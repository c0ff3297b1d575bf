/-
Module: TypingTutor.Proofs.WordTyping
Layer: Proofs
Purpose: The game can be played.  In every state of a game that a run reaches, and whatever has been
  typed of the current word, there are keys that erase it, type the word out and submit it: one
  backspace for each character of the buffer, the key of each letter, and the space bar.  The state
  after them is computed: the word is written out and judged right, and little else changes.
Trusted boundary: none
Main exports: scancodeOf, keysFor, writtenOut, OnWord, every_word_can_be_typed
-/
import TypingTutor.Proofs.EscapeKey
import TypingTutor.Proofs.LineEditor

namespace TypingTutor

open Runs

/-! ### Typing a line out -/

namespace Line

/-- Backspaces empty the buffer. -/
theorem erase_all (line : Line) :
    (erase^[line.buffer.length]) line = { line with buffer := [] } := by
  obtain ⟨target, buffer, stats⟩ := line
  induction measured : buffer.length generalizing buffer with
  | zero =>
      obtain rfl := List.length_eq_zero_iff.mp measured
      rfl
  | succ length inductionHypothesis =>
      have shorter : buffer.dropLast.length = length := by
        rw [List.length_dropLast]
        omega
      rw [Function.iterate_succ_apply]
      have rest := inductionHypothesis buffer.dropLast shorter
      exact rest

/-- The characters that are missing, typed in order, are all correct. -/
theorem type_rest (line : Line) (rest : List Char) (whole : line.buffer ++ rest = line.target) :
    rest.foldl type line =
      { line with
        buffer := line.target
        stats := { line.stats with
          typedLetters := line.stats.typedLetters + rest.length
          correctLetters := line.stats.correctLetters + rest.length } } := by
  induction rest generalizing line with
  | nil =>
      rw [List.append_nil] at whole
      obtain ⟨target, buffer, stats⟩ := line
      obtain rfl : buffer = target := whole
      simp only [List.foldl_nil, List.length_nil, Nat.cast_zero, Int.add_zero]
  | cons c rest inductionHypothesis =>
      have room : line.buffer.length < line.target.length := by
        rw [← whole, List.length_append, List.length_cons]
        omega
      have expected : line.target[line.buffer.length]? = some c := by
        rw [← whole, List.getElem?_append_right (Nat.le_refl _), Nat.sub_self]
        rfl
      have typed : line.type c =
          { line with
            buffer := line.buffer ++ [c]
            stats := { line.stats with
              typedLetters := line.stats.typedLetters + 1
              correctLetters := line.stats.correctLetters + 1 } } := by
        simp only [type, if_pos room, if_pos expected]
      have longer : line.buffer ++ [c] ++ rest = line.target := by
        rw [← whole, List.append_assoc]
        rfl
      rw [List.foldl_cons, typed, inductionHypothesis _ longer, List.length_cons]
      simp only [Line.mk.injEq, Statistics.mk.injEq, true_and, and_true]
      omega

end Line

/-! ### Keys -/

/-- The make code of a character. -/
def scancodeOf (c : Char) : UInt8 :=
  ((characterKeys.find? fun row => row.2.2 == c).map fun row => row.1).getD 0

theorem scancodeOf_capital {c : Char} (capital : 'A' ≤ c ∧ c ≤ 'Z') :
    bit 7 (scancodeOf c) = false ∧ charMap (scancodeOf c) = some c ∧
      keyMap (scancodeOf c) ≠ .esc := by
  have all : ∀ code < 91, 65 ≤ code → bit 7 (scancodeOf (Char.ofNat code)) = false ∧
      charMap (scancodeOf (Char.ofNat code)) = some (Char.ofNat code) ∧
        keyMap (scancodeOf (Char.ofNat code)) ≠ .esc := by decide +kernel
  have low : 65 ≤ c.toNat := capital.1
  have high : c.toNat ≤ 90 := capital.2
  rw [← Char.ofNat_toNat c]
  exact all c.toNat (by omega) low

/-- The keys that erase so many characters and type a word. -/
def keysFor (typed : Nat) (word : List Char) : List Notification :=
  List.replicate typed (keyPress keyDelete) ++
    (word.map (fun c => keyPress (scancodeOf c)) ++ [keyPress keySpace])

section Presses

variable {loaded : LoadedSprites} {s : State}

/-- A key in a game. -/
theorem mainLoopStep_inGame (playing : s.currentState = .game) (code : UInt8) (env : Env) :
    mainLoopStep loaded s ((keyPress code).inWorld env) =
      dispatchScancode loaded env { s with data := code } >>= leaveByKey env .game := by
  have read : kbcIh { status := some 0x01, output := some code } s.data = code := by
    have status : bit 7 0x01 = false ∧ bit 6 0x01 = false ∧ bit 0 0x01 = true := by decide
    simp [kbcIh, kbcRead, status]
  have served : handleNotification loaded ((keyPress code).inWorld env) s =
      keyHandler loaded { status := some 0x01, output := some code } env s := by
    simp [handleNotification, keyPress, Notification.inWorld]
  have running : exitRequested s = false := by
    rw [exitRequested, playing]
    rfl
  rw [mainLoopStep, running, if_neg Bool.false_ne_true, served, keyHandler_eq, updateKeyboard, read,
    playing]

/-- A key that is not ESC does not leave the game. -/
theorem mainLoopStep_stays {code : UInt8} {env : Env} {next : State}
    (playing : s.currentState = .game)
    (pressed : dispatchScancode loaded env { s with data := code } = .ok next)
    (noEscape : next.currentKey ≠ .esc) :
    mainLoopStep loaded s ((keyPress code).inWorld env) = .ok next := by
  rw [mainLoopStep_inGame playing, pressed]
  change leaveByKey env .game next = _
  rw [leaveByKey, if_neg GameState.noConfusion, if_neg noEscape]

end Presses

/-! ### The word written out -/

/-- The current word with every letter right. -/
def writtenOut (word : Word) (test : TypingTest) : TypingTest :=
  { test.modifyWord (fun word =>
      { word with letters := word.letters.map fun letter => { letter with status := 1 } }) with
    currentInputIndex := word.length }

/-- A complete line writes the word out. -/
theorem Typed.withLine_complete {line full : Line} {game : Game} {word : Word} (typed : Typed line game)
    (letters : word.letters = marked line.target line.buffer) (target : full.target = line.target)
    (buffer : full.buffer = line.target) : withLine full game.test = writtenOut word game.test := by
  have length : word.length = full.buffer.length := by
    rw [Word.length, letters, length_marked, buffer]
  have words := @Typed.modifyWord line game typed full
    (fun word => { word with letters := word.letters.map fun letter => { letter with status := 1 } })
    fun word shown => by
      rw [shown, target, buffer, marked_self line.target line.buffer]
  rw [withLine, writtenOut, words, length]

/-- Of two lines written in, the second stays. -/
theorem withLine_withLine (first second : Line) (test : TypingTest) :
    withLine second (withLine first test) = withLine second test := by
  simp only [withLine, TypingTest.modifyWord, List.modify_modify_eq]
  rfl

/-- Writing a line in does not depend on places. -/
theorem SameTexts.withLine {first second : TypingTest} (same : SameTexts first second) (line : Line)
    (inside : second.currentWordIndex < second.wordCount) :
    SameTexts (withLine line first) (withLine line second) := by
  have count : first.wordCount = second.wordCount := by rw [same.rest]
  have cursor : first.currentWordIndex = second.currentWordIndex := by rw [same.rest]
  have texts : ∀ test : TypingTest, (TypingTutor.withLine line test).words.map Word.text =
      (test.words.map Word.text).modify test.currentWordIndex fun text =>
        (marked line.target line.buffer, text.2) := by
    intro test
    apply List.ext_getElem?
    intro k
    simp only [TypingTutor.withLine, TypingTest.modifyWord, List.getElem?_map, List.getElem?_modify]
    cases test.words[k]? with
    | none => rfl
    | some word =>
        by_cases mine : test.currentWordIndex = k
        · simp [mine, Word.text]
        · simp [mine, Word.text]
  have behind : ∀ test : TypingTest, test.currentWordIndex < test.wordCount →
      (TypingTutor.withLine line test).words.drop test.wordCount = test.words.drop test.wordCount := by
    intro test inside
    exact List.drop_modify_of_lt _ _ _ _ inside
  refine ⟨?_, ?_, ?_⟩
  · rw [texts, texts, same.texts, cursor]
  · change (TypingTutor.withLine line first).words.drop first.wordCount =
      (TypingTutor.withLine line second).words.drop second.wordCount
    rw [behind first (by omega), behind second inside, same.behind]
  · have input : first.currentInput = second.currentInput := by rw [same.rest]
    simp only [TypingTutor.withLine, TypingTest.modifyWord, count, cursor, input]

/-! ### On a word -/

section Handlers

variable {loaded : LoadedSprites} {s : State} {testToken statsToken : Nat} {game : Game} {word : Word}

/-- A letter that fits changes the game, the remembered key and the picture. -/
theorem processKey_fits (playing : s.currentState = .game)
    (holds : s.core.Holds testToken statsToken game) (reading : game.test.currentWord = .ok word)
    (fits : game.test.currentInputIndex < word.length) (c : Char) (key : Key) :
    ∃ view, processKey loaded c key s =
      .ok { s with
        currentKey := key
        test := .live testToken (layout loaded (typeLetter c word game.test game.stats).1)
        stats := .live statsToken (typeLetter c word game.test game.stats).2
        view := view } := by
  have hasTest : s.test = .live testToken game.test := holds.test
  have hasStats : s.stats = .live statsToken game.stats := holds.stats
  obtain ⟨erased, erasing⟩ : ∃ view, (if game.test.currentInputIndex + 1 = word.length then
      { s with view := deleteCaret s.view } else s) = { s with view := view } := by
    split
    · exact ⟨_, rfl⟩
    · exact ⟨_, rfl⟩
  simp only [processKey, if_pos playing, holds.derefTest, bind, Except.bind, reading, erasing,
    if_pos fits, holds.derefStats]
  simp only [redrawWords, drawWords_fst, hasTest, hasStats, Ptr.store_live]
  exact ⟨_, rfl⟩

/-- Backspace changes the test and the picture. -/
theorem handleDeleteKey_deletes (holds : s.core.Holds testToken statsToken game)
    (reading : game.test.currentWord = .ok word) :
    ∃ view, handleDeleteKey loaded s =
      .ok { s with
        test := .live testToken (layout loaded (deleteLetter game.test))
        view := view } := by
  have hasTest : s.test = .live testToken game.test := holds.test
  simp only [handleDeleteKey, holds.derefTest, bind, Except.bind, reading]
  simp only [redrawWords, drawWords_fst, hasTest, Ptr.store_live]
  exact ⟨_, rfl⟩

/-- The space bar on a correct word starts the happy panda, and changes the game and the picture. -/
theorem handleSpaceKey_correct (holds : s.core.Holds testToken statsToken game)
    (reading : game.test.currentWord = .ok word) (correct : isCorrect word = true) (env : Env) :
    ∃ view, handleSpaceKey loaded env s =
      .ok { s with
        happyAnimation := startAnimation s.happyAnimation
        test := .live testToken (layout loaded
          (advanceWord env (game.test.modifyWord fun word => { word with status := 1 })))
        stats := .live statsToken { game.stats with
          typedWords := game.stats.typedWords + 1
          correctWords := game.stats.correctWords + 1 }
        view := view } := by
  have hasTest : s.test = .live testToken game.test := holds.test
  have hasStats : s.stats = .live statsToken game.stats := holds.stats
  simp only [handleSpaceKey, holds.derefTest, holds.derefStats, bind, Except.bind, reading, judgeWord,
    if_pos correct]
  split
  · simp only [redrawWords, drawWords_fst, hasTest, hasStats, Ptr.store_live]
    exact ⟨_, rfl⟩
  · simp only [redrawWords, drawWords_fst, hasTest, hasStats, Ptr.store_live]
    exact ⟨_, rfl⟩

end Handlers

/-- Since the state `start`, only the current word of its game has been edited, and now shows the line:
nothing else has changed but the key and what is drawn. -/
structure OnWord (start : State) (testToken statsToken : Nat) (original : TypingTest) (line : Line)
    (test : TypingTest) (s : State) : Prop where
  state : ∃ key data view, s =
    { start with
      currentKey := key
      data := data
      test := .live testToken test
      stats := .live statsToken line.stats
      view := view }
  playing : start.currentState = .game
  inside : original.currentWordIndex < original.wordCount
  scrolled : WellScrolled test
  typed : Typed line { test := test, stats := line.stats }
  same : SameTexts test (withLine line original)

section Keys

variable {loaded : LoadedSprites} {start : State} {testToken statsToken : Nat}
  {original test : TypingTest} {line : Line} {s : State}

theorem OnWord.screen (on : OnWord start testToken statsToken original line test s) :
    s.currentState = .game := by
  obtain ⟨_, _, _, rfl⟩ := on.state
  exact on.playing

theorem OnWord.holds (on : OnWord start testToken statsToken original line test s) (data : UInt8)
    (key : Key) :
    ({ s with data := data, currentKey := key } : State).core.Holds testToken statsToken
      { test := test, stats := line.stats } := by
  obtain ⟨_, _, _, rfl⟩ := on.state
  exact ⟨rfl, rfl⟩

/-- An edit that writes the next line into the word. -/
theorem OnWord.edit (letters : LettersLoaded loaded)
    (on : OnWord start testToken statsToken original line test s) {change : Edit} {next : Line}
    (done : TypingTutor.edit loaded change { test := test, stats := line.stats } =
      .ok { test := layout loaded (withLine next test), stats := next.stats })
    (fits : next.buffer.length ≤ next.target.length) (key : Key) (data : UInt8) (view : View) :
    OnWord start testToken statsToken original next (layout loaded (withLine next original))
      { s with
        currentKey := key
        data := data
        test := .live testToken (layout loaded (withLine next test))
        stats := .live statsToken next.stats
        view := view } := by
  obtain ⟨word, here, -⟩ := on.typed.word
  have inside := on.inside
  have written : SameTexts (withLine next test) (withLine next original) := by
    have same := on.same.withLine next inside
    rw [withLine_withLine] at same
    exact same
  have scrolled := edit_wellScrolled letters on.scrolled done
  have sheet := scrolled.sheet
  have drawable : Drawable loaded (withLine next original) :=
    (written.symm.trans (sameTexts_layout loaded _).symm).drawable (sheet.drawable letters)
  have count : (withLine next original).wordCount = 40 := by
    have same : (withLine next test).wordCount = (withLine next original).wordCount := by
      rw [written.rest]
    exact same.symm.trans sheet.count
  have size : (withLine next original).words.length = 41 := by
    rw [← List.length_map Word.text, ← written.texts, List.length_map]
    rw [← length_layout_words loaded]
    exact sheet.size
  have laid : layout loaded (withLine next test) = layout loaded (withLine next original) :=
    written.layout_eq (by omega) (by omega) drawable
  rw [laid] at scrolled ⊢
  obtain ⟨_, _, _, rfl⟩ := on.state
  refine ⟨⟨_, _, _, rfl⟩, on.playing, inside, scrolled, ?_, sameTexts_layout loaded _⟩
  rw [← laid]
  exact (typed_withLine here fits).layout

/-- The key of a letter that fits types it. -/
theorem OnWord.press_letter (letters : LettersLoaded loaded)
    (on : OnWord start testToken statsToken original line test s) {c : Char}
    (capital : 'A' ≤ c ∧ c ≤ 'Z') (room : line.buffer.length < line.target.length) (env : Env) :
    ∃ next, mainLoopStep loaded s ((keyPress (scancodeOf c)).inWorld env) = .ok next ∧
      OnWord start testToken statsToken original (line.type c)
        (layout loaded (withLine (line.type c) original)) next ∧
      next.currentKey = keyMap (scancodeOf c) := by
  obtain ⟨make, character, plain⟩ := scancodeOf_capital capital
  obtain ⟨word, reading, -, shown, length⟩ := on.typed.currentWord
  have fits : test.currentInputIndex < word.length := by
    rw [length]
    exact lt_of_eq_of_lt on.typed.input room
  have types := on.typed.typeLetter room c shown
  obtain ⟨view, typing⟩ := @processKey_fits loaded { s with data := scancodeOf c } _ _ _ _ on.screen
    (on.holds (scancodeOf c) s.currentKey) reading fits c (keyMap (scancodeOf c))
  have dispatched : dispatchScancode loaded env { s with data := scancodeOf c } =
      processKey loaded c (keyMap (scancodeOf c)) { s with data := scancodeOf c } := by
    rw [dispatchScancode, make, if_neg Bool.false_ne_true, character]
  have done : TypingTutor.edit loaded (.letter c) { test := test, stats := line.stats } =
      .ok { test := layout loaded (withLine (line.type c) test), stats := (line.type c).stats } := by
    simp only [TypingTutor.edit, reading]
    change (if test.currentInputIndex < word.length then _ else _) = _
    rw [if_pos fits, types]
    rfl
  have short : (line.type c).buffer.length ≤ (line.type c).target.length := by
    rw [Line.type, if_pos room, List.length_append]
    exact room
  rw [types] at typing
  refine ⟨_, mainLoopStep_stays on.screen (dispatched.trans typing) plain, ?_, rfl⟩
  exact on.edit letters done short (keyMap (scancodeOf c)) (scancodeOf c) view

/-- Backspace drops the last character. -/
theorem OnWord.press_delete (letters : LettersLoaded loaded)
    (on : OnWord start testToken statsToken original line test s) (env : Env) :
    ∃ next test, mainLoopStep loaded s ((keyPress keyDelete).inWorld env) = .ok next ∧
      OnWord start testToken statsToken original line.erase test next := by
  have code : bit 7 keyDelete = false ∧ charMap keyDelete = none ∧ keyDelete ≠ keySpace ∧
      keyDelete ≠ keyEnter := by decide
  have playing := on.screen
  obtain ⟨word, reading, -, -, -⟩ := on.typed.currentWord
  obtain ⟨view, deleting⟩ := @handleDeleteKey_deletes loaded
    { s with data := keyDelete, currentKey := .back } _ _ _ _ (on.holds keyDelete .back) reading
  have dispatched : dispatchScancode loaded env { s with data := keyDelete } =
      handleDeleteKey loaded { s with data := keyDelete, currentKey := .back } := by
    simp [dispatchScancode, code, playing]
  have done : TypingTutor.edit loaded .delete { test := test, stats := line.stats } =
      .ok { test := layout loaded (withLine line.erase test), stats := line.erase.stats } := by
    simp only [TypingTutor.edit, reading]
    rw [on.typed.deleteLetter]
    rfl
  have short : line.erase.buffer.length ≤ line.erase.target.length := by
    have fits := on.typed.fits
    change line.buffer.dropLast.length ≤ line.target.length
    rw [List.length_dropLast]
    omega
  rw [on.typed.deleteLetter] at deleting
  refine ⟨_, layout loaded (withLine line.erase original),
    mainLoopStep_stays playing (dispatched.trans deleting) (fun escape => Key.noConfusion escape), ?_⟩
  have stays := on.edit letters done short .back keyDelete view
  have stats : s.stats = .live statsToken line.erase.stats := (on.holds keyDelete .back).stats
  rw [← stats] at stays
  exact stays

/-- A series of backspaces. -/
theorem OnWord.press_deletes (letters : LettersLoaded loaded) (env : Env) (count : Nat)
    (on : OnWord start testToken statsToken original line test s) :
    ∃ next test,
      (List.replicate count ((keyPress keyDelete).inWorld env)).foldlM (mainLoopStep loaded) s =
        .ok next ∧
      OnWord start testToken statsToken original (Line.erase^[count] line) test next := by
  induction count generalizing line test s with
  | zero => exact ⟨s, test, rfl, on⟩
  | succ count inductionHypothesis =>
      obtain ⟨middle, _, pressed, onMiddle⟩ := on.press_delete letters env
      obtain ⟨next, last, ran, onNext⟩ := inductionHypothesis onMiddle
      refine ⟨next, last, ?_, onNext⟩
      rw [List.replicate_succ, List.foldlM_cons, pressed]
      exact ran

/-- The keys of the letters that are missing. -/
theorem OnWord.press_letters (letters : LettersLoaded loaded) (env : Env) {word : List Char}
    (capital : ∀ c ∈ word, 'A' ≤ c ∧ c ≤ 'Z') {last : Char} (ends : word.getLast? = some last)
    (on : OnWord start testToken statsToken original line test s)
    (whole : line.buffer ++ word = line.target) :
    ∃ next, (word.map fun c => (keyPress (scancodeOf c)).inWorld env).foldlM (mainLoopStep loaded) s =
        .ok next ∧
      OnWord start testToken statsToken original (word.foldl Line.type line)
        (layout loaded (withLine (word.foldl Line.type line) original)) next ∧
      next.currentKey = keyMap (scancodeOf last) := by
  induction word generalizing line test s with
  | nil => cases ends
  | cons c word inductionHypothesis =>
      have room : line.buffer.length < line.target.length := by
        rw [← whole, List.length_append, List.length_cons]
        omega
      obtain ⟨middle, pressed, onMiddle, key⟩ :=
        on.press_letter letters (capital c List.mem_cons_self) room env
      rw [List.map_cons, List.foldlM_cons, pressed]
      cases word with
      | nil =>
          cases ends
          exact ⟨middle, rfl, onMiddle, key⟩
      | cons second word =>
          rw [List.getLast?_cons_cons] at ends
          have longer : (line.type c).buffer ++ (second :: word) = (line.type c).target := by
            rw [Line.type, if_pos room, ← whole, List.append_assoc]
            rfl
          exact inductionHypothesis (fun c member => capital c (List.mem_cons_of_mem _ member)) ends
            onMiddle longer

/-- The space bar submits the complete word. -/
theorem OnWord.press_space (on : OnWord start testToken statsToken original line test s)
    (complete : line.buffer = line.target) (awake : s.currentKey ≠ .esc) (env : Env) :
    ∃ view, mainLoopStep loaded s ((keyPress keySpace).inWorld env) =
      .ok { start with
        currentKey := s.currentKey
        data := keySpace
        happyAnimation := startAnimation start.happyAnimation
        test := .live testToken (layout loaded
          (advanceWord env (test.modifyWord fun word => { word with status := 1 })))
        stats := .live statsToken { line.stats with
          typedWords := line.stats.typedWords + 1
          correctWords := line.stats.correctWords + 1 }
        view := view } := by
  have code : bit 7 keySpace = false ∧ charMap keySpace = none := by decide
  have playing := on.screen
  obtain ⟨word, reading, -, shown, -⟩ := on.typed.currentWord
  have correct := (isCorrect_marked on.typed.fits shown).mpr complete
  obtain ⟨view, submitting⟩ := @handleSpaceKey_correct loaded { s with data := keySpace } _ _ _ _
    (on.holds keySpace s.currentKey) reading correct env
  have dispatched : dispatchScancode loaded env { s with data := keySpace } =
      handleSpaceKey loaded env { s with data := keySpace } := by
    simp [dispatchScancode, code, playing]
  have stepped := mainLoopStep_stays playing (dispatched.trans submitting) awake
  obtain ⟨_, _, _, rfl⟩ := on.state
  exact ⟨view, stepped⟩

/-- Backspaces for all that has been typed, and the keys of the word, write it out. -/
theorem OnWord.press_word (letters : LettersLoaded loaded) (env : Env)
    (capital : ∀ c ∈ line.target, 'A' ≤ c ∧ c ≤ 'Z') {last : Char}
    (ends : line.target.getLast? = some last)
    (on : OnWord start testToken statsToken original line test s) :
    ∃ written, ((keysFor line.buffer.length line.target).map (·.inWorld env)).foldlM
        (mainLoopStep loaded) s = mainLoopStep loaded written ((keyPress keySpace).inWorld env) ∧
      OnWord start testToken statsToken original
        (line.target.foldl Line.type { line with buffer := [] })
        (layout loaded (withLine (line.target.foldl Line.type { line with buffer := [] }) original))
        written ∧
      written.currentKey = keyMap (scancodeOf last) := by
  obtain ⟨erased, _, erasing, onErased⟩ := on.press_deletes letters env line.buffer.length
  rw [Line.erase_all] at onErased
  obtain ⟨written, writing, onWritten, key⟩ := onErased.press_letters letters env capital ends rfl
  have keys : (keysFor line.buffer.length line.target).map (·.inWorld env) =
      List.replicate line.buffer.length ((keyPress keyDelete).inWorld env) ++
        (line.target.map (fun c => (keyPress (scancodeOf c)).inWorld env) ++
          [(keyPress keySpace).inWorld env]) := by
    rw [keysFor, List.map_append, List.map_append, List.map_replicate, List.map_map]
    rfl
  refine ⟨written, ?_, onWritten, key⟩
  rw [keys, List.foldlM_append, erasing]
  change List.foldlM _ erased _ = _
  rw [List.foldlM_append, writing]
  change List.foldlM _ written _ = _
  rw [List.foldlM_cons]
  exact bind_pure _

/-- A game that shows a line is on its word. -/
theorem OnWord.of_typed {game : Game} (playing : s.currentState = .game)
    (holds : s.core.Holds testToken statsToken game) (scrolled : WellScrolled game.test)
    (typed : Typed line game) (inside : game.test.currentWordIndex < game.test.wordCount) :
    OnWord s testToken statsToken game.test line game.test s where
  state := by
    have hasTest : s.test = .live testToken game.test := holds.test
    have hasStats : s.stats = .live statsToken line.stats := typed.stats ▸ holds.stats
    refine ⟨s.currentKey, s.data, s.view, ?_⟩
    rw [← hasTest, ← hasStats]
  playing := playing
  inside := inside
  scrolled := scrolled
  typed := typed.stats ▸ typed
  same := by
    rw [typed.withLine_self]
    exact ⟨rfl, rfl, rfl⟩

end Keys

/-! ### Every game shows a line -/

/-- Letters and backspaces stay on the word. -/
theorem edit_stays_on_word {loaded : LoadedSprites} {change : Edit} {game edited : Game}
    (stays : change.Stays) (done : edit loaded change game = .ok edited) :
    edited.test.currentWordIndex = game.test.currentWordIndex ∧
      edited.test.wordCount = game.test.wordCount := by
  cases change with
  | letter c =>
      obtain ⟨word, -, done⟩ := bind_eq_ok.mp done
      split at done
      · cases done
        rw [layout_wordCount]
        unfold typeLetter
        dsimp only
        split
        · exact ⟨rfl, rfl⟩
        · exact ⟨rfl, rfl⟩
      · cases done
        exact ⟨rfl, rfl⟩
  | delete =>
      obtain ⟨word, -, done⟩ := bind_eq_ok.mp done
      cases done
      unfold deleteLetter
      dsimp only
      split
      · exact ⟨rfl, rfl⟩
      · exact ⟨rfl, rfl⟩
  | fill =>
      obtain ⟨word, -, done⟩ := bind_eq_ok.mp done
      cases done
      exact ⟨rfl, rfl⟩
  | space env => exact absurd rfl (stays env)
  | draw =>
      cases done
      exact ⟨rfl, rfl⟩

/-- As long as there is a word to type, the game shows some line. -/
structure ShowsLine (game : Game) : Prop where
  scrolled : WellScrolled game.test
  typed : game.test.currentWordIndex < game.test.wordCount → ∃ line, Typed line game

theorem showsLine_fresh (env : Env) (seconds : Int) :
    ShowsLine { test := freshTest env, stats := initializeStats seconds } := by
  refine ⟨freshTest_wellScrolled env, fun _ => ?_⟩
  have first : (freshTest env).words[0]? =
      some (newWord (poolWord (env.rand 0 % 100)) (env.junk 0)) := by
    simp [freshTest]
  have blank := marked_untouched (newWord_untouched (poolWord (env.rand 0 % 100)) (env.junk 0))
  exact ⟨⟨_, [], initializeStats seconds⟩, ⟨_, first, blank⟩, Nat.zero_le _, rfl, rfl⟩

theorem edit_showsLine {loaded : LoadedSprites} (letters : LettersLoaded loaded) {change : Edit}
    {game edited : Game} (shows : ShowsLine game) (done : edit loaded change game = .ok edited) :
    ShowsLine edited := by
  refine ⟨edit_wellScrolled letters shows.scrolled done, fun inside => ?_⟩
  -- An edit that succeeds returns the game of its lemma.
  have found : ∀ {line : Line}, (∃ result, edit loaded change game = .ok result ∧ Typed line result) →
      ∃ line, Typed line edited := by
    rintro line ⟨result, returned, typed⟩
    obtain rfl : result = edited := Except.ok.inj (returned.symm.trans done)
    exact ⟨line, typed⟩
  by_cases staying : change.Stays
  · obtain ⟨cursor, count⟩ := edit_stays_on_word staying done
    rw [cursor, count] at inside
    obtain ⟨line, typed⟩ := shows.typed inside
    cases change with
    | letter c => exact found (edit_letter typed c)
    | delete => exact found (edit_backspace typed)
    | fill => exact found (edit_fill typed)
    | space env => exact absurd rfl (staying env)
    | draw => exact found (edit_draw typed)
  · obtain ⟨env, rfl⟩ : ∃ env, change = .space env := by
      simpa [Edit.Stays] using staying
    by_cases before : game.test.currentWordIndex < game.test.wordCount
    · obtain ⟨line, typed⟩ := shows.typed before
      obtain ⟨result, target, returned, typedNext⟩ :=
        @edit_space loaded line game typed shows.scrolled before env
      exact found ⟨result, returned, typedNext⟩
    · -- Behind the last word the cursor only moves on.
      obtain ⟨word, reading, returned⟩ := bind_eq_ok.mp done
      obtain ⟨status, -, judging⟩ := judgeWord_eq word game.test game.stats
      have behind : scrolls (judgeWord word game.test game.stats).1 = false := by
        rw [judging]
        exact scrolls_behind shows.scrolled.sheet.judge (phase_judge shows.scrolled.phase)
          (not_lt.mp before)
      cases returned
      change (advanceWord env (judgeWord word game.test game.stats).1).currentWordIndex <
        (advanceWord env (judgeWord word game.test game.stats).1).wordCount at inside
      rw [advanceWord_step behind, judging] at inside
      exact absurd (Nat.lt_of_succ_lt inside) before

/-- In every state of a run, the game in play shows a line. -/
theorem run_showsLine {loaded : LoadedSprites} (letters : LettersLoaded loaded) {file : List Char}
    {messages : List Notification} {s : State} (ran : run loaded file messages = .ok s) :
    InPlay ShowsLine s.core := by
  refine run_keeps ?_ ?_ ran
  · apply effect_inPlay
    · exact showsLine_fresh
    · intro change game edited _ shows done
      exact edit_showsLine letters shows done
    · trivial
  · intro playing
    cases playing

/-- From every state of a game that a run reaches, with a word under the cursor, whatever has been
typed of it: one backspace for each character typed, the keys of its letters and the space bar are a
run of the main loop.  Of the program it changes the remembered key and scancode, what is drawn, the
happy panda, which starts, and the game: the word and each of its letters are counted as typed and
as correct, all letters of the word get status 1 and so does the word, and `handle_space_key` goes
on to the next word with an empty input. -/
theorem every_word_can_be_typed (loaded : LoadedSprites) (letters : LettersLoaded loaded)
    (file : List Char) (messages : List Notification) (s : State)
    (ran : run loaded file messages = .ok s) (playing : s.currentState = .game)
    (current : HasCurrentWord s) :
    ∃ testToken statsToken game word last, s.core.Holds testToken statsToken game ∧
      game.test.words[game.test.currentWordIndex]? = some word ∧ word.chars.getLast? = some last ∧
      ∀ env, ∃ view,
        run loaded file
          (messages ++ (keysFor game.test.currentInputIndex word.chars).map (·.inWorld env)) =
          .ok { s with
            currentKey := keyMap (scancodeOf last)
            data := keySpace
            happyAnimation := startAnimation s.happyAnimation
            test := .live testToken (layout loaded (advanceWord env
              ((layout loaded (writtenOut word game.test)).modifyWord fun word =>
                { word with status := 1 })))
            stats := .live statsToken { game.stats with
              typedLetters := game.stats.typedLetters + word.length
              correctLetters := game.stats.correctLetters + word.length
              typedWords := game.stats.typedWords + 1
              correctWords := game.stats.correctWords + 1 }
            view := view } := by
  obtain ⟨testToken, statsToken, game, holds, shows⟩ := run_showsLine letters ran playing
  have inside := current testToken game.test holds.test
  obtain ⟨line, typed⟩ := shows.typed inside
  obtain ⟨word, -, here, lettersOfWord, length⟩ := typed.currentWord
  have target : word.chars = line.target := by
    rw [Word.chars, lettersOfWord, map_character_marked]
  have pool : FromPool word := by
    apply shows.scrolled.sheet.pool
    have count := shows.scrolled.sheet.count
    obtain ⟨bound, rfl⟩ := List.getElem?_eq_some_iff.mp here
    exact List.mem_take_iff_getElem.mpr ⟨_, by omega, rfl⟩
  obtain ⟨last, ends⟩ := Option.isSome_iff_exists.mp (List.getLast?_isSome.mpr pool.1)
  refine ⟨testToken, statsToken, game, word, last, holds, here, ends, fun env => ?_⟩
  have on := OnWord.of_typed playing holds shows.scrolled typed inside
  rw [target] at ends
  have capital : ∀ c ∈ line.target, 'A' ≤ c ∧ c ≤ 'Z' := target ▸ pool.2
  obtain ⟨written, pressing, onWritten, key⟩ := on.press_word letters env capital ends
  have out : ∀ stats,
      withLine { target := line.target, buffer := line.target, stats := stats } game.test =
        writtenOut word game.test := fun stats => typed.withLine_complete lettersOfWord rfl rfl
  rw [Line.type_rest _ line.target rfl, out] at onWritten
  have awake : written.currentKey ≠ .esc := by
    rw [key]
    exact (scancodeOf_capital (capital last (List.mem_of_getLast? ends))).2.2
  obtain ⟨view, submitting⟩ := @OnWord.press_space loaded _ _ _ _ _ _ _ onWritten rfl awake env
  refine ⟨view, ?_⟩
  have size : (line.target.length : Int) = word.length := by
    rw [← target, Word.chars, List.length_map, Word.length]
  rw [run, List.foldlM_append]
  change (run loaded file messages >>= _) = _
  rw [ran, typed.input, target]
  refine pressing.trans ?_
  rw [submitting, key, size, typed.stats]

/-- The first word of a game, `THIS`, begun with a wrong and a right letter. -/
def falseStart : List Notification :=
  intoGame ++ [keyPress (scancodeOf 'A'), keyPress (scancodeOf 'H')]

/-- A word is under the cursor, with two characters typed. -/
def twoTyped (s : State) : Bool :=
  s.currentState == .game &&
    match s.test with
    | .live _ test => decide (test.currentWordIndex < test.wordCount) && test.currentInputIndex == 2
    | _ => false

theorem false_start_can_be_mended :
    LettersLoaded everySprite ∧
      ∃ s, run everySprite [] falseStart = .ok s ∧ s.currentState = .game ∧ HasCurrentWord s ∧
        ∃ testToken statsToken game word last, s.core.Holds testToken statsToken game ∧
          game.test.words[game.test.currentWordIndex]? = some word ∧ word.chars.getLast? = some last ∧
          ∀ env, ∃ view,
            run everySprite []
              (falseStart ++ (keysFor game.test.currentInputIndex word.chars).map (·.inWorld env)) =
              .ok { s with
                currentKey := keyMap (scancodeOf last)
                data := keySpace
                happyAnimation := startAnimation s.happyAnimation
                test := .live testToken (layout everySprite (advanceWord env
                  ((layout everySprite (writtenOut word game.test)).modifyWord fun word =>
                    { word with status := 1 })))
                stats := .live statsToken { game.stats with
                  typedLetters := game.stats.typedLetters + word.length
                  correctLetters := game.stats.correctLetters + word.length
                  typedWords := game.stats.typedWords + 1
                  correctWords := game.stats.correctWords + 1 }
                view := view } := by
  have checked : (run everySprite [] falseStart).toOption.any twoTyped = true := by
    decide +kernel
  obtain ⟨s, ran, typing⟩ := exists_ok_of_any checked
  rw [twoTyped, Bool.and_eq_true, beq_iff_eq] at typing
  obtain ⟨playing, typed⟩ := typing
  have current : HasCurrentWord s := by
    intro token test live
    rw [live, Bool.and_eq_true, decide_eq_true_eq] at typed
    exact typed.1
  exact ⟨lettersLoaded_everySprite, s, ran, playing, current,
    every_word_can_be_typed everySprite lettersLoaded_everySprite [] falseStart s ran playing current⟩

end TypingTutor
