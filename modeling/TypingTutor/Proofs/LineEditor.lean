/-
Module: TypingTutor.Proofs.LineEditor
Layer: Proofs
Purpose: Scoring as a line editor.  The abstract machine has a target word and a buffer, and knows
  nothing about flags, lines or scrolling.  The four handlers of a game follow it: the flags of the
  current word are the comparison of buffer and target, and every word that becomes current is blank.
Trusted boundary: none
Main exports: Line, LineStep, marked, Stroke, typingStep, GameShows, Follows, typingStep_follows,
  scoring_refines_line_editor
-/
import TypingTutor.Proofs.ScrollInvariant

namespace TypingTutor

open Runs Compaction

/-! ### The abstract machine -/

/-- A word to type, what has been typed of it, and the statistics so far. -/
structure Line where
  target : List Char
  buffer : List Char
  stats : Statistics
deriving Repr, DecidableEq

namespace Line

/-- A letter that fits is appended and counted, by comparison with the target at its position. -/
def type (line : Line) (c : Char) : Line :=
  if line.buffer.length < line.target.length then
    let counted := { line.stats with typedLetters := line.stats.typedLetters + 1 }
    { line with
      buffer := line.buffer ++ [c]
      stats :=
        if line.target[line.buffer.length]? = some c then
          { counted with correctLetters := counted.correctLetters + 1 }
        else { counted with incorrectLetters := counted.incorrectLetters + 1 } }
  else line

/-- The last character is dropped. -/
def erase (line : Line) : Line := { line with buffer := line.buffer.dropLast }

/-- The buffer becomes the target. -/
def complete (line : Line) : Line := { line with buffer := line.target }

/-- The word is counted as correct when the buffer is the target, and the next one starts blank. -/
def submit (line : Line) (next : List Char) : Line :=
  let counted := { line.stats with typedWords := line.stats.typedWords + 1 }
  { target := next
    buffer := []
    stats :=
      if line.buffer = line.target then
        { counted with correctWords := counted.correctWords + 1 }
      else { counted with incorrectWords := counted.incorrectWords + 1 } }

end Line

/-- The events of a game: a letter, comma or period, backspace, a completed swipe, the space bar, and
the redrawing of the words by `GameDrawer`. -/
inductive Stroke where
  | letter (c : Char) (key : Key)
  | backspace
  | fill
  | space (env : Env)
  | draw

/-- The abstract machine.  It takes the next target from its environment: `GameShows` says that this
is the word that the game puts under the cursor. -/
inductive LineStep : Line → Stroke → Line → Prop where
  | letter (line : Line) (c : Char) (key : Key) : LineStep line (.letter c key) (line.type c)
  | backspace (line : Line) : LineStep line .backspace line.erase
  | fill (line : Line) : LineStep line .fill line.complete
  | space (line : Line) (env : Env) (next : List Char) :
      LineStep line (.space env) (line.submit next)
  | draw (line : Line) : LineStep line .draw line

/-- The same events as the handlers see them. -/
def typingStep (loaded : LoadedSprites) (s : State) : Stroke → Except Fault State
  | .letter c key => processKey loaded c key s
  | .backspace => handleDeleteKey loaded s
  | .fill => fillCurrentWord loaded s
  | .space env => handleSpaceKey loaded env s
  | .draw => redrawTest loaded s

/-! ### Flags -/

/-- The flag of one letter: 0 before it is typed, 1 when it is right, -1 when it is wrong. -/
def flag (typed : Option Char) (c : Char) : Int :=
  match typed with
  | none => 0
  | some typed => if typed = c then 1 else -1

/-- The letters of the target with the flags of a buffer. -/
def marked (target buffer : List Char) : List Letter :=
  target.mapIdx fun k c => { character := c, status := flag buffer[k]? c }

@[simp] theorem length_marked (target buffer : List Char) :
    (marked target buffer).length = target.length := by
  simp [marked]

theorem getElem?_marked (target buffer : List Char) (k : Nat) :
    (marked target buffer)[k]? =
      (target[k]?).map fun c => { character := c, status := flag buffer[k]? c } := by
  simp [marked]

/-- A letter has flag 1 exactly when the buffer has the right character at its place. -/
theorem marked_status_one {target buffer : List Char} {k : Nat} {letter : Letter}
    (here : (marked target buffer)[k]? = some letter) :
    letter.status = 1 ↔ buffer[k]? = some letter.character := by
  rw [getElem?_marked, Option.map_eq_some_iff] at here
  obtain ⟨c, -, rfl⟩ := here
  cases typed : buffer[k]? with
  | none => simp [flag]
  | some other =>
      by_cases same : other = c
      · simp [flag, same]
      · simp [flag, same]

/-- An untouched word is marked by the empty buffer. -/
theorem marked_untouched {word : Word} (untouched : word.Untouched) :
    word.letters = marked word.chars [] := by
  apply List.ext_getElem?
  intro k
  rw [getElem?_marked, Word.chars, List.getElem?_map]
  cases here : word.letters[k]? with
  | none => rfl
  | some letter =>
      have zero := untouched letter (List.mem_of_getElem? here)
      obtain ⟨character, status⟩ := letter
      change status = 0 at zero
      rw [zero]
      rfl

/-- Typing one more character sets one flag. -/
theorem marked_append {target buffer : List Char} {c : Char} {status : Int}
    (judged : ∀ expected, target[buffer.length]? = some expected → status = flag (some c) expected) :
    marked target (buffer ++ [c]) =
      (marked target buffer).modify buffer.length fun letter => { letter with status := status } := by
  apply List.ext_getElem?
  intro k
  rw [List.getElem?_modify, getElem?_marked, getElem?_marked]
  cases here : target[k]? with
  | none => rfl
  | some expected =>
      rcases Nat.lt_trichotomy k buffer.length with before | rfl | behind
      · have apart : buffer.length ≠ k := by omega
        simp [List.getElem?_append_left before, apart]
      · simp [judged expected here]
      · have apart : buffer.length ≠ k := by omega
        have after : (buffer ++ [c])[k]? = none := by
          rw [List.getElem?_eq_none_iff, List.length_append]
          exact behind
        have before : buffer[k]? = none := by
          rw [List.getElem?_eq_none_iff]
          omega
        simp [after, before, apart]

/-- Dropping the last character clears its flag. -/
theorem marked_dropLast (target : List Char) {buffer : List Char} (some : 0 < buffer.length) :
    marked target buffer.dropLast =
      (marked target buffer).modify (buffer.length - 1) fun letter => { letter with status := 0 } := by
  apply List.ext_getElem?
  intro k
  rw [List.getElem?_modify, getElem?_marked, getElem?_marked, List.getElem?_dropLast]
  cases target[k]? with
  | none => rfl
  | some expected =>
      by_cases last : buffer.length - 1 = k
      · simp [last, flag]
      · by_cases before : k < buffer.length - 1
        · simp [last, before]
        · have gone : buffer[k]? = none := by
            rw [List.getElem?_eq_none_iff]
            omega
          simp [last, before, gone]

/-- Filling a word in sets every flag. -/
theorem marked_self (target : List Char) :
    ∀ buffer, marked target target =
      (marked target buffer).map fun letter => { letter with status := 1 } := by
  intro buffer
  apply List.ext_getElem?
  intro k
  rw [List.getElem?_map, getElem?_marked, getElem?_marked]
  cases target[k]? with
  | none => rfl
  | some expected => simp [flag]

/-- All flags are 1 exactly when the buffer is the target. -/
theorem isCorrect_marked {target buffer : List Char} (fits : buffer.length ≤ target.length)
    {word : Word} (letters : word.letters = marked target buffer) :
    isCorrect word = true ↔ buffer = target := by
  have right : ∀ status : Int, (!(status == -1 || status == 0)) = true ↔
      status ≠ -1 ∧ status ≠ 0 := by
    intro status
    simp
  rw [isCorrect, letters, List.all_eq_true]
  constructor
  · intro correct
    apply List.ext_getElem?
    intro k
    cases here : target[k]? with
    | none =>
        rw [List.getElem?_eq_none_iff] at here ⊢
        omega
    | some c =>
        have found : (marked target buffer)[k]? = some ⟨c, flag buffer[k]? c⟩ := by
          rw [getElem?_marked, here]
          rfl
        obtain ⟨notWrong, notBlank⟩ := (right _).mp (correct _ (List.mem_of_getElem? found))
        cases typed : buffer[k]? with
        | none => simp [typed, flag] at notBlank
        | some other =>
            by_cases same : other = c
            · rw [same]
            · simp [typed, flag, same] at notWrong
  · rintro rfl letter member
    obtain ⟨k, bound, rfl⟩ := List.mem_iff_getElem.mp member
    have found := getElem?_marked buffer buffer k
    rw [List.getElem?_eq_getElem bound] at found
    obtain ⟨c, here, equal⟩ := Option.map_eq_some_iff.mp found.symm
    rw [← equal, here]
    simp [flag]

/-! ### The relation -/

/-- The game shows the line: the current word has the flags of the buffer, the input index is the
length of the buffer, and the statistics agree. -/
structure Typed (line : Line) (game : Game) : Prop where
  word : ∃ word, game.test.words[game.test.currentWordIndex]? = some word ∧
    word.letters = marked line.target line.buffer
  fits : line.buffer.length ≤ line.target.length
  input : game.test.currentInputIndex = line.buffer.length
  stats : game.stats = line.stats

/-- A game is being played and shows the line. -/
def Follows (s : State) (line : Line) : Prop :=
  s.currentState = .game ∧ ∃ testToken statsToken game, s.core.Holds testToken statsToken game ∧
    WellScrolled game.test ∧ Typed line game

/-- The objects of the game show the line: its target is the word under the cursor, the input index
is the length of its buffer, the letters have the flags of the comparison of the two, and the
statistics are the same. -/
structure ObjectsShow (test : TypingTest) (stats : Statistics) (line : Line) : Prop where
  word : ∃ word, test.words[test.currentWordIndex]? = some word ∧ word.chars = line.target ∧
    word.letters = marked line.target line.buffer ∧
    ∀ (k : Nat) (letter : Letter), word.letters[k]? = some letter →
      (letter.status = 1 ↔ line.buffer[k]? = some letter.character)
  fits : line.buffer.length ≤ line.target.length
  input : test.currentInputIndex = line.buffer.length
  stats : stats = line.stats

/-- A game is being played and shows the line. -/
def GameShows (s : State) (line : Line) : Prop :=
  s.currentState = .game ∧ ∃ testToken test statsToken stats,
    s.test = .live testToken test ∧ s.stats = .live statsToken stats ∧ ObjectsShow test stats line

/-- There is a word under the cursor. -/
def HasCurrentWord (s : State) : Prop :=
  ∀ token test, s.test = .live token test → test.currentWordIndex < test.wordCount

instance (s : State) : Decidable (HasCurrentWord s) :=
  decidable_of_iff (s.test.deref.toOption.all fun test => test.currentWordIndex < test.wordCount) <| by
    rw [HasCurrentWord]
    cases s.test with
    | null => exact ⟨nofun, fun _ => rfl⟩
    | freed token => exact ⟨nofun, fun _ => rfl⟩
    | live token test =>
        simp only [Ptr.deref_live, Except.toOption, Option.all_some, decide_eq_true_eq, Ptr.live.injEq]
        exact ⟨fun inside _ _ same => same.2 ▸ inside, fun inside => inside token test ⟨rfl, rfl⟩⟩

/-- Drawing shows the same line. -/
theorem Typed.layout {loaded : LoadedSprites} {line : Line} {test : TypingTest} {stats : Statistics}
    (typed : Typed line { test := test, stats := stats }) :
    Typed line { test := layout loaded test, stats := stats } where
  word := by
    obtain ⟨word, here, letters⟩ := typed.word
    have texts := layout_getElem? loaded test test.currentWordIndex
    rw [here, Option.map_some, Option.map_eq_some_iff] at texts
    obtain ⟨placed, there, text⟩ := texts
    refine ⟨placed, there, ?_⟩
    rw [← letters]
    exact congrArg Prod.fst text
  fits := typed.fits
  input := typed.input
  stats := typed.stats

/-- The test with the line written into the current word. -/
def withLine (line : Line) (test : TypingTest) : TypingTest :=
  { test.modifyWord (fun word => { word with letters := marked line.target line.buffer }) with
    currentInputIndex := line.buffer.length }

/-- Changing a list at a place where two functions agree. -/
theorem modify_congr {α : Type} {list : List α} {i : Nat} {item : α} (here : list[i]? = some item)
    {change other : α → α} (same : change item = other item) :
    list.modify i change = list.modify i other := by
  apply List.ext_getElem?
  intro k
  rw [List.getElem?_modify, List.getElem?_modify]
  by_cases mine : i = k
  · subst mine
    simp [here, same]
  · simp [mine]

/-- A test with a line written in shows it. -/
theorem typed_withLine {line : Line} {test : TypingTest} {word : Word}
    (here : test.words[test.currentWordIndex]? = some word)
    (fits : line.buffer.length ≤ line.target.length) :
    Typed line { test := withLine line test, stats := line.stats } where
  word := by
    refine ⟨{ word with letters := marked line.target line.buffer }, ?_, rfl⟩
    change (test.words.modify test.currentWordIndex _)[test.currentWordIndex]? = _
    rw [List.getElem?_modify_eq, here]
    rfl
  fits := fits
  input := rfl
  stats := rfl

/-- A word that becomes current is blank: it is untouched, or the sentinel. -/
theorem Ready.blank {test : TypingTest} (ready : Ready test) {word : Word}
    (here : test.words[test.currentWordIndex]? = some word) :
    word.letters = marked word.chars [] := by
  by_cases inside : test.currentWordIndex < test.wordCount
  · apply marked_untouched
    exact (ready.waiting word (mem_drop_take here (Nat.le_refl _) inside)).2
  · have empty := ready.sheet.letters_behind here (not_lt.mp inside)
    rw [Word.chars, empty]
    rfl

/-! ### One stroke -/

section Strokes

variable {loaded : LoadedSprites} {line : Line} {game : Game}

theorem Typed.currentWord (typed : Typed line game) :
    ∃ word, game.test.currentWord = .ok word ∧
      game.test.words[game.test.currentWordIndex]? = some word ∧
      word.letters = marked line.target line.buffer ∧ word.length = line.target.length := by
  obtain ⟨word, here, letters⟩ := typed.word
  refine ⟨word, by rw [TypingTest.currentWord, here], here, letters, ?_⟩
  rw [Word.length, letters, length_marked]

/-- Writing letters into the current word. -/
theorem Typed.modifyWord (typed : Typed line game) {next : Line} {change : Word → Word}
    (letters : ∀ word, word.letters = marked line.target line.buffer →
      change word = { word with letters := marked next.target next.buffer }) :
    game.test.modifyWord change =
      game.test.modifyWord fun word => { word with letters := marked next.target next.buffer } := by
  obtain ⟨word, here, shown⟩ := typed.word
  have words := @modify_congr _ _ _ _ here change
    (fun word => { word with letters := marked next.target next.buffer }) (letters word shown)
  rw [TypingTest.modifyWord, TypingTest.modifyWord, words]

/-- The line that a game shows is written into it already. -/
theorem Typed.withLine_self (typed : Typed line game) : withLine line game.test = game.test := by
  have same := @Typed.modifyWord line game typed line id fun word letters => by
    rw [← letters]
    rfl
  rw [withLine, ← same, ← typed.input, TypingTest.modifyWord, List.modify_id]

/-- A letter that fits writes one flag. -/
theorem Typed.typeLetter (typed : Typed line game) (room : line.buffer.length < line.target.length)
    (c : Char) {word : Word} (letters : word.letters = marked line.target line.buffer) :
    typeLetter c word game.test game.stats =
      (withLine (line.type c) game.test, (line.type c).stats) := by
  have input := typed.input
  have character : (word.letters[game.test.currentInputIndex]?).map (·.character) =
      line.target[line.buffer.length]? := by
    rw [letters, input, getElem?_marked, Option.map_map]
    exact Option.map_id'
  -- the flag is the comparison with the expected character
  have writes : ∀ status, (∀ expected, line.target[line.buffer.length]? = some expected →
      status = flag (some c) expected) →
      { game.test.modifyWord (Word.setLetterStatus game.test.currentInputIndex status) with
        currentInputIndex := game.test.currentInputIndex + 1 } = withLine (line.type c) game.test := by
    intro status judged
    have buffer : (line.type c).buffer = line.buffer ++ [c] ∧ (line.type c).target = line.target := by
      rw [Line.type, if_pos room]
      exact ⟨rfl, rfl⟩
    have written := @Typed.modifyWord line game typed (line.type c)
      (Word.setLetterStatus game.test.currentInputIndex status) fun word shown => by
        rw [buffer.1, buffer.2, marked_append judged, ← shown, input]
        rfl
    rw [written, withLine, buffer.1, List.length_append, input]
    rfl
  rw [TypingTutor.typeLetter, character]
  by_cases right : line.target[line.buffer.length]? = some c
  · rw [if_neg (not_not.mpr right), writes 1, typed.stats]
    · rw [Line.type, if_pos room]
      simp only [if_pos right]
    · intro expected there
      rw [right] at there
      cases there
      simp [flag]
  · rw [if_pos right, writes (-1), typed.stats]
    · rw [Line.type, if_pos room]
      simp only [if_neg right]
    · intro expected there
      have wrong : c ≠ expected := by
        rintro rfl
        exact right there
      simp [flag, wrong]

/-- Backspace clears one flag, if there is one. -/
theorem Typed.deleteLetter (typed : Typed line game) :
    deleteLetter game.test = withLine line.erase game.test := by
  have input := typed.input
  by_cases some : game.test.currentInputIndex > 0
  · have positive : 0 < line.buffer.length := by omega
    have written := @Typed.modifyWord line game typed line.erase
      (Word.setLetterStatus (game.test.currentInputIndex - 1) 0) fun word shown => by
        rw [show line.erase.buffer = line.buffer.dropLast from rfl,
          show line.erase.target = line.target from rfl, marked_dropLast line.target positive, ← shown,
          input]
        rfl
    rw [TypingTutor.deleteLetter, if_pos some, written, withLine, input,
      show line.erase.buffer = line.buffer.dropLast from rfl, List.length_dropLast]
  · have empty : line.buffer = [] := List.length_eq_zero_iff.mp (by omega)
    have same : line.erase = line := by
      obtain ⟨target, buffer, stats⟩ := line
      change buffer = [] at empty
      rw [Line.erase, empty]
      rfl
    rw [TypingTutor.deleteLetter, if_neg some, same, typed.withLine_self]

/-- `process_key` types a letter. -/
theorem edit_letter (typed : Typed line game) (c : Char) :
    ∃ edited, edit loaded (.letter c) game = .ok edited ∧ Typed (line.type c) edited := by
  obtain ⟨word, reading, here, letters, length⟩ := typed.currentWord
  have input := typed.input
  simp only [edit, reading]
  by_cases room : line.buffer.length < line.target.length
  · have fits : game.test.currentInputIndex < word.length := by
      rw [input, length]
      exact room
    refine ⟨_, if_pos fits, Typed.layout ?_⟩
    rw [typed.typeLetter room c letters]
    refine typed_withLine here ?_
    rw [Line.type, if_pos room, List.length_append]
    exact room
  · have full : ¬ game.test.currentInputIndex < word.length := by
      rw [input, length]
      exact room
    refine ⟨game, if_neg full, ?_⟩
    rw [Line.type, if_neg room]
    exact typed

/-- `handle_delete_key` drops the last character. -/
theorem edit_backspace (typed : Typed line game) :
    ∃ edited, edit loaded .delete game = .ok edited ∧ Typed line.erase edited := by
  obtain ⟨word, reading, here, -, -⟩ := typed.currentWord
  simp only [edit, reading]
  refine ⟨_, rfl, Typed.layout ?_⟩
  rw [typed.deleteLetter, typed.stats]
  refine typed_withLine here ?_
  have fits := typed.fits
  change line.buffer.dropLast.length ≤ line.target.length
  rw [List.length_dropLast]
  omega

/-- `fill_current_word` completes the word. -/
theorem edit_fill (typed : Typed line game) :
    ∃ edited, edit loaded .fill game = .ok edited ∧ Typed line.complete edited := by
  obtain ⟨word, reading, here, letters, length⟩ := typed.currentWord
  have written := @Typed.modifyWord line game typed line.complete
    (fun word => { word with letters := word.letters.map fun letter => { letter with status := 1 } })
    fun word shown => by
      rw [shown, ← marked_self line.target line.buffer]
      rfl
  simp only [edit, reading]
  refine ⟨_, rfl, Typed.layout ?_⟩
  obtain ⟨filled, fits, -, -⟩ := @typed_withLine line.complete _ _ here (Nat.le_refl _)
  rw [fillWord, written, typed.stats]
  exact ⟨filled, fits, length, rfl⟩

theorem edit_draw (typed : Typed line game) :
    ∃ edited, edit loaded .draw game = .ok edited ∧ Typed line edited :=
  ⟨_, rfl, typed.layout⟩

/-- `handle_space_key` submits the word and goes on with a blank one. -/
theorem edit_space (typed : Typed line game) (scrolled : WellScrolled game.test)
    (inside : game.test.currentWordIndex < game.test.wordCount) (env : Env) :
    ∃ edited next, edit loaded (.space env) game = .ok edited ∧ Typed (line.submit next) edited := by
  obtain ⟨word, reading, here, letters, -⟩ := typed.currentWord
  obtain ⟨status, verdict, judging⟩ := judgeWord_eq word game.test game.stats
  have judged := scrolled.judge inside verdict
  have ready := judged.advance env
  have within : WithinArray (advanceWord env (game.test.modifyWord fun word =>
      { word with status := status })) := by
    apply withinArray_advanceWord env _ judged.inside
    rw [judged.sheet.size, judged.sheet.count]
  obtain ⟨next, there, -⟩ := within.input
  have counted : (judgeWord word game.test game.stats).2 = (line.submit next.chars).stats := by
    have correct := isCorrect_marked typed.fits letters
    rw [judgeWord, Line.submit, typed.stats]
    by_cases right : line.buffer = line.target
    · rw [if_pos (correct.mpr right)]
      simp only [if_pos right]
    · rw [if_neg (fun both => right (correct.mp both))]
      simp only [if_neg right]
  have blank : (advanceWord env (game.test.modifyWord fun word =>
      { word with status := status })).currentInputIndex = 0 := by
    rw [advanceWord]
  simp only [edit, reading]
  refine ⟨_, next.chars, rfl, Typed.layout ?_⟩
  rw [judging, counted]
  exact ⟨⟨next, there, ready.blank there⟩, Nat.zero_le _, blank, rfl⟩

end Strokes

/-! ### The refinement -/

section Refinement

variable {loaded : LoadedSprites}

/-- An edit that is applied to a game. -/
theorem follows_of_applies (letters : LettersLoaded loaded) {core : Core} {line : Line}
    {testToken statsToken : Nat} {game edited : Game} {change : Edit}
    {outcome : Except Fault State} (playing : core.currentState = .game)
    (scrolled : WellScrolled game.test) (done : edit loaded change game = .ok edited)
    (typed : Typed line edited)
    (applied : Applies core testToken statsToken (edit loaded change game) outcome) :
    ∃ next, outcome = .ok next ∧ Follows next line := by
  rcases applies_iff.mp applied with ⟨result, next, returned, rfl, after⟩ | ⟨fault, failed, -⟩
  · rw [done] at returned
    cases returned
    refine ⟨next, rfl, ?_, testToken, statsToken, edited, ?_, edit_wellScrolled letters scrolled done,
      typed⟩
    · exact (congrArg Core.currentState after).trans playing
    · rw [after]
      exact ⟨rfl, rfl⟩
  · rw [done] at failed
    cases failed

/-- Every handler follows the abstract machine by one step. -/
theorem typingStep_follows (letters : LettersLoaded loaded) (s : State) (line : Line)
    (stroke : Stroke) (follows : Follows s line) (current : HasCurrentWord s) :
    ∃ next lineNext, typingStep loaded s stroke = .ok next ∧ LineStep line stroke lineNext ∧
      Follows next lineNext := by
  obtain ⟨playing, testToken, statsToken, game, holds, scrolled, typed⟩ := follows
  cases stroke with
  | letter c key =>
      obtain ⟨edited, done, typedNext⟩ := @edit_letter loaded line game typed c
      obtain ⟨next, stepped, followsNext⟩ := follows_of_applies letters playing scrolled done typedNext
        (processKey_applies c key playing holds)
      exact ⟨next, _, stepped, .letter line c key, followsNext⟩
  | backspace =>
      obtain ⟨edited, done, typedNext⟩ := @edit_backspace loaded line game typed
      obtain ⟨next, stepped, followsNext⟩ := follows_of_applies letters playing scrolled done typedNext
        (handleDeleteKey_applies holds)
      exact ⟨next, _, stepped, .backspace line, followsNext⟩
  | fill =>
      obtain ⟨edited, done, typedNext⟩ := @edit_fill loaded line game typed
      obtain ⟨next, stepped, followsNext⟩ := follows_of_applies letters playing scrolled done typedNext
        (fillCurrentWord_applies holds)
      exact ⟨next, _, stepped, .fill line, followsNext⟩
  | space env =>
      have inside := current testToken game.test holds.test
      obtain ⟨edited, target, done, typedNext⟩ :=
        @edit_space loaded line game typed scrolled inside env
      obtain ⟨next, stepped, followsNext⟩ := follows_of_applies letters playing scrolled done typedNext
        (handleSpaceKey_applies env holds)
      exact ⟨next, _, stepped, .space line env target, followsNext⟩
  | draw =>
      obtain ⟨edited, done, typedNext⟩ := @edit_draw loaded line game typed
      obtain ⟨next, stepped, followsNext⟩ := follows_of_applies letters playing scrolled done typedNext
        (redrawTest_applies holds)
      exact ⟨next, _, stepped, .draw line, followsNext⟩

/-- A new game shows a blank line. -/
theorem start_follows {env : Env} {caller : Caller} {s start : State}
    (started : setGameState env caller .game s = .ok start) :
    Follows start
      { target := poolWord (env.rand 0 % 100), buffer := [], stats := initializeStats s.timer } := by
  rw [setGameState_game] at started
  cases started
  have first : (freshTest env).words[0]? =
      some (newWord (poolWord (env.rand 0 % 100)) (env.junk 0)) := by
    simp [freshTest]
  refine ⟨rfl, s.nextToken, s.nextToken + 1,
    { test := freshTest env, stats := initializeStats s.timer }, ⟨rfl, rfl⟩,
    freshTest_wellScrolled env, ⟨⟨_, first, ?_⟩, Nat.zero_le _, rfl, rfl⟩⟩
  have blank := marked_untouched (newWord_untouched (poolWord (env.rand 0 % 100)) (env.junk 0))
  rw [newWord_chars] at blank
  exact blank

end Refinement

/-- What is written under the flags of a buffer. -/
theorem map_character_marked (target buffer : List Char) :
    (marked target buffer).map (·.character) = target := by
  apply List.ext_getElem?
  intro k
  rw [List.getElem?_map, getElem?_marked]
  cases target[k]? with
  | none => rfl
  | some c => rfl

theorem Follows.shows {s : State} {line : Line} (follows : Follows s line) : GameShows s line := by
  obtain ⟨playing, testToken, statsToken, game, holds, -, typed⟩ := follows
  obtain ⟨word, here, letters⟩ := typed.word
  refine ⟨playing, testToken, game.test, statsToken, game.stats, holds.test, holds.stats,
    ⟨word, here, ?_, letters, ?_⟩, typed.fits, typed.input, typed.stats⟩
  · rw [Word.chars, letters, map_character_marked]
  · intro k letter found
    rw [letters] at found
    exact marked_status_one found

/-- From the start of any game, any sequence of strokes that finds a word under the cursor each time
runs without a fault and is followed by the line editor, stroke by stroke.  After every stroke the game
shows the line that the editor has reached: its target is the word under the cursor, the input index is
the length of its buffer, the statistics are those of the editor, and the flags of the current word are
the comparison of buffer and target; flag 1 stands exactly where the buffer has the right character. -/
theorem scoring_refines_line_editor (loaded : LoadedSprites) (letters : LettersLoaded loaded)
    (env : Env) (caller : Caller) (s start : State)
    (started : setGameState env caller .game s = .ok start) (strokes : List Stroke)
    (current : Along (typingStep loaded) (fun s _ => HasCurrentWord s) start strokes) :
    ∃ lines : ℕ → Line,
      lines 0 =
        { target := poolWord (env.rand 0 % 100), buffer := [], stats := initializeStats s.timer } ∧
      (∀ k stroke, strokes[k]? = some stroke → LineStep (lines k) stroke (lines (k + 1))) ∧
      ∀ k ≤ strokes.length, ∃ reached,
        (strokes.take k).foldlM (typingStep loaded) start = .ok reached ∧
          GameShows reached (lines k) := by
  obtain ⟨lines, first, steps, follows⟩ :=
    simulation_trace (fun state abstract event => typingStep_follows letters state abstract event)
      (start_follows started) current
  refine ⟨lines, first, steps, fun k bound => ?_⟩
  obtain ⟨reached, ran, followed⟩ := follows k bound
  exact ⟨reached, ran, followed.shows⟩

/-- The words of the pool in order: `THIS`, `IS`, `A` and so on. -/
def inOrder : Env := { (default : Env) with rand := id }

/-- `THIS` with a wrong letter that is mended, half of `IS`, `A` filled in by a swipe, and a wrong
letter of the fourth word. -/
def threeWords : List Stroke :=
  [.letter 'T' .t, .letter 'X' .x, .backspace, .letter 'H' .h, .letter 'I' .i, .letter 'S' .s,
    .letter 'S' .s, .space inOrder, .letter 'I' .i, .draw, .space inOrder, .fill, .space inOrder,
    .letter 'S' .s]

/-- The state with the third word submitted and one letter of the fourth typed. -/
def threeWordsTyped (s : State) : Bool :=
  (s.test.deref.toOption.any fun test =>
    (test.words[test.currentWordIndex]?.any fun word => word.chars == poolWord 3) &&
      test.currentInputIndex == 1) &&
    s.stats.deref.toOption.any fun stats => stats.typedWords == 3 && stats.correctWords == 2

/-- Two of the three words are right. -/
theorem three_words_follow_line_editor :
    LettersLoaded everySprite ∧
      ∃ start,
        setGameState inOrder .checkActions .game { setup [] with timer := 15 } = .ok start ∧
        Along (typingStep everySprite) (fun s _ => HasCurrentWord s) start threeWords ∧
        ∃ lines : ℕ → Line,
          lines 0 = { target := poolWord 0, buffer := [], stats := initializeStats 15 } ∧
          (∀ k stroke, threeWords[k]? = some stroke → LineStep (lines k) stroke (lines (k + 1))) ∧
          (∀ k ≤ 14, ∃ reached,
            (threeWords.take k).foldlM (typingStep everySprite) start = .ok reached ∧
              GameShows reached (lines k)) ∧
          (lines 14).target = poolWord 3 ∧ (lines 14).buffer.length = 1 ∧
          (lines 14).stats.typedWords = 3 ∧ (lines 14).stats.correctWords = 2 := by
  have checked : (setGameState inOrder .checkActions .game { setup [] with timer := 15 }).toOption.any
      (fun start =>
        decide (Along (typingStep everySprite) (fun s _ => HasCurrentWord s) start threeWords) &&
          (threeWords.foldlM (typingStep everySprite) start).toOption.any threeWordsTyped) = true := by
    decide +kernel
  obtain ⟨start, begun, shown⟩ := exists_ok_of_any checked
  obtain ⟨onWords, typed⟩ := Bool.and_eq_true_iff.mp shown
  have current := of_decide_eq_true onWords
  obtain ⟨lines, first, moves, shows⟩ := scoring_refines_line_editor everySprite
    lettersLoaded_everySprite inOrder .checkActions _ start begun threeWords current
  refine ⟨lettersLoaded_everySprite, start, begun, current, lines, first, moves, shows, ?_⟩
  obtain ⟨finish, ran, check⟩ := exists_ok_of_any typed
  obtain ⟨reached, same, -, testToken, test, statsToken, stats, hasTest, hasStats, seen⟩ :=
    shows 14 (Nat.le_refl 14)
  obtain rfl : finish = reached := Except.ok.inj (ran.symm.trans same)
  obtain ⟨word, here, chars, -, -⟩ := seen.word
  rw [threeWordsTyped, hasTest, hasStats] at check
  simp only [Ptr.deref, Except.toOption, Option.any_some, here, Bool.and_eq_true, beq_iff_eq] at check
  obtain ⟨⟨target, input⟩, words, correct⟩ := check
  exact ⟨chars.symm.trans target, seen.input.symm.trans input, seen.stats ▸ words,
    seen.stats ▸ correct⟩

end TypingTutor
