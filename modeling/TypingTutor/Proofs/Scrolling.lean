/-
Module: TypingTutor.Proofs.Scrolling
Layer: Proofs
Purpose: The sheet of words and its scroll.  `shift_words_up` keeps the words of the penultimate line,
  then those of the last line, and fills up with new words.  The invariant of a sheet is stated here
  and shown to survive drawing and the edits of the current word.
Trusted boundary: none
Main exports: retained, carried, shiftWordsUp_eq, Sheet, Window, NotLast, WellScrolled, EditedInPlace,
  wellScrolled_layout, WellScrolled.inPlace
-/
import TypingTutor.Lib.Compaction
import TypingTutor.Proofs.WordCursor

namespace TypingTutor

open Runs Compaction LineBreaking

/-! ### What `shift_words_up` leaves behind -/

/-- The word is on the penultimate line. -/
def onPenultimateLine (test : TypingTest) (word : Word) : Bool := word.line == test.numberOfLines - 1

/-- The word is on the last line. -/
def onLastLine (test : TypingTest) (word : Word) : Bool := word.line == test.numberOfLines

/-- The words that become the first line; the copying loop does not look at the last word. -/
def retained (test : TypingTest) : List Word :=
  (test.words.take (test.wordCount - 1)).filter (onPenultimateLine test)

/-- The words that come behind them. -/
def carried (test : TypingTest) : List Word :=
  (test.words.take (test.wordCount - 1)).filter (onLastLine test)

/-- The word that `load_new_word` puts at an index. -/
def drawnWord (env : Env) (index : Nat) : Word :=
  newWord (poolWord (env.rand index % 80)) (env.junk index)

/-- The words that fill up the array after a scroll. -/
def newWords (env : Env) (test : TypingTest) : List Word :=
  (List.range' ((retained test).length + (carried test).length)
    (test.wordCount - ((retained test).length + (carried test).length))).map (drawnWord env)

def ShiftState.pack (shift : ShiftState) : Pack Word :=
  { items := shift.words
    firsts := shift.penultimateLineIndex
    seconds := shift.lastLineIndex }

/-- The copying loop packs two classes of words to the front. -/
theorem shiftStep_pack (test : TypingTest) (shift : ShiftState) (i : Nat) :
    packStep (onPenultimateLine test) (onLastLine test) sentinelWord shift.pack i =
      (shiftStep test.numberOfLines shift i).pack := by
  have penultimate : ∀ words : List Word, Option.any (onPenultimateLine test) words[i]? =
      onLine words i (test.numberOfLines - 1) := fun _ => rfl
  have last : ∀ words : List Word, Option.any (onLastLine test) words[i]? =
      onLine words i test.numberOfLines := fun _ => rfl
  have items : shift.pack.items = shift.words := rfl
  simp only [packStep, shiftStep, penultimate, last]
  by_cases first : onLine shift.words i (test.numberOfLines - 1) = true
  · simp only [items, if_pos first]
    change (if onLine (copyWord shift.words shift.penultimateLineIndex i) i test.numberOfLines then
      _ else _) = _
    split
    · rfl
    · rfl
  · simp only [items, if_neg first]
    split
    · rfl
    · rfl

theorem shiftLoop_pack (test : TypingTest) :
    (shiftLoop test).pack =
      (List.range (test.wordCount - 1)).foldl
        (packStep (onPenultimateLine test) (onLastLine test) sentinelWord) ⟨test.words, 0, 0⟩ := by
  rw [shiftLoop]
  exact (List.foldl_hom ShiftState.pack (shiftStep_pack test)).symm

/-- Loading new words writes to a range of the array. -/
theorem foldl_loadNewWord (env : Env) (indices : List Nat) (test : TypingTest) :
    indices.foldl (loadNewWord env) test =
      { test with
        words := indices.foldl (fun words i => words.set i (drawnWord env i)) test.words } := by
  induction indices generalizing test with
  | nil => rfl
  | cons i indices inductionHypothesis => exact inductionHypothesis (loadNewWord env test i)

section Shift

variable {test : TypingTest} (size : test.words.length = test.wordCount + 1)
  (ordered : (test.words.take (test.wordCount - 1)).Pairwise fun earlier later =>
    onLastLine test earlier = true → onPenultimateLine test later = false)

include size ordered

/-- In an array whose penultimate line comes before its last line, the loop leaves the words of both at
the front. -/
theorem shiftLoop_packed :
    Packed (onPenultimateLine test) (onLastLine test) test.words (test.wordCount - 1)
      (shiftLoop test).pack := by
  have disjoint : ∀ word, onPenultimateLine test word = true → onLastLine test word = false := by
    intro word penultimate
    simp only [onPenultimateLine, onLastLine, beq_iff_eq, beq_eq_false_iff_ne] at *
    omega
  rw [shiftLoop_pack]
  exact pack_spec disjoint (by omega) ordered

theorem length_retained_carried :
    (retained test).length + (carried test).length ≤ test.wordCount := by
  have packed := shiftLoop_packed size ordered
  have firsts : (shiftLoop test).pack.firsts = (retained test).length := packed.firsts
  have seconds : (shiftLoop test).pack.seconds = (carried test).length := packed.seconds
  rw [← firsts, ← seconds]
  exact packed.fits.trans (Nat.sub_le _ 1)

/-- The scroll keeps the words of both lines and replaces all others; the element behind the words
stays. -/
theorem shiftWordsUp_eq (env : Env) :
    shiftWordsUp env test =
      { test with
        words := retained test ++ carried test ++ newWords env test ++
          test.words.drop test.wordCount } := by
  have packed := shiftLoop_packed size ordered
  have bound := length_retained_carried size ordered
  have firsts : (shiftLoop test).penultimateLineIndex = (retained test).length := packed.firsts
  have seconds : (shiftLoop test).lastLineIndex = (carried test).length := packed.seconds
  have front : (shiftLoop test).words.take ((retained test).length + (carried test).length) =
      retained test ++ carried test := by
    rw [← firsts, ← seconds]
    exact packed.front
  have rest : (shiftLoop test).words.drop test.wordCount = test.words.drop test.wordCount := by
    have behind := congrArg (List.drop (test.wordCount - (test.wordCount - 1))) packed.rest
    have total : test.wordCount - 1 + (test.wordCount - (test.wordCount - 1)) = test.wordCount := by
      omega
    rw [List.drop_drop, List.drop_drop, total] at behind
    exact behind
  have length : (shiftLoop test).words.length = test.words.length := by
    have behind := congrArg List.length rest
    rw [List.length_drop, List.length_drop] at behind
    omega
  have total : (retained test).length + (carried test).length +
      (test.wordCount - ((retained test).length + (carried test).length)) = test.wordCount := by
    omega
  rw [shiftWordsUp, foldl_loadNewWord]
  simp only [firsts, seconds]
  rw [foldl_set_range' _ _ _ _ (by omega), front, total, rest]
  rfl

/-- The scroll keeps the number of words. -/
theorem length_scrolled (env : Env) :
    (retained test ++ carried test ++ newWords env test).length = test.wordCount := by
  have bound := length_retained_carried size ordered
  rw [List.length_append, List.length_append, newWords, List.length_map, List.length_range']
  omega

end Shift

/-! ### The sheet of words -/

/-- The characters of a word of the pool. -/
def FromPool (word : Word) : Prop :=
  word.chars ≠ [] ∧ ∀ c ∈ word.chars, 'A' ≤ c ∧ c ≤ 'Z'

/-- Forty words of the pool, and the sentinel without letters and on no line. -/
structure Sheet (test : TypingTest) : Prop where
  count : test.wordCount = 40
  size : test.words.length = 41
  pool : ∀ word ∈ test.words.take 40, FromPool word
  sentinel : ∀ word ∈ test.words.drop 40, word.chars = [] ∧ word.line = -1

/-- The words before the cursor are judged, the others are not, and those behind the cursor are
untouched. -/
structure Window (test : TypingTest) : Prop where
  judged : ∀ word ∈ test.words.take test.currentWordIndex, word.status = 1 ∨ word.status = -1
  waiting : ∀ word ∈ (test.words.take test.wordCount).drop test.currentWordIndex, word.status = 0
  untouched : ∀ word ∈ (test.words.take test.wordCount).drop (test.currentWordIndex + 1),
    word.Untouched

/-- On a sheet of three lines or more the current word is not on the last line. -/
def NotLast (test : TypingTest) : Prop :=
  ∀ last here, (lineNumbers test).getLast? = some last →
    (lineNumbers test)[test.currentWordIndex]? = some here → 2 ≤ last → here ≤ last - 1

/-- Nothing has been drawn or typed in this game. -/
def Undrawn (test : TypingTest) : Prop :=
  test.numberOfLines = -1 ∧ test.currentWordIndex = 0

/-- The invariant of the typing test in a game. -/
structure WellScrolled (test : TypingTest) : Prop where
  sheet : Sheet test
  phase : Undrawn test ∨ Ruled test
  window : test.currentWordIndex < test.wordCount → Window test
  notLast : test.currentWordIndex < test.wordCount → NotLast test

/-- Behind the words there is only the sentinel. -/
theorem Sheet.letters_behind {test : TypingTest} (sheet : Sheet test) {i : Nat} {word : Word}
    (here : test.words[i]? = some word) (behind : test.wordCount ≤ i) : word.letters = [] := by
  have member : word ∈ test.words.drop 40 := by
    obtain ⟨bound, rfl⟩ := List.getElem?_eq_some_iff.mp here
    have count := sheet.count
    apply List.mem_drop_iff_getElem.mpr
    exact ⟨i - 40, by omega, by congr 1; omega⟩
  exact List.map_eq_nil_iff.mp (sheet.sentinel word member).1

/-- The words are not empty. -/
theorem Sheet.length_pos {test : TypingTest} (sheet : Sheet test) {i : Nat} {word : Word}
    (here : test.words[i]? = some word) (inside : i < test.wordCount) : 0 < word.length := by
  have member : word ∈ test.words.take 40 := by
    obtain ⟨bound, rfl⟩ := List.getElem?_eq_some_iff.mp here
    have count := sheet.count
    apply List.mem_take_iff_getElem.mpr
    exact ⟨i, by omega, rfl⟩
  have letters := (sheet.pool word member).1
  rw [Word.chars, ne_eq, List.map_eq_nil_iff] at letters
  exact List.length_pos_iff.mpr letters

theorem newWord_chars (characters : List Char) (junk : Int × Int × Int) :
    (newWord characters junk).chars = characters := by
  rw [Word.chars, newWord, List.map_map]
  exact List.map_id characters

theorem newWord_untouched (characters : List Char) (junk : Int × Int × Int) :
    (newWord characters junk).Untouched := by
  intro letter member
  obtain ⟨c, -, rfl⟩ := List.mem_map.mp member
  rfl

theorem newWord_fromPool {index : Nat} (inside : index < poolSize) (junk : Int × Int × Int) :
    FromPool (newWord (poolWord index) junk) := by
  have bound : index < wordPool.length := by
    rw [wordPool_length]
    exact inside
  have member : wordPool[index] ∈ wordPool := List.getElem_mem bound
  have chars : poolWord index = wordPool[index].toList := by
    rw [poolWord, List.getD_eq_getElem?_getD, List.getElem?_eq_getElem bound]
    rfl
  rw [FromPool, newWord_chars, chars]
  refine ⟨?_, wordPool_capitals _ member⟩
  have long := (wordPool_lengths _ member).1
  intro empty
  rw [empty] at long
  simp at long

/-- The first word is on line zero. -/
theorem lineNumbers_zero {test : TypingTest} {here : Int}
    (first : (lineNumbers test)[0]? = some here) : here = 0 := by
  rw [← List.head?_eq_getElem?, lineNumbers] at first
  cases shape : widths test with
  | nil =>
      rw [shape] at first
      cases first
  | cons width rest =>
      rw [shape, head_lines] at first
      exact (Option.some.inj first).symm

/-- The second word is on line zero or one. -/
theorem lineNumbers_one {test : TypingTest} {here : Int}
    (second : (lineNumbers test)[1]? = some here) : here ≤ 1 := by
  have inside := (List.getElem?_eq_some_iff.mp second).1
  have first : (lineNumbers test)[0]? = some (lineNumbers test)[0] :=
    List.getElem?_eq_getElem (Nat.lt_of_succ_lt inside)
  have zero := lineNumbers_zero first
  rcases lines_step first second with same | next
  · omega
  · omega

theorem freshTest_wellScrolled (env : Env) : WellScrolled (freshTest env) := by
  have words : (freshTest env).words.take 40 =
      (List.range 40).map fun i => newWord (poolWord (env.rand i % 100)) (env.junk i) := by
    rw [freshTest]
    exact List.take_left' (by simp)
  have fresh : ∀ word ∈ (freshTest env).words.take 40,
      FromPool word ∧ word.status = 0 ∧ word.Untouched := by
    intro word member
    rw [words] at member
    obtain ⟨i, -, rfl⟩ := List.mem_map.mp member
    refine ⟨newWord_fromPool ?_ _, rfl, newWord_untouched _ _⟩
    exact (Nat.mod_lt _ (by decide)).trans_le (by decide)
  refine ⟨⟨rfl, by simp [freshTest], fun word member => (fresh word member).1, ?_⟩, .inl ⟨rfl, rfl⟩,
    ?_, ?_⟩
  · intro word member
    have behind : (freshTest env).words.drop 40 = [sentinelWord] := by
      rw [freshTest]
      exact List.drop_left' (by simp)
    rw [behind, List.mem_singleton] at member
    rw [member]
    exact ⟨rfl, rfl⟩
  · intro _
    refine ⟨?_, ?_, ?_⟩
    · intro word member
      cases member
    · intro word member
      exact (fresh word (List.mem_of_mem_drop member)).2.1
    · intro word member
      exact (fresh word (List.mem_of_mem_drop member)).2.2
  · intro _ last here _ first _
    have zero := lineNumbers_zero first
    omega

/-! ### Drawing -/

section Drawing

variable {loaded : LoadedSprites}

/-- Capital letters have glyphs. -/
theorem keySpriteMap_capital (letters : LettersLoaded loaded) {c : Char} (low : 'A' ≤ c)
    (high : c ≤ 'Z') : keySpriteMap loaded (charToKey c) = some (.glyph (charToKey c)) := by
  have glyph := letters c low high
  have plain : ∀ k < 26, Key.ofIndex (k + 2) ≠ .noneKey ∧ Key.ofIndex (k + 2) ≠ .enter ∧
      Key.ofIndex (k + 2) ≠ .back ∧ Key.ofIndex (k + 2) ≠ .esc := by decide
  have key : charToKey c = Key.ofIndex (c.toNat - 'A'.toNat + 2) := if_pos ⟨low, high⟩
  have near : c.toNat - 'A'.toNat < 26 := by
    have above : 'A'.toNat ≤ c.toNat := low
    have below : c.toNat ≤ 'Z'.toNat := high
    have span : 'Z'.toNat = 'A'.toNat + 25 := by decide
    omega
  obtain ⟨notNone, notEnter, notBack, notEsc⟩ := plain _ near
  rw [← key] at notNone notEnter notBack notEsc
  unfold keySpriteMap
  split
  · contradiction
  · contradiction
  · contradiction
  · contradiction
  · rw [if_pos glyph]

theorem Sheet.drawable {test : TypingTest} (letters : LettersLoaded loaded) (sheet : Sheet test) :
    Drawable loaded test := by
  intro word member
  rw [sheet.count] at member
  have pool := (sheet.pool word member).2
  rw [List.all_eq_true]
  intro letter found
  obtain ⟨low, high⟩ := pool letter.character (List.mem_map_of_mem found)
  rw [hasGlyph, keySpriteMap_capital letters low high]
  rfl

theorem Sheet.layout {test : TypingTest} (sheet : Sheet test) : Sheet (layout loaded test) where
  count := sheet.count
  size := by
    rw [length_layout_words]
    exact sheet.size
  pool := by
    have chars : ((TypingTutor.layout loaded test).words.take 40).map Word.chars =
        (test.words.take 40).map Word.chars := by
      have text := congrArg (List.map fun text => text.1.map Letter.character)
        (layout_text loaded test)
      rw [List.map_map, List.map_map] at text
      rw [List.map_take, List.map_take]
      exact congrArg (List.take 40) text
    exact @forall_mem_of_map_eq _ _ Word.chars
      (fun chars => chars ≠ [] ∧ ∀ c ∈ chars, 'A' ≤ c ∧ c ≤ 'Z') _ _ chars sheet.pool
  sentinel := by
    have kept := layout_drop loaded test
    rw [sheet.count] at kept
    rw [kept]
    exact sheet.sentinel

theorem Window.layout {test : TypingTest} (window : Window test) :
    Window (layout loaded test) where
  judged := by
    have text : ((TypingTutor.layout loaded test).words.take test.currentWordIndex).map Word.text =
        (test.words.take test.currentWordIndex).map Word.text := by
      rw [List.map_take, List.map_take, layout_text]
    exact @forall_mem_of_map_eq _ _ Word.text (fun text => text.2 = 1 ∨ text.2 = -1) _ _ text
      window.judged
  waiting := by
    have text : (((TypingTutor.layout loaded test).words.take test.wordCount).drop
        test.currentWordIndex).map Word.text =
          ((test.words.take test.wordCount).drop test.currentWordIndex).map Word.text := by
      rw [List.map_drop, List.map_drop, List.map_take, List.map_take, layout_text]
    exact @forall_mem_of_map_eq _ _ Word.text (fun text => text.2 = 0) _ _ text window.waiting
  untouched := by
    have text : (((TypingTutor.layout loaded test).words.take test.wordCount).drop
        (test.currentWordIndex + 1)).map Word.text =
          ((test.words.take test.wordCount).drop (test.currentWordIndex + 1)).map Word.text := by
      rw [List.map_drop, List.map_drop, List.map_take, List.map_take, layout_text]
    exact @forall_mem_of_map_eq _ _ Word.text
      (fun text => ∀ letter ∈ text.1, letter.status = 0) _ _ text window.untouched

/-- Drawing completes an edit. -/
theorem wellScrolled_layout {test : TypingTest} (letters : LettersLoaded loaded) (sheet : Sheet test)
    (window : test.currentWordIndex < test.wordCount → Window test)
    (notLast : test.currentWordIndex < test.wordCount → NotLast test) :
    WellScrolled (layout loaded test) where
  sheet := sheet.layout
  phase := by
    right
    apply ruled_layout _ _ (sheet.drawable letters)
    · rw [sheet.count]
      decide
    · rw [sheet.count, sheet.size]
      decide
  window := fun inside => (window inside).layout
  notLast := by
    intro inside
    rw [NotLast, lineNumbers_layout]
    exact notLast inside

end Drawing

/-! ### Edits of the current word -/

/-- What an edit of the letters leaves alone. -/
def Word.outline (word : Word) : List Char × Int × Int := (word.chars, word.status, word.line)

/-- The test is the same but for statuses of letters in the current word. -/
structure EditedInPlace (test next : TypingTest) : Prop where
  outlines : next.words.map Word.outline = test.words.map Word.outline
  behind : next.words.drop (test.currentWordIndex + 1) = test.words.drop (test.currentWordIndex + 1)
  count : next.wordCount = test.wordCount
  cursor : next.currentWordIndex = test.currentWordIndex

theorem editedInPlace_modify {test next : TypingTest} {change : Word → Word}
    (words : next.words = test.words.modify test.currentWordIndex change)
    (keeps : ∀ word, (change word).outline = word.outline)
    (count : next.wordCount = test.wordCount)
    (cursor : next.currentWordIndex = test.currentWordIndex) : EditedInPlace test next where
  outlines := by
    rw [words]
    exact map_modify_of_keeps keeps test.words test.currentWordIndex
  behind := by
    rw [words]
    exact List.drop_modify_of_lt _ _ _ _ (Nat.lt_succ_self _)
  count := count
  cursor := cursor

theorem setLetterStatus_outline (k : Nat) (status : Int) (word : Word) :
    (Word.setLetterStatus k status word).outline = word.outline := by
  have chars : (word.letters.modify k fun letter => { letter with status := status }).map
      Letter.character = word.letters.map Letter.character := by
    apply map_modify_of_keeps
    intro letter
    rfl
  rw [Word.outline, Word.outline, Word.chars, Word.setLetterStatus]
  exact congrArg (fun chars => (chars, word.status, word.line)) chars

theorem typeLetter_inPlace (c : Char) (word : Word) (test : TypingTest) (stats : Statistics) :
    EditedInPlace test (typeLetter c word test stats).1 := by
  rw [typeLetter]
  split
  · exact editedInPlace_modify rfl (setLetterStatus_outline _ _) rfl rfl
  · exact editedInPlace_modify rfl (setLetterStatus_outline _ _) rfl rfl

theorem deleteLetter_inPlace (test : TypingTest) : EditedInPlace test (deleteLetter test) := by
  rw [deleteLetter]
  split
  · exact editedInPlace_modify rfl (setLetterStatus_outline _ _) rfl rfl
  · exact ⟨rfl, rfl, rfl, rfl⟩

theorem fillWord_inPlace (word : Word) (test : TypingTest) :
    EditedInPlace test (fillWord word test) := by
  refine editedInPlace_modify rfl ?_ rfl rfl
  intro word
  rw [Word.outline, Word.outline, Word.chars, Word.chars, List.map_map]
  rfl

section InPlace

variable {test next : TypingTest}

theorem Sheet.inPlace (sheet : Sheet test) (edited : EditedInPlace test next) : Sheet next where
  count := edited.count.trans sheet.count
  size := by
    have lengths := congrArg List.length edited.outlines
    rw [List.length_map, List.length_map] at lengths
    exact lengths.trans sheet.size
  pool := by
    have outlines : (next.words.take 40).map Word.outline = (test.words.take 40).map Word.outline := by
      rw [List.map_take, List.map_take, edited.outlines]
    exact @forall_mem_of_map_eq _ _ Word.outline
      (fun outline => outline.1 ≠ [] ∧ ∀ c ∈ outline.1, 'A' ≤ c ∧ c ≤ 'Z') _ _ outlines sheet.pool
  sentinel := by
    have outlines : (next.words.drop 40).map Word.outline = (test.words.drop 40).map Word.outline := by
      rw [List.map_drop, List.map_drop, edited.outlines]
    exact @forall_mem_of_map_eq _ _ Word.outline (fun outline => outline.1 = [] ∧ outline.2.2 = -1)
      _ _ outlines sheet.sentinel

theorem Window.inPlace (window : Window test) (edited : EditedInPlace test next) : Window next where
  judged := by
    rw [edited.cursor]
    have outlines : (next.words.take test.currentWordIndex).map Word.outline =
        (test.words.take test.currentWordIndex).map Word.outline := by
      rw [List.map_take, List.map_take, edited.outlines]
    exact @forall_mem_of_map_eq _ _ Word.outline (fun outline => outline.2.1 = 1 ∨ outline.2.1 = -1) _ _
      outlines window.judged
  waiting := by
    rw [edited.cursor, edited.count]
    have outlines : ((next.words.take test.wordCount).drop test.currentWordIndex).map Word.outline =
        ((test.words.take test.wordCount).drop test.currentWordIndex).map Word.outline := by
      rw [List.map_drop, List.map_drop, List.map_take, List.map_take, edited.outlines]
    exact @forall_mem_of_map_eq _ _ Word.outline (fun outline => outline.2.1 = 0) _ _ outlines
      window.waiting
  untouched := by
    rw [edited.cursor, edited.count, List.drop_take, edited.behind, ← List.drop_take]
    exact window.untouched

theorem NotLast.inPlace (notLast : NotLast test) (edited : EditedInPlace test next) :
    NotLast next := by
  have numbers : lineNumbers next = lineNumbers test := by
    apply lineNumbers_congr edited.count
    have lengths := congrArg (List.map fun outline => outline.1.length) edited.outlines
    rw [List.map_map, List.map_map] at lengths
    have length : ((fun outline : List Char × Int × Int => outline.1.length) ∘ Word.outline) =
        Word.length := by
      funext word
      exact List.length_map _
    rwa [length] at lengths
  rw [NotLast, numbers, edited.cursor]
  exact notLast

/-- An edit of the current word, drawn. -/
theorem WellScrolled.inPlace {loaded : LoadedSprites} (letters : LettersLoaded loaded)
    (scrolled : WellScrolled test) (edited : EditedInPlace test next) :
    WellScrolled (layout loaded next) := by
  have inside : next.currentWordIndex < next.wordCount → test.currentWordIndex < test.wordCount := by
    rw [edited.cursor, edited.count]
    exact id
  apply wellScrolled_layout letters (scrolled.sheet.inPlace edited)
  · intro there
    exact (scrolled.window (inside there)).inPlace edited
  · intro there
    exact (scrolled.notLast (inside there)).inPlace edited

end InPlace

end TypingTutor
