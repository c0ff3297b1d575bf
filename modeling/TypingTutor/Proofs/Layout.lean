/-
Module: TypingTutor.Proofs.Layout
Layer: Proofs
Purpose: What `drawWords` does to the test.  Positions and lines do not depend on what is on the
  screen, so the drawing loop comes down to a function on words; it never touches letters, statuses or
  the elements past `wordCount`, and with all letter sprites loaded it is greedy line filling.
Trusted boundary: none
Main exports: placeWords, layout, drawWords_fst, layout_text, LettersLoaded, Ruled, ruled_layout,
  SameTexts, SameTexts.layout_eq
-/
import TypingTutor.Core.View
import TypingTutor.Lib.LineBreaking

namespace TypingTutor

open LineBreaking

/-! ### The inner loop -/

/-- The letter has a loaded sprite. -/
def hasGlyph (loaded : LoadedSprites) (letter : Letter) : Bool :=
  (keySpriteMap loaded (charToKey letter.character)).isSome

/-- The mark in front of a letter. -/
def markLetter (caretAt : Option Nat) (j : Nat) (view : View) : View :=
  if caretAt = some j then drawCaret view.xOffset (view.yOffset + 24) (deleteCaret view) else view

/-- A caret only draws. -/
theorem markLetter_offsets (caretAt : Option Nat) (j : Nat) (view : View) :
    (markLetter caretAt j view).xOffset = view.xOffset ∧
      (markLetter caretAt j view).yOffset = view.yOffset := by
  rw [markLetter]
  split
  · exact ⟨rfl, rfl⟩
  · exact ⟨rfl, rfl⟩

/-- The sprite of a letter on the layer, and the offset behind it. -/
def putLetter (name : SpriteName) (word : Word) (letter : Letter) (view : View) : View :=
  { view with
    xOffset := view.xOffset + 16
    secondaryFrameBufferNoMouse :=
      .sprite name view.xOffset view.yOffset (some (letterColor word letter)) ::
        view.secondaryFrameBufferNoMouse }

/-- One round of the inner loop: a letter without a sprite ends it, any other is drawn. -/
theorem drawLetters_round (loaded : LoadedSprites) (word : Word) (caretAt : Option Nat)
    (letter : Letter) (rest : List Letter) (j : Nat) (view : View) :
    (hasGlyph loaded letter = false ∧
      drawLetters loaded word caretAt j (letter :: rest) view = (markLetter caretAt j view, true)) ∨
    (hasGlyph loaded letter = true ∧ ∃ name,
      drawLetters loaded word caretAt j (letter :: rest) view =
        drawLetters loaded word caretAt (j + 1) rest
          (putLetter name word letter (markLetter caretAt j view))) := by
  rw [drawLetters, markLetter, hasGlyph]
  cases keySpriteMap loaded (charToKey letter.character) with
  | none => exact .inl ⟨rfl, rfl⟩
  | some name => exact .inr ⟨rfl, name, rfl⟩

/-- Drawing a word stops early exactly when one of its letters has no sprite; otherwise it moves the
offset behind the word. -/
theorem drawLetters_spec (loaded : LoadedSprites) (word : Word) (caretAt : Option Nat)
    (letters : List Letter) :
    ∀ (j : Nat) (view : View),
      (drawLetters loaded word caretAt j letters view).2 = !letters.all (hasGlyph loaded) ∧
        (letters.all (hasGlyph loaded) = true →
          (drawLetters loaded word caretAt j letters view).1.xOffset =
              view.xOffset + letters.length * 16 ∧
            (drawLetters loaded word caretAt j letters view).1.yOffset = view.yOffset) := by
  induction letters with
  | nil =>
      intro j view
      simp [drawLetters]
  | cons letter rest inductionHypothesis =>
      intro j view
      rcases drawLetters_round loaded word caretAt letter rest j view with
        ⟨missing, round⟩ | ⟨present, name, round⟩
      · rw [round, List.all_cons, missing, Bool.false_and]
        exact ⟨rfl, fun impossible => by cases impossible⟩
      · rw [round, List.all_cons, present, Bool.true_and]
        obtain ⟨failed, moved⟩ := inductionHypothesis (j + 1)
          (putLetter name word letter (markLetter caretAt j view))
        have offsets := markLetter_offsets caretAt j view
        refine ⟨failed, ?_⟩
        intro allLoaded
        obtain ⟨right, same⟩ := moved allLoaded
        refine ⟨?_, same.trans offsets.2⟩
        rw [right, putLetter, offsets.1, List.length_cons]
        push_cast
        ring

/-! ### The outer loop as a function on words -/

/-- The letters of word `i`, drawn at its place. -/
def drawWord (loaded : LoadedSprites) (test : TypingTest) (i : Nat) (line : Int) (word : Word)
    (view : View) : View × Bool :=
  drawLetters loaded { word with x := view.xOffset, y := view.yOffset, line := line }
    (if i = test.currentWordIndex then some test.currentInputIndex else none) 0 word.letters view

theorem drawWord_spec (loaded : LoadedSprites) (test : TypingTest) (i : Nat) (line : Int) (word : Word)
    (view : View) :
    (drawWord loaded test i line word view).2 = !word.letters.all (hasGlyph loaded) ∧
      (word.letters.all (hasGlyph loaded) = true →
        (drawWord loaded test i line word view).1.xOffset = view.xOffset + wordLengthInPixels word ∧
          (drawWord loaded test i line word view).1.yOffset = view.yOffset) :=
  drawLetters_spec loaded _ _ word.letters 0 view

/-- Where the next word goes: behind the letters drawn, or on a new line when it does not fit there. -/
def lineBreak (nextWord : Word) (line : Int) (view : View) : Int × View :=
  if view.xOffset + wordLengthInPixels nextWord > xResolution - xMargin - 1 then
    (line + 1, { view with xOffset := xMargin, yOffset := view.yOffset + 64 })
  else (line, { view with xOffset := view.xOffset + 16 })

/-- One round of the outer loop: the word is drawn, and the loop ends with it or goes on behind it. -/
theorem drawWordsLoop_round (loaded : LoadedSprites) (test : TypingTest) {i : Nat} (line : Int)
    (word : Word) (rest : List Word) (view : View) (inside : i < test.wordCount) :
    (((drawWord loaded test i line word view).2 = true ∨ i + 1 = test.wordCount ∨ rest = []) ∧
      drawWordsLoop loaded test i line (word :: rest) view =
        ({ word with x := view.xOffset, y := view.yOffset, line := line } :: rest,
          (drawWord loaded test i line word view).1,
          if (drawWord loaded test i line word view).2 then none else some line)) ∨
    ((drawWord loaded test i line word view).2 = false ∧ i + 1 ≠ test.wordCount ∧
      ∃ next others line' view', rest = next :: others ∧
        (line', view') = lineBreak next line (drawWord loaded test i line word view).1 ∧
        drawWordsLoop loaded test i line (word :: rest) view =
          ({ word with x := view.xOffset, y := view.yOffset, line := line } ::
              (drawWordsLoop loaded test (i + 1) line' rest view').1,
            (drawWordsLoop loaded test (i + 1) line' rest view').2)) := by
  unfold drawWord
  rw [drawWordsLoop, if_pos inside]
  dsimp only
  generalize drawLetters loaded _ _ 0 word.letters view = drawn
  by_cases failed : drawn.2 = true
  · left
    rw [if_pos failed, if_pos failed]
    exact ⟨.inl failed, rfl⟩
  · rw [if_neg failed]
    by_cases last : i + 1 = test.wordCount
    · left
      rw [if_pos last, if_neg failed]
      exact ⟨.inr (.inl last), rfl⟩
    · rw [if_neg last]
      cases rest with
      | nil =>
          left
          rw [if_neg failed]
          exact ⟨.inr (.inr rfl), rfl⟩
      | cons next others =>
          right
          refine ⟨Bool.not_eq_true _ ▸ failed, last, next, others, (lineBreak next line drawn.1).1,
            (lineBreak next line drawn.1).2, rfl, rfl, ?_⟩
          dsimp only
          rw [lineBreak]
          split_ifs
          · rfl
          · rfl

/-- Positions and lines of the next `remaining` words, without the drawing.  The second component is
the line of the last word, or `none` after an early return. -/
def placeWords (loaded : LoadedSprites) :
    Nat → Int → Int → Int → List Word → List Word × Option Int
  | 0, line, _, _, words => (words, some line)
  | _ + 1, line, _, _, [] => ([], some line)
  | _ + 1, line, x, y, [word] =>
      ([{ word with x := x, y := y, line := line }],
        if word.letters.all (hasGlyph loaded) then some line else none)
  | remaining + 1, line, x, y, word :: next :: rest =>
      if word.letters.all (hasGlyph loaded) = false then
        ({ word with x := x, y := y, line := line } :: next :: rest, none)
      else if remaining = 0 then
        ({ word with x := x, y := y, line := line } :: next :: rest, some line)
      else if x + wordLengthInPixels word + wordLengthInPixels next >
          xResolution - xMargin - 1 then
        let tail := placeWords loaded remaining (line + 1) xMargin (y + 64) (next :: rest)
        ({ word with x := x, y := y, line := line } :: tail.1, tail.2)
      else
        let tail := placeWords loaded remaining line (x + wordLengthInPixels word + 16) y
          (next :: rest)
        ({ word with x := x, y := y, line := line } :: tail.1, tail.2)

theorem drawWordsLoop_eq (loaded : LoadedSprites) (test : TypingTest) (words : List Word) :
    ∀ (i : Nat) (line : Int) (view : View),
      ((drawWordsLoop loaded test i line words view).1,
        (drawWordsLoop loaded test i line words view).2.2) =
      placeWords loaded (test.wordCount - i) line view.xOffset view.yOffset words := by
  induction words with
  | nil =>
      intro i line view
      cases remaining : test.wordCount - i with
      | zero => rfl
      | succ remaining => rfl
  | cons word rest inductionHypothesis =>
      intro i line view
      by_cases inside : i < test.wordCount
      · obtain ⟨remaining, left⟩ : ∃ remaining, test.wordCount - i = remaining + 1 :=
          ⟨test.wordCount - i - 1, by omega⟩
        have leftAfter : test.wordCount - (i + 1) = remaining := by omega
        rw [left]
        obtain ⟨failed, moved⟩ := drawWord_spec loaded test i line word view
        rcases drawWordsLoop_round loaded test line word rest view inside with
          ⟨ends, round⟩ | ⟨shown, more, next, others, line', view', rfl, goes, round⟩
        · rw [round, failed]
          rw [failed] at ends
          cases rest with
          | nil =>
              rw [placeWords]
              cases word.letters.all (hasGlyph loaded) with
              | false => rfl
              | true => rfl
          | cons next others =>
              rw [placeWords]
              cases glyphs : word.letters.all (hasGlyph loaded) with
              | false => rfl
              | true =>
                  have none : remaining = 0 := by
                    simp only [glyphs, Bool.not_true, Bool.false_eq_true, false_or, reduceCtorEq,
                      or_false] at ends
                    omega
                  simp [none]
        · rw [shown, Bool.false_eq, Bool.not_eq_false'] at failed
          obtain ⟨right, same⟩ := moved failed
          have some : remaining ≠ 0 := by omega
          have tail := inductionHypothesis (i + 1) line' view'
          rw [leftAfter] at tail
          rw [round, placeWords, failed, if_neg Bool.true_eq_false_eq_False, if_neg some, ← right,
            ← same]
          rw [lineBreak] at goes
          split_ifs at goes ⊢
          all_goals
            cases goes
            rw [← tail]
      · have none : test.wordCount - i = 0 := by omega
        simp [drawWordsLoop, placeWords, inside, none]

/-- What `drawWords` makes of the test. -/
def layout (loaded : LoadedSprites) (test : TypingTest) : TypingTest :=
  { test with
    words := (placeWords loaded test.wordCount 0 xMargin yMargin test.words).1
    numberOfLines :=
      (placeWords loaded test.wordCount 0 xMargin yMargin test.words).2.getD test.numberOfLines }

/-- The test after drawing does not depend on what was on the screen. -/
theorem drawWords_fst (loaded : LoadedSprites) (test : TypingTest) (view : View) :
    (drawWords loaded test view).1 = layout loaded test := by
  have loop := drawWordsLoop_eq loaded test test.words 0 0 (resetOffset view)
  rw [Nat.sub_zero] at loop
  have offsets : (resetOffset view).xOffset = xMargin ∧ (resetOffset view).yOffset = yMargin :=
    ⟨rfl, rfl⟩
  rw [offsets.1, offsets.2] at loop
  simp only [drawWords, layout, ← loop]

/-! ### What the layout keeps -/

/-- Letters and status of a word, without its place on the screen. -/
def Word.text (word : Word) : List Letter × Int := (word.letters, word.status)

theorem placeWords_text (loaded : LoadedSprites) (remaining : Nat) (line x y : Int)
    (words : List Word) :
    (placeWords loaded remaining line x y words).1.map Word.text = words.map Word.text := by
  fun_induction placeWords loaded remaining line x y words with
  | case1 => rfl
  | case2 => rfl
  | case3 => rfl
  | case4 => rfl
  | case5 => rfl
  | case6 _ line x y word next rest _ _ _ tail inductionHypothesis =>
      exact congrArg (List.cons word.text) inductionHypothesis
  | case7 _ line x y word next rest _ _ _ tail inductionHypothesis =>
      exact congrArg (List.cons word.text) inductionHypothesis

/-- Elements behind the words to draw are not touched. -/
theorem placeWords_drop (loaded : LoadedSprites) (remaining : Nat) (line x y : Int)
    (words : List Word) :
    (placeWords loaded remaining line x y words).1.drop remaining = words.drop remaining := by
  fun_induction placeWords loaded remaining line x y words with
  | case1 => rfl
  | case2 => rfl
  | case3 => rfl
  | case4 => rfl
  | case5 => rfl
  | case6 _ line x y word next rest _ _ _ tail inductionHypothesis => exact inductionHypothesis
  | case7 _ line x y word next rest _ _ _ tail inductionHypothesis => exact inductionHypothesis

section Kept

variable (loaded : LoadedSprites) (test : TypingTest)

@[simp] theorem layout_wordCount : (layout loaded test).wordCount = test.wordCount := rfl

@[simp] theorem layout_currentInputIndex :
    (layout loaded test).currentInputIndex = test.currentInputIndex := rfl

@[simp] theorem layout_text : (layout loaded test).words.map Word.text = test.words.map Word.text :=
  placeWords_text loaded _ _ _ _ test.words

@[simp] theorem length_layout_words : (layout loaded test).words.length = test.words.length := by
  rw [← List.length_map, layout_text, List.length_map]

theorem layout_drop :
    (layout loaded test).words.drop test.wordCount = test.words.drop test.wordCount :=
  placeWords_drop loaded _ _ _ _ test.words

/-- Every word keeps its letters and its status. -/
theorem layout_getElem? (i : Nat) :
    ((layout loaded test).words[i]?).map Word.text = (test.words[i]?).map Word.text := by
  rw [← List.getElem?_map, ← List.getElem?_map, layout_text]

end Kept

/-! ### Line filling -/

/-- All letter sprites are loaded. -/
def LettersLoaded (loaded : LoadedSprites) : Prop :=
  ∀ c, 'A' ≤ c → c ≤ 'Z' → loaded (.glyph (charToKey c)) = true

/-- The text area of the game screen. -/
def gamePage : Page := { left := xMargin, limit := xResolution - xMargin - 1, gap := 16 }

/-- A word at its place. -/
def Word.placeAt (word : Word) (station : Int × Int) : Word :=
  { word with x := station.2, y := yMargin + 64 * station.1, line := station.1 }

/-- With every letter drawable, placing words is greedy line filling. -/
theorem placeWords_eq_place (loaded : LoadedSprites) (remaining : Nat) (line x y : Int)
    (words : List Word) (row : y = yMargin + 64 * line) (some : 0 < remaining)
    (fits : remaining ≤ words.length)
    (drawable : ∀ word ∈ words.take remaining, word.letters.all (hasGlyph loaded) = true) :
    placeWords loaded remaining line x y words =
      (List.zipWith Word.placeAt (words.take remaining)
          (place gamePage line x ((words.take remaining).map wordLengthInPixels)) ++
        words.drop remaining,
      (lines gamePage line x ((words.take remaining).map wordLengthInPixels)).getLast?) := by
  fun_induction placeWords loaded remaining line x y words with
  | case1 => omega
  | case2 => simp at fits
  | case3 remaining line x y word =>
      subst row
      have here := drawable word (by simp)
      simp [here, place, lines, Word.placeAt]
  | case4 remaining line x y word next rest undrawable =>
      rw [drawable word (by simp)] at undrawable
      cases undrawable
  | case5 line x y word next rest =>
      subst row
      rfl
  | case6 remaining line x y word next rest _ more full tail inductionHypothesis =>
      subst row
      obtain ⟨count, rfl⟩ : ∃ count, remaining = count + 1 := ⟨remaining - 1, by omega⟩
      have broken : x + wordLengthInPixels word + wordLengthInPixels next > gamePage.limit := full
      have placed := inductionHypothesis (by ring) (by omega) (Nat.le_of_succ_le_succ fits)
        fun other member => drawable other (List.mem_cons_of_mem _ member)
      simp only [tail, placed, List.take_succ_cons, List.map_cons, place,
        getLast?_lines_cons_cons, if_pos broken, List.zipWith_cons_cons, List.cons_append,
        List.drop_succ_cons]
      rfl
  | case7 remaining line x y word next rest _ more roomy tail inductionHypothesis =>
      subst row
      obtain ⟨count, rfl⟩ : ∃ count, remaining = count + 1 := ⟨remaining - 1, by omega⟩
      have fitting : ¬ x + wordLengthInPixels word + wordLengthInPixels next > gamePage.limit := roomy
      have placed := inductionHypothesis rfl (by omega) (Nat.le_of_succ_le_succ fits)
        fun other member => drawable other (List.mem_cons_of_mem _ member)
      simp only [tail, placed, List.take_succ_cons, List.map_cons, place,
        getLast?_lines_cons_cons, if_neg fitting, List.zipWith_cons_cons, List.cons_append,
        List.drop_succ_cons]
      rfl

/-- The widths of the words of a test. -/
def widths (test : TypingTest) : List Int :=
  (test.words.take test.wordCount).map wordLengthInPixels

/-- The line numbers of a test that has been laid out. -/
def lineNumbers (test : TypingTest) : List Int := lines gamePage 0 xMargin (widths test)

/-- The line fields are those of the layout. -/
def Ruled (test : TypingTest) : Prop :=
  (test.words.take test.wordCount).map (·.line) = lineNumbers test ∧
    (lineNumbers test).getLast? = some test.numberOfLines

/-- Line numbers depend on the lengths of the words only. -/
theorem lineNumbers_congr {first second : TypingTest} (count : first.wordCount = second.wordCount)
    (lengths : first.words.map Word.length = second.words.map Word.length) :
    lineNumbers first = lineNumbers second := by
  have widthsEq : ∀ test : TypingTest, widths test =
      ((test.words.map Word.length).take test.wordCount).map fun length : Nat =>
        (length : Int) * 16 := by
    intro test
    rw [widths, ← List.map_take, List.map_map]
    rfl
  rw [lineNumbers, lineNumbers, widthsEq, widthsEq, count, lengths]

/-- Drawing does not change where the lines break. -/
theorem lineNumbers_layout (loaded : LoadedSprites) (test : TypingTest) :
    lineNumbers (layout loaded test) = lineNumbers test := by
  refine lineNumbers_congr (layout_wordCount loaded test) ?_
  have texts := congrArg (List.map fun text => text.1.length) (layout_text loaded test)
  rwa [List.map_map, List.map_map] at texts

/-- Every word of the array can be drawn. -/
def Drawable (loaded : LoadedSprites) (test : TypingTest) : Prop :=
  ∀ word ∈ test.words.take test.wordCount, word.letters.all (hasGlyph loaded) = true

/-- Drawing rules the lines. -/
theorem ruled_layout {loaded : LoadedSprites} {test : TypingTest} (some : 0 < test.wordCount)
    (fits : test.wordCount ≤ test.words.length) (drawable : Drawable loaded test) :
    Ruled (layout loaded test) := by
  have placed := placeWords_eq_place loaded test.wordCount 0 xMargin yMargin test.words
    (by ring) some fits drawable
  have numbers := lineNumbers_layout loaded test
  have counted : (test.words.take test.wordCount).length = test.wordCount := by
    rw [List.length_take]
    omega
  have sized : (place gamePage 0 xMargin
      ((test.words.take test.wordCount).map wordLengthInPixels)).length = test.wordCount := by
    rw [length_place, List.length_map, counted]
  constructor
  · rw [numbers, layout_wordCount, layout, placed]
    rw [List.take_left' (by rw [List.length_zipWith, counted, sized, Nat.min_self])]
    apply List.ext_getElem
    · rw [List.length_map, List.length_zipWith, counted, sized, Nat.min_self, lineNumbers,
        length_lines, widths, List.length_map, counted]
    · intro i _ _
      simp [Word.placeAt, lineNumbers, widths, lines]
  · rw [numbers, layout, placed]
    obtain ⟨number, others, shape⟩ := List.exists_cons_of_length_pos
      (by rw [lineNumbers, length_lines, widths, List.length_map, counted]; exact some :
        0 < (lineNumbers test).length)
    change (lineNumbers test).getLast? = .some ((lineNumbers test).getLast?.getD _)
    rw [shape, List.getLast?_eq_some_getLast (List.cons_ne_nil number others)]
    rfl

/-! ### Places are forgotten -/

/-- Two tests that differ only in the places of the words that are drawn. -/
structure SameTexts (first second : TypingTest) : Prop where
  texts : first.words.map Word.text = second.words.map Word.text
  behind : first.words.drop first.wordCount = second.words.drop second.wordCount
  rest : first = { second with words := first.words, numberOfLines := first.numberOfLines }

theorem SameTexts.symm {first second : TypingTest} (same : SameTexts first second) :
    SameTexts second first := by
  refine ⟨same.texts.symm, same.behind.symm, ?_⟩
  rw [same.rest]

theorem SameTexts.trans {first second third : TypingTest} (one : SameTexts first second)
    (two : SameTexts second third) : SameTexts first third := by
  refine ⟨one.texts.trans two.texts, one.behind.trans two.behind, ?_⟩
  rw [one.rest, two.rest]

theorem sameTexts_layout (loaded : LoadedSprites) (test : TypingTest) :
    SameTexts (layout loaded test) test :=
  ⟨layout_text loaded test, layout_drop loaded test, rfl⟩

/-- A word at a place is made of its text only. -/
theorem zipWith_placeAt (words : List Word) (stations : List (Int × Int)) :
    List.zipWith Word.placeAt words stations =
      List.zipWith (fun text station => Word.placeAt ⟨text.1, text.2, 0, 0, 0⟩ station)
        (words.map Word.text) stations := by
  rw [List.zipWith_map_left]
  rfl

section Forgotten

variable {loaded : LoadedSprites} {first second : TypingTest}

theorem SameTexts.widths (same : SameTexts first second) : widths first = widths second := by
  have widthsEq : ∀ test : TypingTest, TypingTutor.widths test =
      ((test.words.map Word.text).take test.wordCount).map fun text => (text.1.length : Int) * 16 := by
    intro test
    rw [TypingTutor.widths, ← List.map_take, List.map_map]
    rfl
  rw [widthsEq, widthsEq, same.texts, same.rest]

theorem SameTexts.drawable (same : SameTexts first second) (drawable : Drawable loaded second) :
    Drawable loaded first := by
  intro word member
  have text : word.text ∈ (first.words.map Word.text).take first.wordCount := by
    rw [← List.map_take]
    exact List.mem_map_of_mem member
  rw [same.texts, same.rest, ← List.map_take, List.mem_map] at text
  obtain ⟨other, found, equal⟩ := text
  rw [show word.letters = other.letters from (congrArg Prod.fst equal).symm]
  exact drawable other found

/-- Drawing puts every word at its place, wherever it was before. -/
theorem SameTexts.layout_eq (same : SameTexts first second) (some : 0 < second.wordCount)
    (fits : second.wordCount ≤ second.words.length) (drawable : Drawable loaded second) :
    layout loaded first = layout loaded second := by
  have count : first.wordCount = second.wordCount := by rw [same.rest]
  have size : first.words.length = second.words.length := by
    rw [← List.length_map Word.text, same.texts, List.length_map]
  have placed : placeWords loaded first.wordCount 0 xMargin yMargin first.words =
      placeWords loaded second.wordCount 0 xMargin yMargin second.words := by
    have widths := same.widths
    rw [TypingTutor.widths, TypingTutor.widths] at widths
    have texts : (first.words.take first.wordCount).map Word.text =
        (second.words.take second.wordCount).map Word.text := by
      rw [List.map_take, List.map_take, same.texts, count]
    rw [placeWords_eq_place loaded first.wordCount 0 xMargin yMargin first.words (by ring)
        (by omega) (by omega) (same.drawable drawable),
      placeWords_eq_place loaded second.wordCount 0 xMargin yMargin second.words (by ring) some fits
        drawable, zipWith_placeAt, zipWith_placeAt, widths, same.behind, texts]
  have words : (layout loaded first).words = (layout loaded second).words := congrArg Prod.fst placed
  have lines : (layout loaded first).numberOfLines = (layout loaded second).numberOfLines := by
    have one := (@ruled_layout loaded first (by omega) (by omega) (same.drawable drawable)).2
    have two := (ruled_layout some fits drawable).2
    rw [lineNumbers_layout, lineNumbers] at one two
    rw [same.widths, two] at one
    exact (Option.some.inj one).symm
  have rest := ((sameTexts_layout loaded first).trans same).rest
  rw [rest, words, lines]
  rfl

end Forgotten

end TypingTutor
