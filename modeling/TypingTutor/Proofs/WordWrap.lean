/-
Module: TypingTutor.Proofs.WordWrap
Layer: Proofs
Purpose: `drawWords` is greedy word wrap.  The text area is a page of 47 cells of 16 pixels, and the
  words go where the reference algorithm on cells puts them, so every word lies in the area and no two
  letters share a cell.
Trusted boundary: none
Main exports: cells, drawWords_places, drawnWords_eq, drawWords_wraps
-/
import TypingTutor.Core.Typing
import TypingTutor.Proofs.Layout

namespace TypingTutor

open LineBreaking

/-- The cells of a line of text. -/
def textColumns : Nat := 47

/-- Line and first cell of every word by the reference algorithm, which reads the lengths of the words
only. -/
def cells (test : TypingTest) : List (Nat × Nat) :=
  wrap textColumns 0 0 ((test.words.take test.wordCount).map Word.length)

/-- The words of the test after `drawWords`. -/
def drawnWords (loaded : LoadedSprites) (test : TypingTest) (view : View) : List Word :=
  (drawWords loaded test view).1.words.take test.wordCount

/-- A word at a cell of the text area. -/
def Word.atCell (word : Word) (cell : Nat × Nat) : Word :=
  { word with x := 200 + 16 * cell.2, y := 200 + 64 * cell.1, line := cell.1 }

/-- Where letter `index` of a word is drawn. -/
def Word.letterAt (word : Word) (index : Nat) : Int × Int := (word.x + 16 * index, word.y)

/-! ### The letters on the screen -/

/-- Where sprites have been drawn, oldest first. -/
def spritePlaces (strokes : List DrawOp) : List (Int × Int) :=
  strokes.reverse.filterMap fun
    | .sprite _ x y _ => some (x, y)
    | .rectangle .. => none

/-- Where the letters of a word are drawn. -/
def Word.letterPlaces (word : Word) : List (Int × Int) := (List.range word.length).map word.letterAt

section Places

variable {loaded : LoadedSprites}

@[simp] theorem spritePlaces_sprite (name : SpriteName) (x y : Int) (color : Option UInt32)
    (strokes : List DrawOp) :
    spritePlaces (.sprite name x y color :: strokes) = spritePlaces strokes ++ [(x, y)] := by
  rw [spritePlaces, List.reverse_cons, List.filterMap_append]
  rfl

@[simp] theorem spritePlaces_rectangle (x y width height : Int) (color : UInt32)
    (strokes : List DrawOp) :
    spritePlaces (.rectangle x y width height color :: strokes) = spritePlaces strokes := by
  rw [spritePlaces, List.reverse_cons, List.filterMap_append]
  exact List.append_nil _

/-- A caret is no sprite. -/
theorem markLetter_places (caretAt : Option Nat) (j : Nat) (view : View) :
    spritePlaces (markLetter caretAt j view).secondaryFrameBufferNoMouse =
      spritePlaces view.secondaryFrameBufferNoMouse := by
  rw [markLetter]
  split
  · exact (spritePlaces_rectangle ..).trans (spritePlaces_rectangle ..)
  · rfl

/-- The letters go side by side. -/
theorem drawLetters_places (word : Word) (caretAt : Option Nat) (letters : List Letter) (j : Nat)
    (view : View) (drawable : letters.all (hasGlyph loaded) = true) :
    spritePlaces (drawLetters loaded word caretAt j letters view).1.secondaryFrameBufferNoMouse =
      spritePlaces view.secondaryFrameBufferNoMouse ++
        (List.range letters.length).map fun k : Nat => (view.xOffset + 16 * k, view.yOffset) := by
  induction letters generalizing j view with
  | nil => exact (List.append_nil _).symm
  | cons letter rest inductionHypothesis =>
      rw [List.all_cons, Bool.and_eq_true] at drawable
      rcases drawLetters_round loaded word caretAt letter rest j view with
        ⟨missing, -⟩ | ⟨-, name, round⟩
      · rw [missing] at drawable
        cases drawable.1
      · have offsets := markLetter_offsets caretAt j view
        rw [round, inductionHypothesis (j + 1) _ drawable.2, putLetter, spritePlaces_sprite,
          markLetter_places, List.length_cons, List.range_succ_eq_map, List.map_cons, List.map_map,
          List.append_assoc, offsets.1, offsets.2, Nat.cast_zero, mul_zero, add_zero]
        refine congrArg _ (congrArg _ (List.map_congr_left fun k _ => ?_))
        rw [Function.comp_apply, Nat.cast_succ, Prod.mk.injEq]
        exact ⟨by ring, rfl⟩

theorem drawWordsLoop_places (test : TypingTest) (words : List Word) (i : Nat) (line : Int)
    (view : View) (inside : i < test.wordCount) (fits : test.wordCount - i ≤ words.length)
    (drawable : ∀ word ∈ words.take (test.wordCount - i), word.letters.all (hasGlyph loaded) = true) :
    spritePlaces (drawWordsLoop loaded test i line words view).2.1.secondaryFrameBufferNoMouse =
      spritePlaces view.secondaryFrameBufferNoMouse ++
        ((drawWordsLoop loaded test i line words view).1.take (test.wordCount - i)).flatMap
          Word.letterPlaces := by
  obtain ⟨left, remaining⟩ : ∃ left, test.wordCount - i = left + 1 := ⟨test.wordCount - i - 1, by omega⟩
  induction words generalizing i line view left with
  | nil => exact absurd fits (by rw [List.length_nil]; omega)
  | cons word rest inductionHypothesis =>
      rw [remaining, List.take_succ_cons, List.forall_mem_cons] at drawable
      rw [remaining, List.length_cons] at fits
      have placed : spritePlaces (drawWord loaded test i line word view).1.secondaryFrameBufferNoMouse =
          spritePlaces view.secondaryFrameBufferNoMouse ++
            Word.letterPlaces { word with x := view.xOffset, y := view.yOffset, line := line } :=
        drawLetters_places _ _ word.letters 0 view drawable.1
      obtain ⟨failed, -⟩ := drawWord_spec loaded test i line word view
      rw [drawable.1] at failed
      rw [remaining]
      rcases drawWordsLoop_round loaded test line word rest view inside with
        ⟨ends, round⟩ | ⟨-, more, next, others, line', view', same, goes, round⟩
      · have last : left = 0 := by
          rcases ends with broken | whole | rfl
          · rw [failed] at broken
            cases broken
          · omega
          · rw [List.length_nil] at fits
            omega
        rw [round, placed, last, List.take_succ_cons, List.take_zero, List.flatMap_singleton]
      · obtain ⟨less, leftAfter⟩ : ∃ less, left = less + 1 := ⟨left - 1, by omega⟩
        have after : test.wordCount - (i + 1) = left := by omega
        have tail := inductionHypothesis (i + 1) line' view' (by omega) (by omega)
          (by rw [after]; exact drawable.2) less (by omega)
        rw [after] at tail
        have kept : view'.secondaryFrameBufferNoMouse =
            (drawWord loaded test i line word view).1.secondaryFrameBufferNoMouse := by
          rw [lineBreak] at goes
          split_ifs at goes
          all_goals
            cases goes
            rfl
        rw [round, List.take_succ_cons, List.flatMap_cons, tail, kept, placed, List.append_assoc]

end Places

/-- `drawWords` draws the letters of the drawn words, in their order, each at its own place. -/
theorem drawWords_places {loaded : LoadedSprites} {test : TypingTest} (view : View)
    (some : 0 < test.wordCount) (fits : test.wordCount ≤ test.words.length)
    (drawable : Drawable loaded test) :
    spritePlaces (drawWords loaded test view).2.secondaryFrameBufferNoMouse =
      spritePlaces view.secondaryFrameBufferNoMouse ++
        (drawnWords loaded test view).flatMap Word.letterPlaces :=
  drawWordsLoop_places test test.words 0 0 (resetOffset view) some fits drawable

/-! ### The layout -/

theorem gamePage_eq : gamePage = cellPage xMargin 16 textColumns := rfl

section Wrapped

variable {loaded : LoadedSprites} {test : TypingTest} {view : View}

theorem length_cells (fits : test.wordCount ≤ test.words.length) :
    (cells test).length = test.wordCount := by
  rw [cells, length_wrap, List.length_map, List.length_take]
  omega

/-- The pixels of the layout are those of the cells. -/
theorem place_widths (test : TypingTest) :
    place gamePage 0 xMargin ((test.words.take test.wordCount).map wordLengthInPixels) =
      (cells test).map fun cell : Nat × Nat => ((cell.1 : Int), xMargin + 16 * (cell.2 : Int)) := by
  have scaled : (test.words.take test.wordCount).map wordLengthInPixels =
      ((test.words.take test.wordCount).map Word.length).map fun length : Nat =>
        (length : Int) * 16 := by
    rw [List.map_map]
    rfl
  have placed := @place_cellPage textColumns xMargin 16 (by decide) 0 0
    ((test.words.take test.wordCount).map Word.length)
  rw [scaled, gamePage_eq]
  exact placed

/-- `drawWords` puts every word at its cell and changes nothing else of it. -/
theorem drawnWords_eq (some : 0 < test.wordCount) (fits : test.wordCount ≤ test.words.length)
    (drawable : Drawable loaded test) :
    drawnWords loaded test view =
      List.zipWith Word.atCell (test.words.take test.wordCount) (cells test) := by
  have placed := placeWords_eq_place loaded test.wordCount 0 xMargin yMargin test.words rfl some
    fits drawable
  have counted : (test.words.take test.wordCount).length = test.wordCount := by
    rw [List.length_take]
    omega
  rw [drawnWords, drawWords_fst, layout, placed, place_widths, List.take_left', List.zipWith_map_right]
  · rfl
  · rw [List.length_zipWith, List.length_map, length_cells fits, counted, Nat.min_self]

/-- `number_of_lines` is the line of the last word. -/
theorem drawWords_numberOfLines (some : 0 < test.wordCount)
    (fits : test.wordCount ≤ test.words.length) (drawable : Drawable loaded test) :
    ∃ last, (cells test).getLast? = .some last ∧
      (drawWords loaded test view).1.numberOfLines = last.1 := by
  have placed := placeWords_eq_place loaded test.wordCount 0 xMargin yMargin test.words rfl some
    fits drawable
  obtain ⟨first, others, shape⟩ := List.exists_cons_of_length_pos
    (by rw [length_cells fits]; exact some : 0 < (cells test).length)
  have last := List.getLast?_eq_some_getLast (by rw [shape]; simp : cells test ≠ [])
  refine ⟨_, last, ?_⟩
  rw [drawWords_fst, layout, placed, lines, place_widths, List.map_map, List.getLast?_map, last]
  rfl

/-- A drawn word and its cell. -/
theorem drawnWords_getElem? (some : 0 < test.wordCount) (fits : test.wordCount ≤ test.words.length)
    (drawable : Drawable loaded test) {i : Nat} {word : Word}
    (drawn : (drawnWords loaded test view)[i]? = .some word) :
    ∃ cell, ((cells test).zip ((test.words.take test.wordCount).map Word.length))[i]? =
        .some (cell, word.length) ∧
      word.x = 200 + 16 * cell.2 ∧ word.y = 200 + 64 * cell.1 ∧ word.line = cell.1 := by
  rw [drawnWords_eq some fits drawable, List.getElem?_zipWith_eq_some] at drawn
  obtain ⟨original, cell, there, here, rfl⟩ := drawn
  refine ⟨cell, ?_, rfl, rfl, rfl⟩
  rw [List.getElem?_zip_eq_some, List.getElem?_map, there]
  exact ⟨here, rfl⟩

/-- Lines and positions are those of the cells. -/
theorem drawnWords_stations (some : 0 < test.wordCount) (fits : test.wordCount ≤ test.words.length)
    (drawable : Drawable loaded test) :
    ((drawnWords loaded test view).map fun word => (word.line, word.x, word.y)) =
      (cells test).map fun cell : Nat × Nat =>
        ((cell.1 : Int), 200 + 16 * (cell.2 : Int), 200 + 64 * (cell.1 : Int)) := by
  rw [drawnWords_eq some fits drawable, List.map_zipWith]
  apply List.ext_getElem
  · rw [List.length_zipWith, List.length_map, length_cells fits, List.length_take]
    omega
  · intro i _ _
    simp [Word.atCell]

/-- Every word lies in the text area. -/
theorem drawnWords_within (some : 0 < test.wordCount) (fits : test.wordCount ≤ test.words.length)
    (drawable : Drawable loaded test)
    (short : ∀ word ∈ test.words.take test.wordCount, word.length ≤ textColumns) :
    ∀ word ∈ drawnWords loaded test view, 200 ≤ word.x ∧ word.x + 16 * word.length ≤ 952 := by
  intro word member
  obtain ⟨i, drawn⟩ := List.mem_iff_getElem?.mp member
  obtain ⟨cell, there, x, -, -⟩ := drawnWords_getElem? some fits drawable drawn
  have lengths : ∀ length ∈ (test.words.take test.wordCount).map Word.length,
      length ≤ textColumns := by
    intro length listed
    obtain ⟨original, inTest, rfl⟩ := List.mem_map.mp listed
    exact short original inTest
  have within := wrap_within lengths
    (fun length first => by simpa using lengths length (List.mem_of_head? first))
    (cell, word.length) (List.mem_of_getElem? there)
  change cell.2 + word.length ≤ 47 at within
  rw [x]
  omega

/-- The lines are numbered from zero on, without gaps. -/
theorem drawnWords_lines (some : 0 < test.wordCount) (fits : test.wordCount ≤ test.words.length)
    (drawable : Drawable loaded test) :
    ((drawnWords loaded test view).map (·.line)).head? = .some 0 ∧
      ((drawnWords loaded test view).map (·.line)).IsChain fun first second =>
        second = first ∨ second = first + 1 := by
  have ruled := (ruled_layout some fits drawable).1
  rw [lineNumbers_layout, layout_wordCount, ← drawWords_fst loaded test view] at ruled
  rw [drawnWords, ruled]
  refine ⟨?_, lines_isChain 0 xMargin (widths test)⟩
  obtain ⟨width, others, shape⟩ := List.exists_cons_of_length_pos
    (by rw [widths, List.length_map, List.length_take]; omega : 0 < (widths test).length)
  rw [lineNumbers, shape, head_lines]

/-- A letter of an earlier word is on an earlier line or further left. -/
theorem letters_apart_of_lt (some : 0 < test.wordCount) (fits : test.wordCount ≤ test.words.length)
    (drawable : Drawable loaded test) {i j a b : Nat} {first second : Word}
    (drawn : (drawnWords loaded test view)[i]? = .some first)
    (drawnOther : (drawnWords loaded test view)[j]? = .some second) (earlier : i < j)
    (inside : a < first.length) : first.letterAt a ≠ second.letterAt b := by
  obtain ⟨cell, there, x, y, -⟩ := drawnWords_getElem? some fits drawable drawn
  obtain ⟨otherCell, thereOther, otherX, otherY, -⟩ :=
    drawnWords_getElem? some fits drawable drawnOther
  obtain ⟨inZip, here⟩ := List.getElem?_eq_some_iff.mp there
  obtain ⟨otherInZip, hereOther⟩ := List.getElem?_eq_some_iff.mp thereOther
  have apart : ((cells test).zip ((test.words.take test.wordCount).map Word.length)).Pairwise
      Before := wrap_pairwise 0 0 _
  have before := List.pairwise_iff_getElem.mp apart i j inZip otherInZip earlier
  rw [here, hereOther] at before
  change cell.1 < otherCell.1 ∨ cell.1 = otherCell.1 ∧ cell.2 + first.length < otherCell.2 at before
  intro same
  rw [Word.letterAt, Word.letterAt, Prod.mk.injEq, x, y, otherX, otherY] at same
  omega

/-- No two letters share a cell. -/
theorem letters_apart (some : 0 < test.wordCount) (fits : test.wordCount ≤ test.words.length)
    (drawable : Drawable loaded test) {i j a b : Nat} {first second : Word}
    (drawn : (drawnWords loaded test view)[i]? = .some first)
    (drawnOther : (drawnWords loaded test view)[j]? = .some second) (inFirst : a < first.length)
    (inSecond : b < second.length) (same : first.letterAt a = second.letterAt b) :
    i = j ∧ a = b := by
  rcases Nat.lt_trichotomy i j with earlier | rfl | later
  · exact absurd same (letters_apart_of_lt some fits drawable drawn drawnOther earlier inFirst)
  · rw [drawn, Option.some.injEq] at drawnOther
    subst drawnOther
    rw [Word.letterAt, Word.letterAt, Prod.mk.injEq] at same
    exact ⟨rfl, by omega⟩
  · exact absurd same.symm
      (letters_apart_of_lt some fits drawable drawnOther drawn later inSecond)

end Wrapped

/-- `drawWords` on words whose letters all have a sprite, none of them longer than a line, is greedy
word wrap: every word goes to its cell of the reference algorithm and keeps everything but its
place, and `number_of_lines` is the line of the last word.  Hence the words lie in the text area,
the lines are numbered without gaps, no two letters share a cell, and a test with the same lengths,
whatever its statuses, caret and earlier positions, gets the same places. -/
theorem drawWords_wraps (loaded : LoadedSprites) (test : TypingTest) (view : View)
    (some : 0 < test.wordCount) (fits : test.wordCount ≤ test.words.length)
    (drawable : Drawable loaded test)
    (short : ∀ word ∈ test.words.take test.wordCount, word.length ≤ textColumns) :
    drawnWords loaded test view =
        List.zipWith Word.atCell (test.words.take test.wordCount) (cells test) ∧
      (∃ last, (cells test).getLast? = .some last ∧
        (drawWords loaded test view).1.numberOfLines = last.1) ∧
      (∀ word ∈ drawnWords loaded test view, 200 ≤ word.x ∧ word.x + 16 * word.length ≤ 952) ∧
      (((drawnWords loaded test view).map (·.line)).head? = .some 0 ∧
        ((drawnWords loaded test view).map (·.line)).IsChain fun first second =>
          second = first ∨ second = first + 1) ∧
      (∀ (i j a b : Nat) (first second : Word), (drawnWords loaded test view)[i]? = .some first →
        (drawnWords loaded test view)[j]? = .some second → a < first.length → b < second.length →
        first.letterAt a = second.letterAt b → i = j ∧ a = b) ∧
      ∀ (other : TypingTest) (otherView : View), other.wordCount = test.wordCount →
        other.words.map Word.length = test.words.map Word.length → Drawable loaded other →
        ((drawnWords loaded other otherView).map fun word => (word.line, word.x, word.y)) =
            ((drawnWords loaded test view).map fun word => (word.line, word.x, word.y)) ∧
          (drawWords loaded other otherView).1.numberOfLines =
            (drawWords loaded test view).1.numberOfLines := by
  refine ⟨drawnWords_eq some fits drawable, drawWords_numberOfLines some fits drawable,
    drawnWords_within some fits drawable short, drawnWords_lines some fits drawable, ?_, ?_⟩
  · intro i j a b first second drawn drawnOther inFirst inSecond same
    exact letters_apart some fits drawable drawn drawnOther inFirst inSecond same
  · intro other otherView count lengths otherDrawable
    have same : cells other = cells test := by
      rw [cells, cells, List.map_take, List.map_take, count, lengths]
    have sizes := congrArg List.length lengths
    rw [List.length_map, List.length_map] at sizes
    have otherFits : other.wordCount ≤ other.words.length := by omega
    have otherSome : 0 < other.wordCount := by omega
    obtain ⟨last, ending, number⟩ :=
      @drawWords_numberOfLines loaded other otherView otherSome otherFits otherDrawable
    obtain ⟨lastTest, endingTest, numberTest⟩ :=
      @drawWords_numberOfLines loaded test view some fits drawable
    rw [same, endingTest, Option.some.injEq] at ending
    refine ⟨?_, by rw [number, numberTest, ending]⟩
    rw [drawnWords_stations otherSome otherFits otherDrawable, same,
      ← drawnWords_stations some fits drawable]

/-- Three words that fill a line to its last cell, and one more letter. -/
def fullLine : TypingTest :=
  { words :=
      [newWord (List.replicate 15 'A') (7, 7, 7), newWord (List.replicate 15 'B') (7, 7, 7),
        newWord (List.replicate 15 'C') (7, 7, 7), newWord ['D'] (7, 7, 7), sentinelWord]
    wordCount := 4
    currentWordIndex := 0
    currentInputIndex := 0
    currentInput := []
    numberOfLines := -1 }

/-- The last cell is used, and the letter that is left goes to the next line. -/
theorem fullLine_wraps :
    ((drawnWords everySprite fullLine default).map fun word => (word.line, word.x)) =
      [(0, 200), (0, 456), (0, 712), (1, 200)] := by
  have drawable : Drawable everySprite fullLine := by
    unfold Drawable
    decide +kernel
  rw [(drawWords_wraps everySprite fullLine default (by decide) (by decide) drawable
    (by decide)).1]
  decide +kernel

end TypingTutor
