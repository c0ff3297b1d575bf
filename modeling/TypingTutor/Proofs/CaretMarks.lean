/-
Module: TypingTutor.Proofs.CaretMarks
Layer: Proofs
Purpose: The caret on the static layer.  A mark is erased only at the place of the stored caret, and
  drawing the words erases it only to draw the next one.  So as long as there is no mark but at the
  stored caret, drawing the words either moves the one mark under the current letter or leaves
  everything as it was.
Trusted boundary: none
Main exports: caretMarks, Tracked, SameCaret, MarkedAt, reachesCaret, drawWords_marks
-/
import TypingTutor.Proofs.Scrolling
import Mathlib.Data.Finset.Erase
import Mathlib.Data.Finset.Insert

namespace TypingTutor

/-! ### Marks -/

/-- The caret marks of a layer: `drawCaret` makes one, `deleteCaret` takes away the one at its place
and `drawBackground` all of them. -/
def caretMarks : List DrawOp → Finset (Int × Int)
  | [] => ∅
  | .sprite _ _ _ _ :: older => caretMarks older
  | .rectangle x y width height color :: older =>
      if width = 13 ∧ height = 1 ∧ color = 0xFFFFFF then insert (x, y) (caretMarks older)
      else if width = 13 ∧ height = 1 ∧ color = beige then (caretMarks older).erase (x, y)
      else if x = 0 ∧ y = 0 ∧ width = xResolution ∧ height = yResolution then ∅
      else caretMarks older

/-- The marks on the static layer. -/
def View.marks (view : View) : Finset (Int × Int) := caretMarks view.secondaryFrameBufferNoMouse

/-- There is no mark but at the stored caret. -/
def Tracked (view : View) : Prop :=
  view.marks = ∅ ∨ (view.marks = {(view.caret.x, view.caret.y)} ∧
    view.caret.width = 13 ∧ view.caret.height = 1)

/-- Neither the marks nor the stored caret have changed. -/
structure SameCaret (before after : View) : Prop where
  marks : after.marks = before.marks
  caret : after.caret = before.caret

/-- The only mark is at the spot, where the stored caret is. -/
structure MarkedAt (spot : Int × Int) (view : View) : Prop where
  marks : view.marks = {spot}
  caret : view.caret = { x := spot.1, y := spot.2, width := 13, height := 1 }

namespace SameCaret

theorem refl (view : View) : SameCaret view view := ⟨rfl, rfl⟩

theorem trans {before middle after : View} (first : SameCaret before middle)
    (second : SameCaret middle after) : SameCaret before after :=
  ⟨second.marks.trans first.marks, second.caret.trans first.caret⟩

/-- Offsets are not on the layer. -/
theorem moved (view : View) (x y : Int) :
    SameCaret view { view with xOffset := x, yOffset := y } := ⟨rfl, rfl⟩

theorem tracked {before after : View} (same : SameCaret before after) (tracked : Tracked before) :
    Tracked after := by
  unfold Tracked
  rw [same.marks, same.caret]
  exact tracked

theorem markedAt {before after : View} {spot : Int × Int} (same : SameCaret before after)
    (marked : MarkedAt spot before) : MarkedAt spot after :=
  ⟨same.marks.trans marked.marks, same.caret.trans marked.caret⟩

end SameCaret

theorem MarkedAt.tracked {spot : Int × Int} {view : View} (marked : MarkedAt spot view) :
    Tracked view := by
  right
  rw [marked.marks, marked.caret]
  exact ⟨rfl, rfl, rfl⟩

theorem deleteCaret_marks {view : View} (tracked : Tracked view) :
    (deleteCaret view).marks = ∅ ∧ (deleteCaret view).caret = view.caret := by
  refine ⟨?_, rfl⟩
  have notWhite : beige ≠ 0xFFFFFF := by decide
  simp only [View.marks, deleteCaret, drawRectangle, caretMarks, notWhite, and_false, if_false]
  rcases tracked with none | ⟨one, width, height⟩
  · rw [View.marks] at none
    rw [none]
    split_ifs <;> rfl
  · rw [View.marks] at one
    rw [one, if_pos ⟨width, height, trivial⟩, Finset.erase_singleton]

theorem drawCaret_marks (x y : Int) {view : View} (clean : view.marks = ∅) :
    MarkedAt (x, y) (drawCaret x y view) := by
  refine ⟨?_, rfl⟩
  rw [View.marks] at clean
  simp only [View.marks, drawCaret, drawRectangle, caretMarks, and_self, if_true, clean]
  rfl

theorem drawBackground_marks (now : RealTimeInfo) (state : GameState) (view : View) :
    (drawBackground now state view).marks = ∅ := by
  have size : xResolution ≠ 13 ∧ xResolution - 200 ≠ 13 := by decide
  simp only [drawBackground, View.marks]
  split_ifs
  all_goals simp [drawRectangle, caretMarks, size]

theorem drawSpriteXPM_sameCaret (sprite : Option SpriteName) (x y : Int) (color : Option UInt32)
    (moving : Bool) (view : View) :
    SameCaret view (drawSpriteXPM sprite x y color moving view).1 := by
  cases sprite with
  | none => exact .refl view
  | some name =>
      cases moving with
      | true => exact ⟨rfl, rfl⟩
      | false => exact ⟨rfl, rfl⟩

/-! ### Drawing the words -/

section Words

variable (loaded : LoadedSprites)

/-- The inner loop of `drawWords` gets to letter `k`. -/
def reachesLetter : Nat → List Letter → Bool
  | _, [] => false
  | 0, _ :: _ => true
  | k + 1, letter :: rest => hasGlyph loaded letter && reachesLetter k rest

/-- The outer loop gets to letter `k` of word `d`, with so many words to draw. -/
def reachesWord (k : Nat) : Nat → Nat → List Word → Bool
  | 0, _, _ => false
  | _ + 1, _, [] => false
  | _ + 1, 0, word :: _ => reachesLetter loaded k word.letters
  | remaining + 1, d + 1, word :: rest =>
      word.letters.all (hasGlyph loaded) && reachesWord k remaining d rest

/-- `drawWords` gets to the letter under the cursors. -/
def reachesCaret (test : TypingTest) : Bool :=
  reachesWord loaded test.currentInputIndex test.wordCount test.currentWordIndex test.words

variable {loaded}

theorem reachesLetter_eq {letters : List Letter} (glyphs : letters.all (hasGlyph loaded) = true)
    (k : Nat) : reachesLetter loaded k letters = decide (k < letters.length) := by
  induction letters generalizing k with
  | nil => simp [reachesLetter]
  | cons letter rest ih =>
      rw [List.all_cons, Bool.and_eq_true] at glyphs
      cases k with
      | zero => simp [reachesLetter]
      | succ k => simp [reachesLetter, glyphs.1, ih glyphs.2]

/-- With all glyphs there the loops get to every letter. -/
theorem reachesWord_iff (k : Nat) {remaining d : Nat} {words : List Word}
    (glyphs : ∀ word ∈ words.take remaining, word.letters.all (hasGlyph loaded) = true) :
    reachesWord loaded k remaining d words = true ↔
      d < remaining ∧ ∃ word, words[d]? = some word ∧ k < word.length := by
  induction words generalizing remaining d with
  | nil =>
      cases remaining with
      | zero => simp [reachesWord]
      | succ remaining => simp [reachesWord]
  | cons word rest ih =>
      cases remaining with
      | zero => simp [reachesWord]
      | succ remaining =>
          have here := glyphs word (by simp)
          cases d with
          | zero => simp [reachesWord, reachesLetter_eq here, Word.length]
          | succ d =>
              rw [reachesWord, here, Bool.true_and, ih]
              · simp
              · intro other member
                exact glyphs other (List.mem_cons_of_mem word member)

theorem putLetter_sameCaret (name : SpriteName) (word : Word) (letter : Letter) (view : View) :
    SameCaret view (putLetter name word letter view) := ⟨rfl, rfl⟩

/-- No caret is drawn in a word that does not have it, or behind it. -/
theorem drawLetters_sameCaret (word : Word) {caretAt : Option Nat} (letters : List Letter) {j : Nat}
    (behind : ∀ k, caretAt = some k → k < j) (view : View) :
    SameCaret view (drawLetters loaded word caretAt j letters view).1 := by
  induction letters generalizing j view with
  | nil => exact .refl view
  | cons letter rest ih =>
      have unmarked : markLetter caretAt j view = view := by
        apply if_neg
        intro here
        exact absurd (behind j here) (Nat.lt_irrefl j)
      rcases drawLetters_round loaded word caretAt letter rest j view with
        ⟨-, round⟩ | ⟨-, name, round⟩
      · rw [round, unmarked]
        exact .refl view
      · rw [round, unmarked]
        apply (putLetter_sameCaret name word letter view).trans
        apply ih
        intro k here
        exact Nat.lt_succ_of_lt (behind k here)

/-- In the word that has it, the caret is drawn under its letter if the loop gets there. -/
theorem drawLetters_marks (word : Word) (letters : List Letter) (j k : Nat) {view : View}
    (tracked : Tracked view) :
    if reachesLetter loaded k letters = true then
      MarkedAt (view.xOffset + 16 * k, view.yOffset + 24)
        (drawLetters loaded word (some (j + k)) j letters view).1
    else SameCaret view (drawLetters loaded word (some (j + k)) j letters view).1 := by
  induction letters generalizing j k view with
  | nil =>
      simp only [reachesLetter, Bool.false_eq_true, if_false]
      exact .refl view
  | cons letter rest ih =>
      cases k with
      | zero =>
          have spot : view.xOffset + 16 * ((0 : Nat) : Int) = view.xOffset := by omega
          rw [reachesLetter, if_pos rfl, Nat.add_zero, spot]
          have marked : MarkedAt (view.xOffset, view.yOffset + 24) (markLetter (some j) j view) := by
            rw [markLetter, if_pos rfl]
            exact drawCaret_marks view.xOffset (view.yOffset + 24) (deleteCaret_marks tracked).1
          rcases drawLetters_round loaded word (some j) letter rest j view with
            ⟨-, round⟩ | ⟨-, name, round⟩
          · rw [round]
            exact marked
          · rw [round]
            apply SameCaret.markedAt _ ((putLetter_sameCaret name word letter _).markedAt marked)
            apply drawLetters_sameCaret
            intro k here
            cases here
            exact Nat.lt_succ_self j
      | succ k =>
          have unmarked : markLetter (some (j + (k + 1))) j view = view := by
            apply if_neg
            intro here
            have := Option.some.inj here
            omega
          rcases drawLetters_round loaded word (some (j + (k + 1))) letter rest j view with
            ⟨missing, round⟩ | ⟨present, name, round⟩
          · rw [round, unmarked, reachesLetter, missing, Bool.false_and, if_neg Bool.false_ne_true]
            exact .refl view
          · rw [round, unmarked, reachesLetter, present, Bool.true_and]
            have same := putLetter_sameCaret name word letter view
            have later := ih (j + 1) k (same.tracked tracked)
            have index : j + 1 + k = j + (k + 1) := by omega
            have spot : view.xOffset + 16 + 16 * (k : Int) =
                view.xOffset + 16 * ((k + 1 : Nat) : Int) := by omega
            rw [index] at later
            change if _ then MarkedAt (view.xOffset + 16 + 16 * (k : Int), view.yOffset + 24) _
              else _ at later
            rw [spot] at later
            split_ifs at later ⊢
            · exact later
            · exact same.trans later

/-- A new place for the next word does not touch the caret. -/
theorem lineBreak_sameCaret {next : Word} {line line' : Int} {view view' : View}
    (goes : (line', view') = lineBreak next line view) : SameCaret view view' := by
  rw [lineBreak] at goes
  split_ifs at goes
  all_goals
    cases goes
    exact .moved view _ _

/-- A word without the cursor is drawn without a caret. -/
theorem drawWord_sameCaret (test : TypingTest) {i : Nat} (line : Int) (word : Word)
    (elsewhere : i ≠ test.currentWordIndex) (view : View) :
    SameCaret view (drawWord loaded test i line word view).1 := by
  rw [drawWord, if_neg elsewhere]
  apply drawLetters_sameCaret
  intro k impossible
  cases impossible

/-- Behind the current word no caret is drawn. -/
theorem drawWordsLoop_sameCaret (test : TypingTest) (words : List Word) {i : Nat} (line : Int)
    (behind : test.currentWordIndex < i) (view : View) :
    SameCaret view (drawWordsLoop loaded test i line words view).2.1 := by
  induction words generalizing i line view with
  | nil => exact .refl view
  | cons word rest ih =>
      by_cases inside : i < test.wordCount
      · have drawn := @drawWord_sameCaret loaded test i line word (Nat.ne_of_gt behind) view
        rcases drawWordsLoop_round loaded test line word rest view inside with
          ⟨-, round⟩ | ⟨-, -, next, others, line', view', -, goes, round⟩
        · rw [round]
          exact drawn
        · rw [round]
          exact (drawn.trans (lineBreak_sameCaret goes)).trans (ih line' (by omega) view')
      · rw [drawWordsLoop, if_neg inside]
        exact .refl view

/-- The spot of the caret under letter `k` of a word. -/
def caretSpot (word : Word) (k : Nat) : Int × Int := (word.x + 16 * k, word.y + 24)

theorem reachesWord_nil (k remaining d : Nat) : reachesWord loaded k remaining d [] = false := by
  cases remaining with
  | zero => rfl
  | succ remaining => rfl

/-- The current word is drawn with the caret under its letter; the rest of the loop only adds words.
-/
theorem drawWordsLoop_current (test : TypingTest) {i : Nat} (line : Int) (word : Word)
    (rest : List Word)
    (here : i = test.currentWordIndex) (inside : i < test.wordCount) {view : View}
    (tracked : Tracked view) :
    if reachesLetter loaded test.currentInputIndex word.letters = true then
      ∃ first, (drawWordsLoop loaded test i line (word :: rest) view).1[0]? = some first ∧
        MarkedAt (caretSpot first test.currentInputIndex)
          (drawWordsLoop loaded test i line (word :: rest) view).2.1
    else SameCaret view (drawWordsLoop loaded test i line (word :: rest) view).2.1 := by
  obtain ⟨tail, front, later⟩ : ∃ tail,
      (drawWordsLoop loaded test i line (word :: rest) view).1 =
        { word with x := view.xOffset, y := view.yOffset, line := line } :: tail ∧
      SameCaret (drawWord loaded test i line word view).1
        (drawWordsLoop loaded test i line (word :: rest) view).2.1 := by
    rcases drawWordsLoop_round loaded test line word rest view inside with
      ⟨-, round⟩ | ⟨-, -, next, others, line', view', -, goes, round⟩
    · rw [round]
      exact ⟨_, rfl, .refl _⟩
    · rw [round]
      exact ⟨_, rfl, (lineBreak_sameCaret goes).trans
        (drawWordsLoop_sameCaret test rest line' (Nat.lt_succ_of_le (Nat.le_of_eq here.symm)) view')⟩
  have drawn := @drawLetters_marks loaded
    { word with x := view.xOffset, y := view.yOffset, line := line } word.letters 0
    test.currentInputIndex view tracked
  rw [Nat.zero_add] at drawn
  rw [drawWord, if_pos here] at later
  split_ifs at drawn ⊢
  · rw [front]
    exact ⟨_, rfl, later.markedAt drawn⟩
  · exact drawn.trans later

/-- The caret is drawn under the current letter if the loop gets there, at the place that the loop
gives to the word. -/
theorem drawWordsLoop_marks (test : TypingTest) (words : List Word) {i d : Nat} (line : Int)
    (ahead : i + d = test.currentWordIndex) {view : View} (tracked : Tracked view) :
    if reachesWord loaded test.currentInputIndex (test.wordCount - i) d words = true then
      ∃ word, (drawWordsLoop loaded test i line words view).1[d]? = some word ∧
        MarkedAt (caretSpot word test.currentInputIndex)
          (drawWordsLoop loaded test i line words view).2.1
    else SameCaret view (drawWordsLoop loaded test i line words view).2.1 := by
  induction words generalizing i d line view with
  | nil =>
      rw [reachesWord_nil, if_neg Bool.false_ne_true]
      exact .refl view
  | cons word rest ih =>
      by_cases inside : i < test.wordCount
      · obtain ⟨remaining, left⟩ : ∃ remaining, test.wordCount - i = remaining + 1 :=
          ⟨test.wordCount - i - 1, by omega⟩
        have leftAfter : test.wordCount - (i + 1) = remaining := by omega
        rw [left]
        cases d with
        | zero => exact drawWordsLoop_current test line word rest ahead inside tracked
        | succ d =>
            have elsewhere : i ≠ test.currentWordIndex := by omega
            have drawn := @drawWord_sameCaret loaded test i line word elsewhere view
            have failing := (drawWord_spec loaded test i line word view).1
            rw [reachesWord]
            rcases drawWordsLoop_round loaded test line word rest view inside with
              ⟨ends, round⟩ | ⟨shown, -, next, others, line', view', -, goes, round⟩
            · have stops : (word.letters.all (hasGlyph loaded) &&
                  reachesWord loaded test.currentInputIndex remaining d rest) = false := by
                rcases ends with failed | last | rfl
                · rw [failed, Bool.true_eq, Bool.not_eq_true'] at failing
                  rw [failing, Bool.false_and]
                · have none : remaining = 0 := by omega
                  rw [none, reachesWord, Bool.and_false]
                · rw [reachesWord_nil, Bool.and_false]
              rw [stops, if_neg Bool.false_ne_true, round]
              exact drawn
            · rw [shown, Bool.false_eq, Bool.not_eq_false'] at failing
              rw [failing, Bool.true_and, round]
              have same := drawn.trans (lineBreak_sameCaret goes)
              have later := ih (i := i + 1) (d := d) line' (by omega) (same.tracked tracked)
              rw [leftAfter] at later
              split_ifs at later ⊢
              · exact later
              · exact same.trans later
      · have none : test.wordCount - i = 0 := by omega
        rw [drawWordsLoop, if_neg inside, none, reachesWord, if_neg Bool.false_ne_true]
        exact .refl view

/-- Drawing the words moves the caret under the current letter, if it gets there. -/
theorem drawWords_marks (test : TypingTest) {view : View} (tracked : Tracked view) :
    if reachesCaret loaded test = true then
      ∃ word, (layout loaded test).words[test.currentWordIndex]? = some word ∧
        MarkedAt (caretSpot word test.currentInputIndex) (drawWords loaded test view).2
    else SameCaret view (drawWords loaded test view).2 := by
  have start : SameCaret view (resetOffset view) := .moved view xMargin yMargin
  have drawn := @drawWordsLoop_marks loaded test test.words 0 test.currentWordIndex 0
    (Nat.zero_add _) (resetOffset view) (start.tracked tracked)
  have words : (layout loaded test).words =
      (drawWordsLoop loaded test 0 0 test.words (resetOffset view)).1 := by
    rw [← drawWords_fst loaded test view]
    rfl
  rw [words, reachesCaret]
  rw [Nat.sub_zero] at drawn
  split_ifs at drawn ⊢
  · exact drawn
  · exact start.trans drawn

end Words

end TypingTutor
