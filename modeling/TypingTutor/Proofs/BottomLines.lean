/-
Module: TypingTutor.Proofs.BottomLines
Layer: Proofs
Purpose: Which words a scroll keeps.  The copying loop of `shift_words_up` stops one word early, so the
  last word of the last line is left out and its place goes to a word of the pool.  Both bottom lines
  are kept if and only if that word happens to be the one that is lost.
Trusted boundary: none
Main exports: wordsOnLine, KeepsBottomLines, shift_keeps_bottom_lines_iff, last_word_is_replaced
-/
import TypingTutor.Proofs.ScrollInvariant

namespace TypingTutor

open Runs Compaction LineBreaking

/-- The words of a line, in order. -/
def wordsOnLine (test : TypingTest) (line : Int) : List Word :=
  (test.words.take test.wordCount).filter fun word => word.line == line

/-- A word of the pool in which nothing has been typed. -/
def Word.Fresh (word : Word) : Prop :=
  (∃ index < poolSize, word.chars = poolWord index) ∧ word.status = 0 ∧ word.Untouched

/-- The words after `shift_words_up`. -/
def shiftedWords (env : Env) (test : TypingTest) : List Word :=
  (shiftWordsUp env test).words.take test.wordCount

/-- The scroll moves the penultimate line to the front and the last line behind it, with their letters
and statuses, and the remaining words are fresh. -/
structure KeepsBottomLines (env : Env) (test : TypingTest) : Prop where
  penultimate :
    ((shiftedWords env test).take (wordsOnLine test (test.numberOfLines - 1)).length).map Word.text =
      (wordsOnLine test (test.numberOfLines - 1)).map Word.text
  last :
    (((shiftedWords env test).drop (wordsOnLine test (test.numberOfLines - 1)).length).take
        (wordsOnLine test test.numberOfLines).length).map Word.text =
      (wordsOnLine test test.numberOfLines).map Word.text
  fresh :
    ∀ word ∈ (shiftedWords env test).drop ((wordsOnLine test (test.numberOfLines - 1)).length +
        (wordsOnLine test test.numberOfLines).length),
      word.Fresh

/-- The first index that `load_new_word` is called with. -/
def firstNewIndex (test : TypingTest) : Nat := (retained test).length + (carried test).length

theorem drawnWord_fresh (env : Env) (index : Nat) : (drawnWord env index).Fresh := by
  refine ⟨⟨env.rand index % 80, ?_, newWord_chars _ _⟩, rfl, newWord_untouched _ _⟩
  exact (Nat.mod_lt _ (by decide)).trans (by decide)

/-- A new word has the letters and statuses of a word exactly when that one has its characters and is
untyped. -/
theorem newWord_text_eq_iff {characters : List Char} {junk : Int × Int × Int} {word : Word} :
    (newWord characters junk).text = word.text ↔
      characters = word.chars ∧ word.status = 0 ∧ word.Untouched := by
  rw [Word.text, Word.text, Prod.mk.injEq, newWord]
  constructor
  · rintro ⟨letters, status⟩
    refine ⟨?_, status.symm, ?_⟩
    · rw [Word.chars, ← letters, List.map_map]
      exact (List.map_id characters).symm
    · intro letter member
      rw [← letters] at member
      obtain ⟨c, -, rfl⟩ := List.mem_map.mp member
      rfl
  · rintro ⟨rfl, status, untouched⟩
    refine ⟨?_, status.symm⟩
    rw [Word.chars, List.map_map]
    apply (List.map_congr_left _).trans (List.map_id word.letters)
    intro letter member
    have zero := untouched letter member
    cases letter
    cases zero
    rfl

section Ruled

variable {test : TypingTest} {last : Word}

/-- Words of the last line come behind the words of the penultimate line. -/
theorem Ruled.ordered (ruled : Ruled test) :
    (test.words.take (test.wordCount - 1)).Pairwise fun earlier later =>
      onLastLine test earlier = true → onPenultimateLine test later = false := by
  have sorted : ((test.words.take test.wordCount).map (·.line)).Pairwise fun first second =>
      first ≤ second := by
    rw [ruled.1]
    exact lines_pairwise 0 xMargin (widths test)
  apply ((List.pairwise_map.mp sorted).sublist
    (List.take_sublist_take_left (Nat.sub_le test.wordCount 1))).imp
  intro earlier later order onLast
  simp only [onLastLine, onPenultimateLine, beq_iff_eq, beq_eq_false_iff_ne] at onLast ⊢
  omega

/-- The words up to the last one, which is on the last line. -/
theorem Ruled.take_wordCount (ruled : Ruled test)
    (ending : test.words[test.wordCount - 1]? = some last) (some : 0 < test.wordCount) :
    test.words.take test.wordCount = test.words.take (test.wordCount - 1) ++ [last] ∧
      last.line = test.numberOfLines := by
  have split : test.words.take test.wordCount =
      test.words.take (test.wordCount - 1) ++ [last] := by
    obtain ⟨count, succ⟩ : ∃ count, test.wordCount = count + 1 := ⟨test.wordCount - 1, by omega⟩
    rw [succ, Nat.add_sub_cancel] at ending ⊢
    rw [List.take_add_one, ending]
    rfl
  refine ⟨split, ?_⟩
  have number := ruled.2
  rw [← ruled.1, split, List.map_append, List.map_singleton, List.getLast?_concat] at number
  exact Option.some.inj number

theorem Ruled.wordsOnLine (ruled : Ruled test)
    (ending : test.words[test.wordCount - 1]? = some last) (some : 0 < test.wordCount) :
    wordsOnLine test (test.numberOfLines - 1) = retained test ∧
      wordsOnLine test test.numberOfLines = carried test ++ [last] := by
  obtain ⟨split, line⟩ := ruled.take_wordCount ending some
  constructor
  · rw [TypingTutor.wordsOnLine, split, List.filter_append, List.filter_singleton, line]
    have notThere : (test.numberOfLines == test.numberOfLines - 1) = false := by
      rw [beq_eq_false_iff_ne]
      omega
    rw [notThere]
    exact List.append_nil _
  · rw [TypingTutor.wordsOnLine, split, List.filter_append, List.filter_singleton, line,
      beq_self_eq_true]
    rfl

/-- The words after a scroll: the place of the last word goes to a new one. -/
theorem Ruled.shiftWordsUp_words (ruled : Ruled test) (size : test.words.length = test.wordCount + 1)
    (some : 0 < test.wordCount) (env : Env) :
    ∃ more, (∀ word ∈ more, word.Fresh) ∧
      shiftedWords env test =
        retained test ++ (carried test ++ [drawnWord env (firstNewIndex test)]) ++ more := by
  have bound : firstNewIndex test ≤ test.wordCount - 1 := by
    have packed := shiftLoop_packed size ruled.ordered
    have firsts : (shiftLoop test).pack.firsts = (retained test).length := packed.firsts
    have seconds : (shiftLoop test).pack.seconds = (carried test).length := packed.seconds
    rw [firstNewIndex, ← firsts, ← seconds]
    exact packed.fits
  have fresh : newWords env test = drawnWord env (firstNewIndex test) ::
      (List.range' (firstNewIndex test + 1) (test.wordCount - 1 - firstNewIndex test)).map
        (drawnWord env) := by
    have count : test.wordCount - firstNewIndex test =
        test.wordCount - 1 - firstNewIndex test + 1 := by omega
    rw [newWords, ← firstNewIndex, count, List.range'_succ, List.map_cons]
  refine ⟨(List.range' (firstNewIndex test + 1) (test.wordCount - 1 - firstNewIndex test)).map
    (drawnWord env), ?_, ?_⟩
  · intro word member
    obtain ⟨index, -, rfl⟩ := List.mem_map.mp member
    exact drawnWord_fresh env index
  · rw [shiftedWords, shiftWordsUp_eq size ruled.ordered env]
    change List.take test.wordCount (retained test ++ carried test ++ newWords env test ++ _) = _
    rw [List.take_left' (length_scrolled size ruled.ordered env), fresh]
    simp

end Ruled

/-- On a test that `drawWords` has laid out, the scroll keeps both bottom lines if and only if the first
word that `load_new_word` draws has the characters of the last word, and that one is untyped. -/
theorem shift_keeps_bottom_lines_iff (loaded : LoadedSprites) (env : Env) (test laid : TypingTest)
    (view : View) (last : Word) (some : 0 < test.wordCount)
    (size : test.words.length = test.wordCount + 1) (drawable : Drawable loaded test)
    (drawn : laid = (drawWords loaded test view).1)
    (ending : laid.words[laid.wordCount - 1]? = .some last) :
    KeepsBottomLines env laid ↔
      poolWord (env.rand (firstNewIndex laid) % 80) = last.chars ∧ last.status = 0 ∧
        last.Untouched := by
  rw [drawWords_fst] at drawn
  have ruled : Ruled laid := by
    rw [drawn]
    exact ruled_layout some (by omega) drawable
  have laidSize : laid.words.length = laid.wordCount + 1 := by
    rw [drawn, length_layout_words, layout_wordCount, size]
  have laidSome : 0 < laid.wordCount := by
    rw [drawn]
    exact some
  obtain ⟨penultimate, lastLine⟩ := ruled.wordsOnLine ending laidSome
  obtain ⟨more, fresh, words⟩ := ruled.shiftWordsUp_words laidSize laidSome env
  have front : retained laid ++ (carried laid ++ [drawnWord env (firstNewIndex laid)]) ++ more =
      retained laid ++ ((carried laid ++ [drawnWord env (firstNewIndex laid)]) ++ more) :=
    List.append_assoc _ _ _
  have replaced : (carried laid ++ [last]).length =
      (carried laid ++ [drawnWord env (firstNewIndex laid)]).length := by simp
  constructor
  · intro keeps
    have kept := keeps.last
    rw [penultimate, lastLine, words, front, List.drop_left', replaced, List.take_left',
      List.map_append, List.map_append] at kept
    · have same := List.append_cancel_left kept
      exact newWord_text_eq_iff.mp (List.singleton_inj.mp same)
    · rfl
    · rfl
  · intro same
    have text : (drawnWord env (firstNewIndex laid)).text = last.text := newWord_text_eq_iff.mpr same
    constructor
    · rw [penultimate, words, front, List.take_left']
      rfl
    · rw [penultimate, lastLine, words, front, List.drop_left' rfl, replaced, List.take_left' rfl,
        List.map_append, List.map_append, List.map_singleton, text, List.map_singleton]
    · rw [penultimate, lastLine, words, replaced, ← List.length_append, List.drop_left' rfl]
      exact fresh

/-- The sheet of a game in which `rand()` has returned zeros, after its first drawing. -/
def equalWords : TypingTest := (drawWords everySprite (freshTest default) default).1

/-- When the next `rand()` returns zero as well, the lost word comes back. -/
theorem equalWords_are_kept : KeepsBottomLines default equalWords := by
  have drawable : Drawable everySprite (freshTest default) :=
    (freshTest_wellScrolled default).sheet.drawable lettersLoaded_everySprite
  have checked : (equalWords.words[equalWords.wordCount - 1]?).any (fun last =>
      decide (poolWord ((default : Env).rand (firstNewIndex equalWords) % 80) = last.chars ∧
        last.status = 0 ∧ last.Untouched)) = true := by
    decide +kernel
  obtain ⟨last, ending, same⟩ := (Option.any_eq_true _ _).mp checked
  exact (shift_keeps_bottom_lines_iff everySprite default (freshTest default) equalWords default last
    (by decide) (by decide +kernel) drawable rfl ending).mpr (of_decide_eq_true same)

/-- When it returns one, the last word of the sheet is replaced by another word. -/
theorem last_word_is_replaced :
    1 ≤ equalWords.numberOfLines ∧
      ¬ KeepsBottomLines { (default : Env) with rand := fun _ => 1 } equalWords := by
  refine ⟨by decide +kernel, ?_⟩
  intro keeps
  exact absurd keeps.last (by decide +kernel)

end TypingTutor
