/-
Module: TypingTutor.Lib.StableTop
Layer: Lib
Purpose: The best `k` elements of a list by a key, older elements first among equals, and the
  incremental way to keep them: insert each new element below everything that is at least as good and
  cut the list at `k`.
Imports: Mathlib's `List.insertionSort` and `List.orderedInsert`
Trusted boundary: none
Main exports: rank, insertBelow, top, insertBelow_eq_append, insertBelow_of_pairwise, top_concat,
  insertBelow_map
-/
import Mathlib.Data.List.Sort
import Mathlib.Order.Defs.LinearOrder

namespace StableTop

variable {α β κ : Type} [LinearOrder κ] (key : α → κ)

/-- All elements, best first; among equals the one that came first stays first. -/
def rank (elements : List α) : List α :=
  elements.insertionSort fun first second => key second ≤ key first

/-- Insert a newcomer right below the leading elements that are at least as good. -/
def insertBelow (newcomer : α) (elements : List α) : List α :=
  elements.orderedInsert (fun first second => key second < key first) newcomer

/-- The best `size` elements. -/
def top (size : Nat) (elements : List α) : List α := (rank key elements).take size

/-- Nothing needs to move when the elements are already ranked. -/
theorem rank_of_pairwise {elements : List α}
    (ranked : elements.Pairwise fun first second => key second ≤ key first) :
    rank key elements = elements :=
  ranked.insertionSort_eq

/-- Inserting an older element and inserting a newer one commute: an older element goes above its
equals, a newer one below them. -/
theorem orderedInsert_insertBelow (older newer : α) (elements : List α) :
    (insertBelow key newer elements).orderedInsert
        (fun first second => key second ≤ key first) older =
      insertBelow key newer
        (elements.orderedInsert (fun first second => key second ≤ key first) older) := by
  unfold insertBelow
  induction elements with
  | nil =>
      by_cases better : key newer ≤ key older
      · simp [better, not_lt.mpr better]
      · simp [better, not_le.mp better]
  | cons head tail inductionHypothesis =>
      by_cases below : key head < key newer
      · by_cases atLeast : key head ≤ key older
        · by_cases better : key newer ≤ key older
          · simp [below, atLeast, better, not_lt.mpr better]
          · simp [below, atLeast, better, not_le.mp better]
        · have better : ¬ key newer ≤ key older := fun le => atLeast (below.le.trans le)
          simp [below, atLeast, better]
      · by_cases atLeast : key head ≤ key older
        · have notBelow : ¬ key older < key newer :=
            not_lt.mpr ((not_lt.mp below).trans atLeast)
          simp [below, atLeast, notBelow]
        · simp [below, atLeast, inductionHypothesis]

/-- Ranking one more, newer, element is inserting it below its equals. -/
theorem rank_concat (elements : List α) (newcomer : α) :
    rank key (elements ++ [newcomer]) = insertBelow key newcomer (rank key elements) := by
  induction elements with
  | nil => rfl
  | cons head tail inductionHypothesis =>
      calc rank key (head :: tail ++ [newcomer])
          = (rank key (tail ++ [newcomer])).orderedInsert
              (fun first second => key second ≤ key first) head := rfl
        _ = (insertBelow key newcomer (rank key tail)).orderedInsert
              (fun first second => key second ≤ key first) head := by rw [inductionHypothesis]
        _ = insertBelow key newcomer (rank key (head :: tail)) :=
              orderedInsert_insertBelow key head newcomer (rank key tail)

/-- Where the newcomer goes: below the first `position` elements, above the next one. -/
theorem insertBelow_eq_append (newcomer : α) (elements : List α) (position : Nat)
    (above : ∀ element ∈ elements.take position, key newcomer ≤ key element)
    (next : ∀ element ∈ (elements.drop position).head?, key element < key newcomer) :
    insertBelow key newcomer elements =
      elements.take position ++ newcomer :: elements.drop position := by
  induction elements generalizing position with
  | nil => simp [insertBelow]
  | cons head tail inductionHypothesis =>
      cases position with
      | zero =>
          have below : key head < key newcomer := next head (by simp)
          simp [insertBelow, below]
      | succ position =>
          have notBelow : ¬ key head < key newcomer := not_lt.mpr (above head (by simp))
          have tailInserted := inductionHypothesis position
            (fun element member => above element (by simp [member])) (by simpa using next)
          rw [insertBelow] at tailInserted
          simp [insertBelow, notBelow, tailInserted]

/-- Into a ranked list: below everything that is at least as good, above everything else. -/
theorem insertBelow_of_pairwise (newcomer : α) {elements : List α}
    (ranked : elements.Pairwise fun first second => key second ≤ key first) :
    insertBelow key newcomer elements =
      elements.filter (fun element => key newcomer ≤ key element) ++
        newcomer :: elements.filter (fun element => key element < key newcomer) := by
  induction elements with
  | nil => rfl
  | cons head tail inductionHypothesis =>
      obtain ⟨worse, rankedTail⟩ := List.pairwise_cons.mp ranked
      by_cases below : key head < key newcomer
      · have tailBelow : ∀ element ∈ tail, key element < key newcomer :=
          fun element member => (worse element member).trans_lt below
        have allBelow : tail.filter (fun element => key element < key newcomer) = tail :=
          List.filter_eq_self.mpr fun element member => decide_eq_true (tailBelow element member)
        have noneAbove : tail.filter (fun element => key newcomer ≤ key element) = [] :=
          List.filter_eq_nil_iff.mpr fun element member =>
            by simp [tailBelow element member]
        simp [insertBelow, below, not_le.mpr below, allBelow, noneAbove]
      · have tailInserted := inductionHypothesis rankedTail
        rw [insertBelow] at tailInserted
        simp [insertBelow, below, not_lt.mp below, tailInserted]

/-- A ranked list stays ranked. -/
theorem pairwise_insertBelow (newcomer : α) {elements : List α}
    (ranked : elements.Pairwise fun first second => key second ≤ key first) :
    (insertBelow key newcomer elements).Pairwise fun first second => key second ≤ key first := by
  rw [← rank_of_pairwise key ranked, ← rank_concat]
  exact List.pairwise_insertionSort _ _

/-- Nothing is lost by an insertion but the last element when the list is cut to its old length. -/
theorem dropLast_sublist_take_insertBelow (newcomer : α) (elements : List α) :
    elements.dropLast.Sublist ((insertBelow key newcomer elements).take elements.length) := by
  have inserted : elements.Sublist (insertBelow key newcomer elements) :=
    List.sublist_orderedInsert _ _
  have cut : (insertBelow key newcomer elements).take elements.length =
      (insertBelow key newcomer elements).dropLast := by
    rw [List.dropLast_eq_take, insertBelow, List.orderedInsert_length, Nat.add_sub_cancel]
  have shorter := inserted.reverse.tail.reverse
  rw [List.tail_reverse, List.tail_reverse, List.reverse_reverse, List.reverse_reverse] at shorter
  rw [cut]
  exact shorter

/-- Cutting the list before an insertion does not change the best `size` elements after it. -/
theorem take_insertBelow (size : Nat) (newcomer : α) (elements : List α) :
    (insertBelow key newcomer (elements.take size)).take size =
      (insertBelow key newcomer elements).take size := by
  unfold insertBelow
  induction elements generalizing size with
  | nil => simp
  | cons head tail inductionHypothesis =>
      cases size with
      | zero => simp
      | succ size =>
          by_cases below : key head < key newcomer
          · cases size with
            | zero => simp [below]
            | succ size => simp [below, List.take_take]
          · simp [below, inductionHypothesis]

/-- The incremental step. -/
theorem top_concat (size : Nat) (elements : List α) (newcomer : α) :
    top key size (elements ++ [newcomer]) =
      (insertBelow key newcomer (top key size elements)).take size := by
  rw [top, rank_concat, ← take_insertBelow, top]

/-- A map that keeps keys commutes with insertion. -/
theorem insertBelow_map {image : α → β} {imageKey : β → κ}
    (sameKey : ∀ element, imageKey (image element) = key element) (newcomer : α)
    (elements : List α) :
    (insertBelow key newcomer elements).map image =
      insertBelow imageKey (image newcomer) (elements.map image) := by
  unfold insertBelow
  induction elements with
  | nil => simp
  | cons head tail inductionHypothesis =>
      by_cases below : key head < key newcomer
      · simp [below, sameKey]
      · simp [below, sameKey, inductionHypothesis]

end StableTop
