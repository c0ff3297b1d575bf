/-
Module: TypingTutor.Lib.Compaction
Layer: Lib
Purpose: Loops that rewrite an array in place.  One loop moves the items of two classes to the front,
  first class before second class, each in its old order; the other overwrites a range of indices.
  Both are given as the list they leave behind.  What is said about part of the items survives a
  change of the other parts.
Trusted boundary: none
Main exports: Pack, packStep, pack_spec, map_modify_of_keeps, forall_mem_of_map_eq, foldl_set_range'
-/
import Mathlib.Data.List.Basic

namespace Compaction

variable {α : Type}

/-! ### Packing two classes to the front -/

/-- The array, and how many items of each class are at its front. -/
structure Pack (α : Type) where
  items : List α
  firsts : Nat
  seconds : Nat

/-- `items[target] = items[source]`, with a filler for a source outside the array. -/
def copy (filler : α) (items : List α) (target source : Nat) : List α :=
  items.set target (items.getD source filler)

/-- One round: an item of the first class goes behind the firsts, an item of the second class behind
both.  The second test looks at the array after the first copy. -/
def packStep (isFirst isSecond : α → Bool) (filler : α) (pack : Pack α) (i : Nat) : Pack α :=
  let moved :=
    if (pack.items[i]?).any isFirst then
      { pack with
        items := copy filler pack.items pack.firsts i
        firsts := pack.firsts + 1 }
    else pack
  if (moved.items[i]?).any isSecond then
    { moved with
      items := copy filler moved.items (moved.firsts + moved.seconds) i
      seconds := moved.seconds + 1 }
  else moved

/-- What the first `k` rounds leave behind: the two classes at the front, and the rest of the array
from `k` on as it was. -/
structure Packed (isFirst isSecond : α → Bool) (items : List α) (k : Nat) (pack : Pack α) : Prop where
  firsts : pack.firsts = ((items.take k).filter isFirst).length
  seconds : pack.seconds = ((items.take k).filter isSecond).length
  front : pack.items.take (pack.firsts + pack.seconds) =
    (items.take k).filter isFirst ++ (items.take k).filter isSecond
  rest : pack.items.drop k = items.drop k
  fits : pack.firsts + pack.seconds ≤ k

/-- Writing behind the front extends it, and does not touch what is still to be read. -/
theorem take_set_append {items front : List α} {index : Nat} (item : α)
    (filled : items.take index = front) (inside : index < items.length) :
    (items.set index item).take (index + 1) = front ++ [item] := by
  have bound : index < (items.set index item).length := by
    rw [List.length_set]
    exact inside
  rw [List.take_succ_eq_append_getElem bound, List.getElem_set_self,
    List.take_set_of_le (Nat.le_refl _), filled]

variable {isFirst isSecond : α → Bool} {filler : α} {items : List α}

section Rounds

variable {pack : Pack α} {k : Nat}

/-- The loop reads the item that stood there at the start. -/
theorem Packed.reading (packed : Packed isFirst isSecond items k pack) (inside : k < items.length) :
    pack.items[k]? = some items[k] := by
  have heads := congrArg List.head? packed.rest
  rw [List.head?_drop, List.head?_drop, List.getElem?_eq_getElem inside] at heads
  exact heads

theorem Packed.rest_succ (packed : Packed isFirst isSecond items k pack) :
    pack.items.drop (k + 1) = items.drop (k + 1) := by
  have tails := congrArg List.tail packed.rest
  rwa [List.tail_drop, List.tail_drop] at tails

/-- Writing at an index up to `k` keeps the part behind `k`. -/
theorem Packed.rest_set (packed : Packed isFirst isSecond items k pack) {index : Nat} (item : α)
    (before : index ≤ k) : (pack.items.set index item).drop (k + 1) = items.drop (k + 1) := by
  rw [List.drop_set_of_lt (Nat.lt_succ_of_le before), packed.rest_succ]

theorem Packed.lt_length (packed : Packed isFirst isSecond items k pack)
    (inside : k < items.length) : k < pack.items.length := by
  obtain ⟨bound, -⟩ := List.getElem?_eq_some_iff.mp (packed.reading inside)
  exact bound

theorem Packed.value (packed : Packed isFirst isSecond items k pack) (inside : k < items.length) :
    pack.items.getD k filler = items[k] := by
  rw [List.getD_eq_getElem?_getD, packed.reading inside]
  rfl

/-- One more item in front of the filter. -/
theorem filter_take_succ (keep : α → Bool) (inside : k < items.length) :
    (items.take (k + 1)).filter keep =
      (items.take k).filter keep ++ if keep items[k] then [items[k]] else [] := by
  rw [List.take_succ_eq_append_getElem inside, List.filter_append, List.filter_singleton]
  cases keep items[k] with
  | true => rfl
  | false => rfl

/-- An item of the first class, when no item of the second class has been seen yet. -/
theorem Packed.first (packed : Packed isFirst isSecond items k pack) (inside : k < items.length)
    (first : isFirst items[k] = true) (notSecond : isSecond items[k] = false)
    (none : (items.take k).filter isSecond = []) :
    Packed isFirst isSecond items (k + 1) (packStep isFirst isSecond filler pack k) := by
  have fits := packed.fits
  have size := packed.lt_length inside
  have reading := packed.reading inside
  have noSeconds : pack.seconds = 0 := by
    rw [packed.seconds, none]
    rfl
  have front := packed.front
  rw [noSeconds, Nat.add_zero, none, List.append_nil] at front
  have readBack : ((pack.items.set pack.firsts items[k])[k]?).any isSecond = false := by
    by_cases same : pack.firsts = k
    · rw [same, List.getElem?_set_self size]
      exact notSecond
    · rw [List.getElem?_set_ne same, reading]
      exact notSecond
  have stepped : packStep isFirst isSecond filler pack k =
      { pack with
        items := pack.items.set pack.firsts items[k]
        firsts := pack.firsts + 1 } := by
    simp only [packStep, reading, Option.any_some, first, if_true, copy, packed.value inside, readBack,
      Bool.false_eq_true, if_false]
  rw [stepped]
  constructor
  · rw [filter_take_succ isFirst inside, List.length_append, packed.firsts, if_pos first]
    rfl
  · rw [filter_take_succ isSecond inside, notSecond, packed.seconds]
    simp
  · change (pack.items.set pack.firsts items[k]).take (pack.firsts + 1 + pack.seconds) = _
    rw [noSeconds, Nat.add_zero, take_set_append items[k] front (by omega),
      filter_take_succ isFirst inside, filter_take_succ isSecond inside, none, if_pos first, notSecond]
    simp
  · exact packed.rest_set items[k] (by omega)
  · change pack.firsts + 1 + pack.seconds ≤ k + 1
    omega

/-- An item of the second class. -/
theorem Packed.second (packed : Packed isFirst isSecond items k pack) (inside : k < items.length)
    (notFirst : isFirst items[k] = false) (second : isSecond items[k] = true) :
    Packed isFirst isSecond items (k + 1) (packStep isFirst isSecond filler pack k) := by
  have fits := packed.fits
  have size := packed.lt_length inside
  have stepped : packStep isFirst isSecond filler pack k =
      { pack with
        items := pack.items.set (pack.firsts + pack.seconds) items[k]
        seconds := pack.seconds + 1 } := by
    simp only [packStep, packed.reading inside, Option.any_some, notFirst, second, if_true, copy,
      packed.value inside, Bool.false_eq_true, if_false]
  rw [stepped]
  constructor
  · rw [filter_take_succ isFirst inside, notFirst, packed.firsts]
    simp
  · rw [filter_take_succ isSecond inside, List.length_append, packed.seconds, if_pos second]
    rfl
  · change (pack.items.set _ items[k]).take (pack.firsts + (pack.seconds + 1)) = _
    rw [← Nat.add_assoc, take_set_append items[k] packed.front (by omega),
      filter_take_succ isFirst inside, filter_take_succ isSecond inside, notFirst, if_pos second]
    simp
  · exact packed.rest_set items[k] fits
  · change pack.firsts + (pack.seconds + 1) ≤ k + 1
    omega

/-- An item of neither class. -/
theorem Packed.neither (packed : Packed isFirst isSecond items k pack) (inside : k < items.length)
    (notFirst : isFirst items[k] = false) (notSecond : isSecond items[k] = false) :
    Packed isFirst isSecond items (k + 1) (packStep isFirst isSecond filler pack k) := by
  have stepped : packStep isFirst isSecond filler pack k = pack := by
    simp only [packStep, packed.reading inside, Option.any_some, notFirst, notSecond,
      Bool.false_eq_true, if_false]
  have firsts : (items.take (k + 1)).filter isFirst = (items.take k).filter isFirst := by
    rw [filter_take_succ isFirst inside, notFirst]
    simp
  have seconds : (items.take (k + 1)).filter isSecond = (items.take k).filter isSecond := by
    rw [filter_take_succ isSecond inside, notSecond]
    simp
  rw [stepped]
  constructor
  · rw [firsts, packed.firsts]
  · rw [seconds, packed.seconds]
  · rw [firsts, seconds, packed.front]
  · exact packed.rest_succ
  · exact Nat.le_succ_of_le packed.fits

theorem packStep_packed (disjoint : ∀ item, isFirst item = true → isSecond item = false)
    (inside : k < items.length)
    (ordered : (items.take (k + 1)).Pairwise fun earlier later =>
      isSecond earlier = true → isFirst later = false)
    (packed : Packed isFirst isSecond items k pack) :
    Packed isFirst isSecond items (k + 1) (packStep isFirst isSecond filler pack k) := by
  cases first : isFirst items[k] with
  | true =>
      apply packed.first inside first (disjoint items[k] first)
      rw [List.filter_eq_nil_iff]
      intro earlier member second
      rw [List.take_succ_eq_append_getElem inside, List.pairwise_append] at ordered
      have later := ordered.2.2 earlier member items[k] (List.mem_singleton.mpr rfl) second
      rw [first] at later
      cases later
  | false =>
      cases second : isSecond items[k] with
      | true => exact packed.second inside first second
      | false => exact packed.neither inside first second

end Rounds

/-- The loop over the first `count` items, when no item of the first class comes behind one of the
second class. -/
theorem pack_spec (disjoint : ∀ item, isFirst item = true → isSecond item = false) {count : Nat}
    (inside : count ≤ items.length)
    (ordered : (items.take count).Pairwise fun earlier later =>
      isSecond earlier = true → isFirst later = false) :
    Packed isFirst isSecond items count
      ((List.range count).foldl (packStep isFirst isSecond filler) ⟨items, 0, 0⟩) := by
  induction count with
  | zero => exact ⟨rfl, rfl, rfl, rfl, Nat.le_refl 0⟩
  | succ count inductionHypothesis =>
      rw [List.range_succ, List.foldl_append]
      apply packStep_packed disjoint inside ordered
      apply inductionHypothesis (Nat.le_of_succ_le inside)
      exact ordered.sublist (List.take_sublist_take_left (Nat.le_succ count))

/-! ### Rewriting one item -/

/-- A change that keeps part of every item keeps that part of the whole array. -/
theorem map_modify_of_keeps {ω : Type} {part : α → ω} {change : α → α}
    (keeps : ∀ item, part (change item) = part item) (items : List α) (index : Nat) :
    (items.modify index change).map part = items.map part := by
  apply List.ext_getElem?
  intro i
  rw [List.getElem?_map, List.getElem?_map, List.getElem?_modify]
  cases items[i]? with
  | none => rfl
  | some item =>
      by_cases here : index = i
      · simp [here, keeps]
      · simp [here]

/-- The array up to the rewritten item. -/
theorem take_succ_modify {change : α → α} {items : List α} {index : Nat}
    (inside : index < items.length) :
    (items.modify index change).take (index + 1) = items.take index ++ [change items[index]] := by
  have bound : index < (items.modify index change).length := by
    rw [List.length_modify]
    exact inside
  rw [List.take_succ_eq_append_getElem bound, List.getElem_modify_eq, List.take_modify,
    List.modify_eq_self (List.length_take_le index items)]

/-- What is said about part of every item carries over to items with the same parts. -/
theorem forall_mem_of_map_eq {ω : Type} {part : α → ω} {Says : ω → Prop} {items others : List α}
    (same : others.map part = items.map part) (said : ∀ item ∈ items, Says (part item)) :
    ∀ item ∈ others, Says (part item) := by
  intro item member
  have found : part item ∈ others.map part := List.mem_map_of_mem member
  rw [same] at found
  obtain ⟨origin, there, equal⟩ := List.mem_map.mp found
  rw [← equal]
  exact said origin there

/-- An item with an index in a range is in that part of the array. -/
theorem mem_drop_take {items : List α} {item : α} {start index finish : Nat}
    (here : items[index]? = some item) (low : start ≤ index) (high : index < finish) :
    item ∈ (items.take finish).drop start := by
  have position : start + (index - start) = index := Nat.add_sub_of_le low
  apply @List.mem_of_getElem? _ _ (index - start)
  rw [List.getElem?_drop, position, List.getElem?_take_of_lt high]
  exact here

/-! ### Overwriting a range -/

/-- Writing `value i` at every index of a range. -/
theorem foldl_set_range' (value : Nat → α) (count : Nat) :
    ∀ (items : List α) (start : Nat), start + count ≤ items.length →
      (List.range' start count).foldl (fun items i => items.set i (value i)) items =
        items.take start ++ (List.range' start count).map value ++ items.drop (start + count) := by
  induction count with
  | zero =>
      intro items start _
      simp
  | succ count inductionHypothesis =>
      intro items start fits
      have inside : start < items.length := by omega
      rw [List.range'_succ, List.foldl_cons, inductionHypothesis _ _ (by rw [List.length_set]; omega),
        take_set_append (value start) rfl inside, List.drop_set_of_lt (by omega), List.map_cons,
        List.append_assoc, List.append_assoc, List.singleton_append, List.append_assoc,
        List.cons_append, Nat.add_right_comm, Nat.add_assoc]

end Compaction
