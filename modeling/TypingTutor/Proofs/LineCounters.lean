/-
Module: TypingTutor.Proofs.LineCounters
Layer: Proofs
Purpose: The lines that the gesture recogniser accepts.  It compares 8-bit counters: they are the
  totals of the packets modulo 256, and on the second line the counter of the descent is compared
  without its sign.  For both lines the totals that pass the comparison and are not of the required
  size and slope are named exactly.
Trusted boundary: none
Main exports: Drawing, handle, ProperLines, CountersFaithful, proper_lines_iff, shallow_descent
-/
import TypingTutor.Core.LineGesture
import TypingTutor.Lib.Runs
import Mathlib.Algebra.Ring.Int.Defs

namespace TypingTutor

open Runs

/-! ### Totals -/

/-- The recogniser with the packets handled since the line being drawn was begun. -/
structure Drawing where
  gesture : LineGesture
  line : List Packet

def totalX (line : List Packet) : Int := (line.map Packet.deltaX).sum

def totalY (line : List Packet) : Int := (line.map Packet.deltaY).sum

/-- The states in which a line is drawn. -/
def LineState.draws : LineState → Bool
  | .stateFirstLine | .stateSecondLine => true
  | _ => false

/-- The packets of the line after one more packet. -/
def Drawing.continued (drawing : Drawing) (pp : Packet) : List Packet :=
  if drawing.gesture.state.draws then drawing.line ++ [pp] else []

/-- One packet. -/
def handle (xLen tolerance : UInt8) (drawing : Drawing) (pp : Packet) : Except Fault Drawing :=
  .ok { gesture := processPacket xLen tolerance pp drawing.gesture
        line := drawing.continued pp }

/-- What an accepted line has to be: the first one rises by more than it goes to the right, the
second one falls by more, and both go far enough to the right. -/
def ProperLines (xLen tolerance : UInt8) (drawing : Drawing) (pp : Packet) : Prop :=
  let after := (processPacket xLen tolerance pp drawing.gesture).state
  let line := drawing.continued pp
  (drawing.gesture.state = .stateFirstLine → after = .stateEndFirstLine →
    (xLen.toNat : Int) ≤ totalX line ∧ totalX line < totalY line) ∧
  (drawing.gesture.state = .stateSecondLine → after = .stateEndSecondLine →
    (xLen.toNat : Int) ≤ totalX line ∧ totalX line < -totalY line)

/-- The packet continues the first line. -/
def continuesFirst (tolerance : UInt8) (pp : Packet) : Bool :=
  (goesForward tolerance pp.deltaX && pp.lb && !pp.rb && !pp.mb) && goesForward tolerance pp.deltaY

/-- The packet continues the second line. -/
def continuesSecond (tolerance : UInt8) (pp : Packet) : Bool :=
  (goesForward tolerance pp.deltaX && pp.rb && !pp.lb && !pp.mb) && goesDown tolerance pp.deltaY

/-- On the first line the remainders of the totals only pass the comparison when the totals have not
gone below zero and the one to the right has not wrapped more often than the rise. -/
def FirstFaithful (xLen : UInt8) (right rise : Int) : Prop :=
  xLen.toNat ≤ right % 256 → right % 256 + 1 < rise % 256 →
    0 ≤ right / 256 ∧ right / 256 ≤ rise / 256

/-- On the second line they pass it when the remainders of the total to the right and of the descent
add up to less than 255, and then the descent must have wrapped more often, or as often with a
larger remainder. -/
def SecondFaithful (xLen : UInt8) (right descent : Int) : Prop :=
  xLen.toNat ≤ right % 256 → 0 < descent % 256 → right % 256 + descent % 256 < 255 →
    0 ≤ right / 256 ∧ (right / 256 < descent / 256 ∨
      (right / 256 = descent / 256 ∧ right % 256 < descent % 256))

/-- At every packet that continues a line the totals are told by their remainders. -/
def CountersFaithful (xLen tolerance : UInt8) (drawing : Drawing) (pp : Packet) : Prop :=
  let line := drawing.continued pp
  (drawing.gesture.state = .stateFirstLine → continuesFirst tolerance pp = true →
    FirstFaithful xLen (totalX line) (totalY line)) ∧
  (drawing.gesture.state = .stateSecondLine → continuesSecond tolerance pp = true →
    SecondFaithful xLen (totalX line) (-totalY line))

/-! ### Counters -/

theorem totalX_append (line : List Packet) (pp : Packet) :
    totalX (line ++ [pp]) = totalX line + pp.deltaX := by
  simp [totalX]

theorem totalY_append (line : List Packet) (pp : Packet) :
    totalY (line ++ [pp]) = totalY line + pp.deltaY := by
  simp [totalY]

/-- While a line is drawn, the counters hold the totals. -/
def Counted (drawing : Drawing) : Prop :=
  drawing.gesture.state.draws = true →
    drawing.gesture.absXLen = UInt8.ofInt (totalX drawing.line) ∧
      drawing.gesture.absYLen = UInt8.ofInt (totalY drawing.line)

/-- A counter that holds a total has its remainder. -/
theorem toNat_ofInt (total : Int) : ((UInt8.ofInt total).toNat : Int) = total % 256 := by
  have range : 0 ≤ total % 256 ∧ total % 256 < 256 := by omega
  simp only [UInt8.ofInt, UInt8.toNat_ofNat']
  omega

theorem addDeltas_counted {drawing : Drawing} (counted : Counted drawing)
    (draws : drawing.gesture.state.draws = true) (pp : Packet) :
    (addDeltas pp drawing.gesture).absXLen = UInt8.ofInt (totalX (drawing.line ++ [pp])) ∧
      (addDeltas pp drawing.gesture).absYLen = UInt8.ofInt (totalY (drawing.line ++ [pp])) := by
  obtain ⟨countedX, countedY⟩ := counted draws
  rw [totalX_append, totalY_append, UInt8.ofInt_add, UInt8.ofInt_add, ← countedX, ← countedY]
  exact ⟨rfl, rfl⟩

/-- The comparison of the counters in terms of the totals. -/
theorem lineDrawn_addDeltas {drawing : Drawing} (counted : Counted drawing)
    (draws : drawing.gesture.state.draws = true) (xLen : UInt8) (pp : Packet) :
    lineDrawn xLen (addDeltas pp drawing.gesture) = true ↔
      (xLen.toNat : Int) ≤ totalX (drawing.continued pp) % 256 ∧
        totalX (drawing.continued pp) % 256 + 1 < totalY (drawing.continued pp) % 256 := by
  obtain ⟨holdsX, holdsY⟩ := addDeltas_counted counted draws pp
  have line : drawing.continued pp = drawing.line ++ [pp] := if_pos draws
  rw [line, ← toNat_ofInt, ← toNat_ofInt, ← holdsX, ← holdsY]
  simp only [lineDrawn, Bool.and_eq_true, decide_eq_true_eq, UInt8.le_iff_toNat_le]
  omega

/-- A packet keeps the counters in step with the totals. -/
theorem counted_handle (xLen tolerance : UInt8) {drawing next : Drawing} {pp : Packet}
    (counted : Counted drawing) (handled : handle xLen tolerance drawing pp = .ok next) :
    Counted next := by
  obtain rfl := Except.ok.inj handled
  intro draws
  have sums := fun drawn => addDeltas_counted counted drawn pp
  cases state : drawing.gesture.state with
  | stateFirstLine | stateSecondLine =>
      have drawn : drawing.gesture.state.draws = true := by rw [state]; rfl
      have line : drawing.continued pp = drawing.line ++ [pp] := if_pos drawn
      simp only [processPacket, state] at draws ⊢
      rw [line]
      split_ifs at draws ⊢
      all_goals first
        | exact sums drawn
        | cases draws
  | stateInit | stateVertex =>
      have line : drawing.continued pp = [] := by simp [Drawing.continued, state, LineState.draws]
      simp only [processPacket, state] at draws ⊢
      rw [line]
      split_ifs at draws ⊢
      all_goals exact ⟨rfl, rfl⟩
  | stateEnd =>
      simp only [processPacket, state] at draws
      cases draws
  | stateZero | stateEndFirstLine | stateEndSecondLine =>
      simp only [processPacket, state] at draws
      split_ifs at draws
      all_goals simp [LineState.draws, state] at draws

/-! ### Acceptance -/

theorem endsFirst_iff {xLen tolerance : UInt8} {drawing : Drawing} {pp : Packet}
    (state : drawing.gesture.state = .stateFirstLine) :
    (processPacket xLen tolerance pp drawing.gesture).state = .stateEndFirstLine ↔
      continuesFirst tolerance pp = true ∧ lineDrawn xLen (addDeltas pp drawing.gesture) = true := by
  have stays : (addDeltas pp drawing.gesture).state ≠ .stateEndFirstLine := by
    simp [addDeltas, state]
  simp only [processPacket, state, continuesFirst]
  split_ifs
  all_goals simp_all

theorem endsSecond_iff {xLen tolerance : UInt8} {drawing : Drawing} {pp : Packet}
    (state : drawing.gesture.state = .stateSecondLine) :
    (processPacket xLen tolerance pp drawing.gesture).state = .stateEndSecondLine ↔
      continuesSecond tolerance pp = true ∧ lineDrawn xLen (addDeltas pp drawing.gesture) = true := by
  have stays : (addDeltas pp drawing.gesture).state ≠ .stateEndSecondLine := by
    simp [addDeltas, state]
  simp only [processPacket, state, continuesSecond]
  split_ifs
  all_goals simp_all

/-- The totals of an accepted first line. -/
theorem firstFaithful_iff (xLen : UInt8) (right rise : Int) :
    FirstFaithful xLen right rise ↔
      ((xLen.toNat : Int) ≤ right % 256 ∧ right % 256 + 1 < rise % 256 →
        (xLen.toNat : Int) ≤ right ∧ right < rise) := by
  have byte := xLen.toNat_lt
  unfold FirstFaithful
  omega

/-- The totals of an accepted second line. -/
theorem secondFaithful_iff (xLen : UInt8) (right descent : Int) :
    SecondFaithful xLen right descent ↔
      ((xLen.toNat : Int) ≤ right % 256 ∧ right % 256 + 1 < -descent % 256 →
        (xLen.toNat : Int) ≤ right ∧ right < descent) := by
  have byte := xLen.toNat_lt
  unfold SecondFaithful
  omega

theorem properLines_iff {xLen tolerance : UInt8} {drawing : Drawing} (counted : Counted drawing)
    (pp : Packet) :
    ProperLines xLen tolerance drawing pp ↔ CountersFaithful xLen tolerance drawing pp := by
  unfold ProperLines CountersFaithful
  apply and_congr
  · apply forall_congr'
    intro state
    have draws : drawing.gesture.state.draws = true := by rw [state]; rfl
    rw [endsFirst_iff state, lineDrawn_addDeltas counted draws, firstFaithful_iff]
    exact and_imp
  · apply forall_congr'
    intro state
    have draws : drawing.gesture.state.draws = true := by rw [state]; rfl
    rw [endsSecond_iff state, lineDrawn_addDeltas counted draws, secondFaithful_iff, Int.neg_neg]
    exact and_imp

/-- The recogniser at rest. -/
def Drawing.start : Drawing := { gesture := .start, line := [] }

/-- All lines accepted in a run are proper exactly when the counters are faithful at every packet.
-/
theorem proper_lines_iff (xLen tolerance : UInt8) (packets : List Packet) :
    Along (handle xLen tolerance) (ProperLines xLen tolerance) .start packets ↔
      Along (handle xLen tolerance) (CountersFaithful xLen tolerance) .start packets := by
  have initially : Counted .start := by
    intro draws
    cases draws
  have kept : ∀ (guard : Drawing → Packet → Prop) drawing pp next, Counted drawing →
      guard drawing pp → handle xLen tolerance drawing pp = .ok next → Counted next := by
    intro guard drawing pp next counted _ handled
    exact counted_handle xLen tolerance counted handled
  constructor
  · apply along_of_along (kept _) _ initially
    intro drawing pp counted
    exact (properLines_iff counted pp).mp
  · apply along_of_along (kept _) _ initially
    intro drawing pp counted
    exact (properLines_iff counted pp).mpr

/-- A packet with the given buttons and displacements. -/
def drag (lb rb : Bool) (deltaX deltaY : Int) : Packet :=
  { bytes := (0, 0, 0), rb := rb, mb := false, lb := lb, deltaX := deltaX, deltaY := deltaY
    xOv := false, yOv := false }

/-- A steep first line, and a second one that falls by 5 over 10. -/
def shallowV : List Packet :=
  [drag false false 0 0, drag true false 0 0, drag true false 10 20, drag false false 0 0,
    drag false true 0 0, drag false true 10 (-5)]

theorem shallow_descent :
    ¬ ∀ (xLen tolerance : UInt8) (packets : List Packet),
      Along (handle xLen tolerance) (ProperLines xLen tolerance) .start packets := by
  intro proper
  have reached : shallowV.dropLast.foldlM (handle 10 0) .start =
      .ok { gesture := { state := .stateSecondLine, absXLen := 0, absYLen := 0 }, line := [] } := rfl
  have lines : shallowV = shallowV.dropLast ++ [drag false true 10 (-5)] := rfl
  have last := guard_of_along (lines ▸ proper 10 0 shallowV) reached
  exact absurd (last.2 rfl rfl).2 (by decide)

end TypingTutor
