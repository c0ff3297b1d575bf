/-
Module: TypingTutor.Proofs.KeyboardPolling
Layer: Proofs
Purpose: When `kbc_polling` returns.  Only an empty output buffer uses up one of the ten tries, so it
  returns at the first readable byte or the tenth empty buffer, and a controller that keeps reporting
  errors holds it for ever.
Trusted boundary: none
Main exports: outputEmpty, StopsAt, kbcPolling_of_first, kbcPolling_returns_iff, AnswersInTen,
  answers_in_ten_iff, parity_error_for_ever
-/
import TypingTutor.Core.KeyboardPolling
import Mathlib.Data.Nat.Count
import Mathlib.Data.Nat.Find

namespace TypingTutor

open Loop

/-- The status says without an error that there is nothing to read. -/
def outputEmpty (ports : PortReads) : Bool :=
  match ports.status with
  | none => false
  | some st => !bit 7 st && !bit 6 st && !bit 0 st

/-- A round reads what `kbc_ih` would read, and otherwise only counts an empty buffer. -/
theorem pollBody_eq (ports : PortReads) (poll : Polling) :
    pollBody ports poll =
      match kbcRead ports with
      | some byte => .returned { value := 0, data := byte }
      | none => .again (if outputEmpty ports then { poll with tries := poll.tries - 1 } else poll) := by
  obtain ⟨status, output⟩ := ports
  cases status with
  | none => rfl
  | some st =>
      by_cases parity : bit 7 st = true
      · simp [pollBody, kbcRead, outputEmpty, parity]
      · by_cases timeout : bit 6 st = true
        · simp [pollBody, kbcRead, outputEmpty, parity, timeout]
        · by_cases full : bit 0 st = true
          · cases output <;> simp [pollBody, kbcRead, outputEmpty, parity, timeout, full]
          · simp [pollBody, kbcRead, outputEmpty, parity, timeout, full]

variable (outcomes : Nat → PortReads)

/-- The empty buffers among the first outcomes. -/
def empties (n : Nat) : Nat := Nat.count (fun i => outputEmpty (outcomes i) = true) n

/-- The loop ends with this outcome, unless it has ended before: it is a readable byte or the tenth
empty buffer. -/
def StopsAt (n : Nat) : Prop :=
  (kbcRead (outcomes n)).isSome = true ∨ 10 ≤ empties outcomes (n + 1)

/-- The variables after some rounds that have all gone on. -/
def pollPath (data : UInt8) (n : Nat) : Polling := { tries := 10 - empties outcomes n, data := data }

variable {outcomes} {data : UInt8} {n : Nat}

theorem empties_succ (n : Nat) :
    empties outcomes (n + 1) = empties outcomes n + if outputEmpty (outcomes n) then 1 else 0 :=
  Nat.count_succ _ n

theorem empties_lt (running : ∀ i < n, ¬ StopsAt outcomes i) : empties outcomes n < 10 := by
  cases n with
  | zero => exact Nat.zero_lt_succ 9
  | succ n => exact Nat.lt_of_not_le fun many => running n (Nat.lt_succ_self n) (.inr many)

theorem unread (running : ∀ i < n, ¬ StopsAt outcomes i) : ∀ i < n, kbcRead (outcomes i) = none := by
  intro i before
  exact Option.not_isSome_iff_eq_none.mp fun readable => running i before (.inl readable)

theorem pollBody_path (nothing : kbcRead (outcomes n) = none) :
    pollBody (outcomes n) (pollPath outcomes data n) = .again (pollPath outcomes data (n + 1)) := by
  rw [pollBody_eq, nothing]
  unfold pollPath
  rw [empties_succ]
  cases outputEmpty (outcomes n) with
  | true => rfl
  | false => rfl

/-- Until it stops, the loop has used one try for each empty buffer. -/
theorem follows_pollPath (data : UInt8) (running : ∀ i < n, ¬ StopsAt outcomes i) :
    pollLoop.Follows outcomes (pollPath outcomes data) n := by
  intro i before
  have earlier : ∀ j < i, ¬ StopsAt outcomes j := fun j less => running j (less.trans before)
  constructor
  · exact decide_eq_true (Nat.sub_pos_of_lt (empties_lt earlier))
  · exact pollBody_path (unread running i before)

/-- The answer at the outcome with which the loop ends. -/
def pollAnswer (outcomes : Nat → PortReads) (data : UInt8) (n : Nat) : PollReturn :=
  match kbcRead (outcomes n) with
  | some byte => { value := 0, data := byte }
  | none => { value := 1, data := data }

theorem kbcPolling_of_first (stops : StopsAt outcomes n) (running : ∀ i < n, ¬ StopsAt outcomes i) :
    kbcPolling outcomes (n + 1) data = some (pollAnswer outcomes data n, n + 1) := by
  have goes : pollLoop.condition (pollPath outcomes data n) = true :=
    decide_eq_true (Nat.sub_pos_of_lt (empties_lt running))
  have reached := While.run_of_follows (follows_pollPath data running) 1
  change pollLoop.run outcomes (n + 1) 0 (pollPath outcomes data 0) = _
  rw [reached, pollAnswer]
  cases read : kbcRead (outcomes n) with
  | some byte =>
      apply While.run_returned goes
      change pollBody _ _ = _
      rw [pollBody_eq, read]
  | none =>
      rw [While.run_again goes (pollBody_path read)]
      have tenth : 10 ≤ empties outcomes (n + 1) := by
        rcases stops with readable | many
        · rw [read] at readable
          cases readable
        · exact many
      apply While.run_stop
      exact decide_eq_false (Nat.not_lt_of_le (Nat.sub_eq_zero_of_le tenth).le)

/-- The loop reads the status again as long as no outcome has stopped it. -/
theorem statusReads_gt (running : ∀ i < n, ¬ StopsAt outcomes i) {fuel : Nat}
    {answer : PollReturn × Nat} (returned : kbcPolling outcomes fuel data = some answer) :
    n < answer.2 := by
  apply While.rounds_lt_of_follows (follows_pollPath data running) _ returned
  exact decide_eq_true (Nat.sub_pos_of_lt (empties_lt running))

/-- The first outcome that stops the loop. -/
theorem exists_first (stops : StopsAt outcomes n) :
    ∃ first ≤ n, StopsAt outcomes first ∧ ∀ i < first, ¬ StopsAt outcomes i := by
  classical
  have exist : ∃ n, StopsAt outcomes n := ⟨n, stops⟩
  exact ⟨Nat.find exist, Nat.find_min' exist stops, Nat.find_spec exist,
    fun i before => Nat.find_min exist before⟩

/-- `kbc_polling` returns if and only if there is a byte to read or the output buffer is found empty
ten times. -/
theorem kbcPolling_returns_iff (outcomes : Nat → PortReads) (data : UInt8) :
    (∃ fuel answer, kbcPolling outcomes fuel data = some answer) ↔
      (∃ i, (kbcRead (outcomes i)).isSome = true) ∨ ∃ n, 10 ≤ empties outcomes n := by
  constructor
  · rintro ⟨fuel, answer, returned⟩
    by_contra never
    rw [not_or, not_exists, not_exists] at never
    have running : ∀ i < answer.2, ¬ StopsAt outcomes i := by
      rintro i - (readable | many)
      · exact never.1 i readable
      · exact never.2 (i + 1) many
    exact absurd (statusReads_gt running returned) (Nat.lt_irrefl _)
  · intro ends
    have stops : ∃ n, StopsAt outcomes n := by
      rcases ends with ⟨i, readable⟩ | ⟨n, many⟩
      · exact ⟨i, .inl readable⟩
      · have atMost : empties outcomes n ≤ n := Nat.count_le _
        obtain ⟨before, rfl⟩ := Nat.exists_eq_add_of_lt (by omega : 0 < n)
        rw [Nat.zero_add] at many
        exact ⟨before, .inr many⟩
    obtain ⟨n, stopsAt⟩ := stops
    obtain ⟨first, _, stopsFirst, running⟩ := exists_first stopsAt
    exact ⟨first + 1, _, kbcPolling_of_first stopsFirst running⟩

/-! ### Ten status reads -/

/-- `kbc_polling` returns after at most ten status reads: 0 with a byte that one of them found to be
readable, or 1 if none of them did. -/
def AnswersInTen (outcomes : Nat → PortReads) (data : UInt8) : Prop :=
  ∃ fuel result statusReads,
    kbcPolling outcomes fuel data = some (result, statusReads) ∧ statusReads ≤ 10 ∧
      ((result.value = 0 ∧ ∃ i < statusReads, kbcRead (outcomes i) = some result.data) ∨
        (result.value = 1 ∧ ∀ i < statusReads, kbcRead (outcomes i) = none))

/-- The loop stops within ten outcomes if one of them is readable or all are empty buffers. -/
theorem stopsAt_before_ten_iff :
    (∃ n < 10, StopsAt outcomes n) ↔
      (∃ i < 10, (kbcRead (outcomes i)).isSome = true) ∨ ∀ i < 10, outputEmpty (outcomes i) = true := by
  constructor
  · rintro ⟨n, early, readable | many⟩
    · exact .inl ⟨n, early, readable⟩
    · have atMost : empties outcomes (n + 1) ≤ n + 1 := Nat.count_le _
      obtain rfl : n = 9 := by omega
      exact .inr (Nat.count_iff_forall.mp (Nat.le_antisymm atMost many))
  · rintro (⟨i, early, readable⟩ | allEmpty)
    · exact ⟨i, early, .inl readable⟩
    · exact ⟨9, by decide, .inr (Nat.count_iff_forall.mpr allEmpty).ge⟩

/-- Polling is bounded exactly when one of the first ten outcomes is a readable byte or all ten are
empty buffers: a failed read and a parity or timeout error use up no try. -/
theorem answers_in_ten_iff (outcomes : Nat → PortReads) (data : UInt8) :
    AnswersInTen outcomes data ↔
      (∃ i < 10, (kbcRead (outcomes i)).isSome = true) ∨
        ∀ i < 10, outputEmpty (outcomes i) = true := by
  rw [← stopsAt_before_ten_iff]
  constructor
  · rintro ⟨fuel, result, statusReads, returned, few, _⟩
    by_contra never
    have running : ∀ i < 10, ¬ StopsAt outcomes i := by
      intro i early stops
      exact never ⟨i, early, stops⟩
    have many : 10 < statusReads := statusReads_gt running returned
    omega
  · rintro ⟨n, early, stops⟩
    obtain ⟨first, le, stopsFirst, running⟩ := exists_first stops
    refine ⟨first + 1, _, first + 1, kbcPolling_of_first stopsFirst running, by omega, ?_⟩
    unfold pollAnswer
    cases read : kbcRead (outcomes first) with
    | some byte => exact .inl ⟨rfl, first, Nat.lt_succ_self first, read⟩
    | none =>
        refine .inr ⟨rfl, ?_⟩
        intro i within
        rcases Nat.lt_succ_iff_lt_or_eq.mp within with before | rfl
        · exact unread running i before
        · exact read

/-- A controller that reports a parity error at every status read. -/
def parityErrors : Nat → PortReads := fun _ => { status := some 0x80, output := none }

theorem parity_error_for_ever : ¬ AnswersInTen parityErrors 0 := by
  rintro ⟨fuel, result, statusReads, returned, few, _⟩
  have never : ∀ i, ¬ StopsAt parityErrors i := by
    rintro i (readable | many)
    · cases readable
    · have none : empties parityErrors (i + 1) = 0 :=
        Nat.count_of_forall_not fun _ _ => Bool.false_ne_true
      omega
  have many : 10 < statusReads := statusReads_gt (fun i _ => never i) returned
  omega

end TypingTutor
