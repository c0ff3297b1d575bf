/-
Module: TypingTutor.Lib.Loop
Layer: Lib
Purpose: Functions that consist of a `while` loop, read an input in every round and may go on for
  ever.  A loop runs on fuel, which only bounds the rounds that are looked at: it cannot change what
  is returned.  A loop is followed along the path of its states until it returns.
Trusted boundary: none
Main exports: Loop.Round, Loop.While, Loop.While.run, Loop.While.run_add_fuel, Loop.While.Follows,
  Loop.While.run_of_follows, Loop.While.steps, Loop.While.stateAt, Loop.While.run_steps_iff,
  Loop.While.run_steps_ends_iff
-/
import Mathlib.Data.Nat.Notation
import Mathlib.Tactic.SplitIfs

namespace Loop

variable {ι σ ρ : Type}

/-- What the body of a loop does in a round. -/
inductive Round (σ ρ : Type) where
  | again (state : σ)
  | returned (result : ρ)

/-- A loop whose body may return from the function, and what the function returns after it. -/
structure While (ι σ ρ : Type) where
  condition : σ → Bool
  body : ι → σ → Round σ ρ
  after : σ → ρ

namespace While

variable (loop : While ι σ ρ) (inputs : ℕ → ι)

/-- The result with the number of rounds begun, or `none` when the fuel does not suffice. -/
def run : ℕ → ℕ → σ → Option (ρ × ℕ)
  | 0, rounds, state => if loop.condition state then none else some (loop.after state, rounds)
  | fuel + 1, rounds, state =>
      if loop.condition state then
        match loop.body (inputs rounds) state with
        | .again next => run fuel (rounds + 1) next
        | .returned result => some (result, rounds + 1)
      else some (loop.after state, rounds)

variable {loop} {inputs} {fuel rounds : ℕ} {state next : σ} {result : ρ}

theorem run_stop (stops : loop.condition state = false) :
    loop.run inputs fuel rounds state = some (loop.after state, rounds) := by
  cases fuel with
  | zero => rw [run, stops, if_neg Bool.false_ne_true]
  | succ fuel => rw [run, stops, if_neg Bool.false_ne_true]

theorem run_again (goes : loop.condition state = true)
    (again : loop.body (inputs rounds) state = .again next) :
    loop.run inputs (fuel + 1) rounds state = loop.run inputs fuel (rounds + 1) next := by
  rw [run, if_pos goes, again]

theorem run_returned (goes : loop.condition state = true)
    (returned : loop.body (inputs rounds) state = .returned result) :
    loop.run inputs (fuel + 1) rounds state = some (result, rounds + 1) := by
  rw [run, if_pos goes, returned]

/-- More fuel changes nothing. -/
theorem run_add_fuel {answer : ρ × ℕ} (more : ℕ)
    (returned : loop.run inputs fuel rounds state = some answer) :
    loop.run inputs (fuel + more) rounds state = some answer := by
  induction fuel generalizing rounds state with
  | zero =>
      rw [run] at returned
      split_ifs at returned with goes
      rw [run_stop (eq_false_of_ne_true goes)]
      exact returned
  | succ fuel ih =>
      rw [Nat.succ_add]
      rw [run] at returned ⊢
      split_ifs at returned ⊢ with goes
      · cases stepped : loop.body (inputs rounds) state with
        | again next =>
            rw [stepped] at returned
            exact ih returned
        | returned result =>
            rw [stepped] at returned
            exact returned
      · exact returned

/-- A loop that has not come to its end begins another round. -/
theorem rounds_lt {answer : ρ × ℕ} (goes : loop.condition state = true)
    (returned : loop.run inputs fuel rounds state = some answer) : rounds < answer.2 := by
  induction fuel generalizing rounds state with
  | zero =>
      rw [run, if_pos goes] at returned
      cases returned
  | succ fuel ih =>
      rw [run, if_pos goes] at returned
      cases stepped : loop.body (inputs rounds) state with
      | returned result =>
          rw [stepped] at returned
          obtain rfl := Option.some.inj returned
          exact Nat.lt_succ_self rounds
      | again next =>
          rw [stepped] at returned
          cases goesOn : loop.condition next with
          | true => exact Nat.lt_of_succ_lt (ih goesOn returned)
          | false =>
              dsimp only at returned
              rw [run_stop goesOn] at returned
              obtain rfl := Option.some.inj returned
              exact Nat.lt_succ_self rounds

/-- The first rounds all go on, along a path of states. -/
def Follows (loop : While ι σ ρ) (inputs : ℕ → ι) (path : ℕ → σ) (rounds : ℕ) : Prop :=
  ∀ i < rounds, loop.condition (path i) = true ∧
    loop.body (inputs i) (path i) = .again (path (i + 1))

theorem run_of_follows {path : ℕ → σ} (follows : Follows loop inputs path rounds) (fuel : ℕ) :
    loop.run inputs (rounds + fuel) 0 (path 0) = loop.run inputs fuel rounds (path rounds) := by
  induction rounds generalizing fuel with
  | zero => rw [Nat.zero_add]
  | succ rounds ih =>
      obtain ⟨goes, again⟩ := follows rounds (Nat.lt_succ_self rounds)
      rw [Nat.succ_add, ← Nat.add_succ, ih (fun i before => follows i (Nat.lt_succ_of_lt before))]
      exact run_again goes again

/-- A loop that follows a path returns after it, if at all. -/
theorem rounds_lt_of_follows {path : ℕ → σ} {answer : ρ × ℕ}
    (follows : Follows loop inputs path rounds) (goes : loop.condition (path rounds) = true)
    (returned : loop.run inputs fuel 0 (path 0) = some answer) : rounds < answer.2 := by
  have longer := run_add_fuel rounds returned
  rw [Nat.add_comm, run_of_follows follows] at longer
  exact rounds_lt goes longer

/-! ### Loops that never return from their bodies -/

/-- A loop whose body only changes the state, which is its result. -/
def steps (condition : σ → Bool) (step : ι → σ → σ) : While ι σ σ where
  condition := condition
  body input state := .again (step input state)
  after state := state

/-- The state after so many rounds. -/
def stateAt (step : ι → σ → σ) (inputs : ℕ → ι) (start : σ) : ℕ → σ
  | 0 => start
  | rounds + 1 => step (inputs rounds) (stateAt step inputs start rounds)

section Steps

variable {condition : σ → Bool} {step : ι → σ → σ} {start : σ}

theorem run_steps_of_first (stops : condition (stateAt step inputs start rounds) = false)
    (goes : ∀ i < rounds, condition (stateAt step inputs start i) = true) :
    (steps condition step).run inputs rounds 0 start =
      some (stateAt step inputs start rounds, rounds) := by
  have follows : Follows (steps condition step) inputs (stateAt step inputs start) rounds :=
    fun i before => ⟨goes i before, rfl⟩
  have followed := run_of_follows follows 0
  rw [Nat.add_zero] at followed
  exact followed.trans (run_stop stops)

theorem run_steps_goes {answer : σ × ℕ}
    (ran : (steps condition step).run inputs fuel rounds (stateAt step inputs start rounds) =
      some answer)
    (goes : ∀ i < rounds, condition (stateAt step inputs start i) = true) :
    answer.1 = stateAt step inputs start answer.2 ∧
      condition (stateAt step inputs start answer.2) = false ∧
        ∀ i < answer.2, condition (stateAt step inputs start i) = true := by
  induction fuel generalizing rounds with
  | zero =>
      rw [run] at ran
      split_ifs at ran with here
      obtain rfl := Option.some.inj ran
      exact ⟨rfl, eq_false_of_ne_true here, goes⟩
  | succ fuel inductionHypothesis =>
      cases here : condition (stateAt step inputs start rounds) with
      | false =>
          rw [run_stop here] at ran
          obtain rfl := Option.some.inj ran
          exact ⟨rfl, here, goes⟩
      | true =>
          rw [run_again here rfl] at ran
          refine @inductionHypothesis (rounds + 1) ran fun i before => ?_
          rcases Nat.lt_succ_iff_lt_or_eq.mp before with earlier | rfl
          · exact goes i earlier
          · exact here

/-- Such a loop ends after the first rounds whose state does not meet its condition. -/
theorem run_steps_iff {last : σ} :
    (∃ fuel, (steps condition step).run inputs fuel 0 start = some (last, rounds)) ↔
      last = stateAt step inputs start rounds ∧
        condition (stateAt step inputs start rounds) = false ∧
          ∀ i < rounds, condition (stateAt step inputs start i) = true := by
  constructor
  · rintro ⟨fuel, ran⟩
    exact run_steps_goes ran fun i before => absurd before (Nat.not_lt_zero i)
  · rintro ⟨rfl, stops, goes⟩
    exact ⟨rounds, run_steps_of_first stops goes⟩

/-- The loop has ended by some round if its condition has failed by then. -/
theorem run_steps_ends_iff {limit : ℕ} :
    (∃ fuel answer, (steps condition step).run inputs fuel 0 start = some answer ∧ answer.2 ≤ limit) ↔
      ∃ i ≤ limit, condition (stateAt step inputs start i) = false := by
  constructor
  · rintro ⟨fuel, ⟨last, rounds⟩, ran, early⟩
    exact ⟨rounds, early, (run_steps_iff.mp ⟨fuel, ran⟩).2.1⟩
  · rintro ⟨i, early, stops⟩
    induction i using Nat.strongRecOn with
    | _ i inductionHypothesis =>
        by_cases goes : ∀ j < i, condition (stateAt step inputs start j) = true
        · exact ⟨_, _, run_steps_of_first stops goes, early⟩
        · obtain ⟨j, sooner⟩ := Classical.not_forall.mp goes
          obtain ⟨before, stopped⟩ := Classical.not_imp.mp sooner
          exact inductionHypothesis j before (Nat.le_of_lt (Nat.lt_of_lt_of_le before early))
            (eq_false_of_ne_true stopped)

end Steps

end While

end Loop
