/-
Module: TypingTutor.Lib.Stopwatch
Layer: Lib
Purpose: Time since the last start of something that may be started again at any moment, and its
  reading on two nested counters: the inner one counts ticks up to a period and begins again, the
  outer one counts the periods.  The counters are the remainder and the quotient of the ticks.  A
  counter that starts at 0 reaches a limit when so many ticks come in a row.
Trusted boundary: none
Main exports: Stopwatch.Event, Stopwatch.age, Stopwatch.age_since_start, Stopwatch.simulated,
  Stopwatch.elapsed, Stopwatch.timeout_iff, Stopwatch.succ_of_full, Stopwatch.succ_of_not_full
-/
import Mathlib.Data.List.Induction

namespace Stopwatch

/-- What a stopwatch is told. -/
inductive Event where
  | start
  | tick
deriving Repr, DecidableEq

def next : Option Nat → Event → Option Nat
  | _, .start => some 0
  | age, .tick => age.map (· + 1)

/-- The ticks since the last start, if there was one. -/
def age (events : List Event) : Option Nat := events.foldl next none

theorem foldl_ticks (elapsed : Option Nat) (ticks : Nat) :
    (List.replicate ticks Event.tick).foldl next elapsed = elapsed.map (· + ticks) := by
  induction ticks generalizing elapsed with
  | zero => cases elapsed <;> rfl
  | succ ticks ih =>
      rw [List.replicate_succ, List.foldl_cons, ih]
      cases elapsed with
      | none => rfl
      | some count =>
          change some (count + 1 + ticks) = some (count + (ticks + 1))
          rw [Nat.add_assoc, Nat.add_comm 1]

/-- What was before the last start does not matter. -/
theorem age_since_start (before : List Event) (ticks : Nat) :
    age (before ++ .start :: List.replicate ticks .tick) = some ticks := by
  rw [age, List.foldl_append, List.foldl_cons, foldl_ticks]
  change some (0 + ticks) = some ticks
  rw [Nat.zero_add]

/-- A machine whose states are given by the age, and that starts and ticks with it, shows the age
after every run. -/
theorem simulated {σ : Type} {handle : σ → Event → σ} {shown : Option Nat → σ}
    (starts : ∀ elapsed, handle (shown elapsed) .start = shown (some 0))
    (ticks : ∀ elapsed, handle (shown elapsed) .tick = shown (elapsed.map (· + 1)))
    (events : List Event) : events.foldl handle (shown none) = shown (age events) := by
  have steps : ∀ elapsed event, handle (shown elapsed) event = shown (next elapsed event) := by
    intro elapsed event
    cases event with
    | start => exact starts elapsed
    | tick => exact ticks elapsed
  unfold age
  generalize (none : Option Nat) = elapsed
  induction events generalizing elapsed with
  | nil => rfl
  | cons event events ih => rw [List.foldl_cons, List.foldl_cons, steps, ih]

/-! ### Timeouts -/

/-- A counter that starts at 0. -/
def since (count : Nat) : Event → Nat
  | .start => 0
  | .tick => count + 1

/-- The ticks since the last start, or since the beginning. -/
def elapsed (events : List Event) : Nat := events.foldl since 0

theorem elapsed_concat (events : List Event) (event : Event) :
    elapsed (events ++ [event]) = since (elapsed events) event := by
  rw [elapsed, List.foldl_append]
  rfl

/-- So many ticks have passed since the last start if the events end in so many ticks. -/
theorem le_elapsed_iff {limit : Nat} {events : List Event} :
    limit ≤ elapsed events ↔ List.replicate limit .tick <:+ events := by
  induction events using List.reverseRecOn generalizing limit with
  | nil =>
      rw [List.suffix_nil, List.replicate_eq_nil_iff]
      exact Nat.le_zero
  | append_singleton events event inductionHypothesis =>
      rw [elapsed_concat, List.suffix_concat_iff, List.replicate_eq_nil_iff]
      cases limit with
      | zero => simp
      | succ limit =>
          cases event with
          | start =>
              refine ⟨fun reached => absurd reached (Nat.not_succ_le_zero limit), ?_⟩
              rintro (impossible | ⟨early, same, -⟩)
              · cases impossible
              · rw [List.replicate_succ'] at same
                cases (List.append_inj' same rfl).2
          | tick => simp [since, List.replicate_succ', inductionHypothesis]

/-- What happens in a turn: perhaps a start, and after it perhaps a tick. -/
structure Turn where
  start : Bool
  tick : Bool
deriving Repr, DecidableEq

def Turn.events (turn : Turn) : List Event :=
  (if turn.start then [.start] else []) ++ if turn.tick then [.tick] else []

theorem elapsed_turn (events : List Event) (turn : Turn) :
    elapsed (events ++ turn.events) =
      (if turn.start then 0 else elapsed events) + if turn.tick then 1 else 0 := by
  rw [elapsed, List.foldl_append, ← elapsed]
  obtain ⟨start, tick⟩ := turn
  cases start <;> cases tick <;> rfl

/-- The events of the first turns. -/
def eventsOf (turns : Nat → Turn) (n : Nat) : List Event :=
  (List.range n).flatMap fun i => (turns i).events

theorem eventsOf_succ (turns : Nat → Turn) (n : Nat) :
    eventsOf turns (n + 1) = eventsOf turns n ++ (turns n).events := by
  rw [eventsOf, List.range_succ, List.flatMap_append, List.flatMap_singleton]
  rfl

/-- Ticks in a row that are not all before a turn end with it. -/
theorem infix_turn_iff {limit : Nat} {events : List Event} (turn : Turn) :
    List.replicate limit .tick <:+: events ++ turn.events ↔
      List.replicate limit .tick <:+: events ∨ limit ≤ elapsed (events ++ turn.events) := by
  have concat : ∀ (before : List Event) (event : Event),
      List.replicate limit .tick <:+: before ++ [event] ↔
        List.replicate limit .tick <:+: before ∨ limit ≤ elapsed (before ++ [event]) := by
    intro before event
    rw [List.infix_concat_iff, le_elapsed_iff, or_comm]
  -- a start leaves nothing to end with, unless there is nothing to wait for
  have started : List.replicate limit .tick <:+: events ++ [.start] ↔
      List.replicate limit .tick <:+: events := by
    rw [concat, elapsed_concat]
    refine ⟨fun either => either.elim id fun none => ?_, Or.inl⟩
    obtain rfl : limit = 0 := Nat.le_zero.mp none
    exact List.nil_infix
  obtain ⟨start, tick⟩ := turn
  cases start with
  | false =>
      cases tick with
      | false =>
          have same : (Turn.mk false false).events = [] := rfl
          rw [same, List.append_nil, le_elapsed_iff]
          exact ⟨Or.inl, fun either => either.elim id List.IsSuffix.isInfix⟩
      | true => exact concat events .tick
  | true =>
      cases tick with
      | false =>
          have same : (Turn.mk true false).events = [.start] := rfl
          rw [same]
          exact concat events .start
      | true =>
          have same : events ++ (Turn.mk true true).events = (events ++ [.start]) ++ [.tick] := by
            rw [List.append_assoc]
            rfl
          rw [same, concat, started]

/-- Some turn ends with so many ticks since the last start if so many ticks come in a row. -/
theorem timeout_iff {turns : Nat → Turn} {limit n : Nat} :
    (∃ i ≤ n, limit ≤ elapsed (eventsOf turns i)) ↔
      List.replicate limit .tick <:+: eventsOf turns n := by
  induction n with
  | zero =>
      have nothing : eventsOf turns 0 = [] := rfl
      rw [nothing, List.infix_nil, List.replicate_eq_nil_iff]
      constructor
      · rintro ⟨i, first, reached⟩
        obtain rfl := Nat.le_zero.mp first
        exact Nat.le_zero.mp reached
      · rintro rfl
        exact ⟨0, Nat.le_refl 0, Nat.zero_le _⟩
  | succ n inductionHypothesis =>
      rw [eventsOf_succ, infix_turn_iff, ← inductionHypothesis, ← eventsOf_succ]
      constructor
      · rintro ⟨i, before, reached⟩
        rcases Nat.le_succ_iff.mp before with earlier | rfl
        · exact .inl ⟨i, earlier, reached⟩
        · exact .inr reached
      · rintro (⟨i, before, reached⟩ | reached)
        · exact ⟨i, Nat.le_succ_of_le before, reached⟩
        · exact ⟨n + 1, Nat.le_refl _, reached⟩

/-- A count that grows by one at most meets every number on its way. -/
theorem exists_count_eq {count : Nat → Nat} {value n : Nat} (grows : ∀ i, count (i + 1) ≤ count i + 1)
    (first : count 0 ≤ value) (last : value ≤ count n) : ∃ i ≤ n, count i = value := by
  induction n with
  | zero => exact ⟨0, Nat.le_refl 0, Nat.le_antisymm first last⟩
  | succ n inductionHypothesis =>
      by_cases before : value ≤ count n
      · obtain ⟨i, early, met⟩ := inductionHypothesis before
        exact ⟨i, Nat.le_succ_of_le early, met⟩
      · have small := grows n
        exact ⟨n + 1, Nat.le_refl _, by omega⟩

/-! ### Two nested counters -/

/-- The tick at the end of a period. -/
theorem succ_of_full {period count : Nat} (full : count % period + 1 = period) :
    (count + 1) / period = count / period + 1 ∧ (count + 1) % period = 0 := by
  have dvd : period ∣ count + 1 := by
    refine ⟨count / period + 1, ?_⟩
    have split := Nat.div_add_mod count period
    rw [Nat.mul_succ]
    omega
  exact ⟨Nat.succ_div_of_dvd dvd, Nat.mod_eq_zero_of_dvd dvd⟩

/-- Any other tick. -/
theorem succ_of_not_full {period count : Nat} (positive : 0 < period)
    (notFull : count % period + 1 ≠ period) :
    (count + 1) / period = count / period ∧ (count + 1) % period = count % period + 1 := by
  have less := Nat.mod_lt count positive
  have short : count % period + 1 < period := by omega
  have split : count + 1 = period * (count / period) + (count % period + 1) := by
    have whole := Nat.div_add_mod count period
    omega
  have counted : (count + 1) % period = count % period + 1 := by
    rw [split, Nat.mul_add_mod, Nat.mod_eq_of_lt short]
  refine ⟨Nat.succ_div_of_not_dvd ?_, counted⟩
  intro dvd
  rw [Nat.mod_eq_zero_of_dvd dvd] at counted
  cases counted

end Stopwatch
