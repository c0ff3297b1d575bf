/-
Module: TypingTutor.Lib.Runs
Layer: Lib
Purpose: Runs of a fallible step function over a list of events.  One rule per kind of whole-run
  statement: carrying an invariant from step to step, also under a guard that the run meets,
  relating what is observed from time to time, following a run with an abstract machine, taking a
  handler apart into a chain of atomic actions, and comparing a run with the run that leaves some of
  its events out.
Imports: core lemmas on `List.foldlM`
Trusted boundary: none
Main exports: bind_eq_ok, iterate_eq_of_return, Outcome, Reaches, Along, foldlM_outcome,
  prefixes_iff_along, isChain_observations, verdict_iff_along, AbstractRun, simulation_trace, Chain,
  SameOutcome, Quiet, PrefixesAgree, prefixesAgree_iff_quiet
-/
import Mathlib.Data.List.Chain
import Mathlib.Data.List.Infix

namespace Runs

variable {σ ι ε ω : Type}

/-! ### Peeling off successful steps -/

/-- A successful sequence of two computations, taken apart. -/
theorem bind_eq_ok {α β : Type} {first : Except ε α} {next : α → Except ε β} {result : β} :
    (first >>= next) = .ok result ↔ ∃ value, first = .ok value ∧ next value = .ok result := by
  cases first with
  | error fault => simp [bind, Except.bind]
  | ok value => simp [bind, Except.bind]

/-- A computation checked to return a state with a property. -/
theorem exists_ok_of_any {outcome : Except ε σ} {check : σ → Bool}
    (checked : outcome.toOption.any check = true) : ∃ state, outcome = .ok state ∧ check state := by
  cases outcome with
  | error fault => cases checked
  | ok state => exact ⟨state, rfl, checked⟩

/-- A walk that comes back to an earlier state only ever visits the states before its return. -/
theorem iterate_eq_of_return {step : σ → σ} {start : σ} {first second : ℕ} (earlier : first < second)
    (returns : step^[second] start = step^[first] start) (n : ℕ) :
    ∃ m < second, step^[n] start = step^[m] start := by
  induction n using Nat.strong_induction_on with
  | _ n inductionHypothesis =>
      by_cases before : n < second
      · exact ⟨n, before, rfl⟩
      · obtain ⟨m, small, same⟩ := inductionHypothesis (n - second + first) (by omega)
        refine ⟨m, small, ?_⟩
        rw [← same, Function.iterate_add_apply, ← returns, ← Function.iterate_add_apply,
          Nat.sub_add_cancel (not_lt.mp before)]

/-! ### Outcomes

A postcondition for both ways a computation can end: `Holds` of the state it returns, `Allowed` of the
fault it stops with. -/

/-- The computation returns a state with `Holds`, or stops with an allowed fault. -/
def Outcome (Holds : σ → Prop) (Allowed : ε → Prop) : Except ε σ → Prop
  | .ok state => Holds state
  | .error fault => Allowed fault

section Outcomes

variable {Holds Holds' : σ → Prop} {Allowed Allowed' : ε → Prop}

/-- Two computations in a row: the second starts where the first returned. -/
theorem Outcome.bind {first : Except ε σ} {next : σ → Except ε σ}
    (firstEnds : Outcome Holds Allowed first)
    (nextEnds : ∀ state, Holds state → Outcome Holds' Allowed (next state)) :
    Outcome Holds' Allowed (first >>= next) := by
  cases first with
  | error fault => exact firstEnds
  | ok state => exact nextEnds state firstEnds

/-- Weakening both postconditions. -/
theorem Outcome.mono {outcome : Except ε σ} (ends : Outcome Holds Allowed outcome)
    (holds : ∀ state, Holds state → Holds' state) (allowed : ∀ fault, Allowed fault → Allowed' fault) :
    Outcome Holds' Allowed' outcome := by
  cases outcome with
  | error fault => exact allowed fault ends
  | ok state => exact holds state ends

/-- Two postconditions of one computation. -/
theorem Outcome.and {outcome : Except ε σ} (first : Outcome Holds Allowed outcome)
    (second : Outcome Holds' Allowed' outcome) :
    Outcome (fun state => Holds state ∧ Holds' state) Allowed outcome := by
  cases outcome with
  | error fault => exact first
  | ok state => exact ⟨first, second⟩

end Outcomes

/-! ### Reachability -/

/-- Some events lead from one state to the other. -/
def Reaches (step : σ → ι → Except ε σ) (state next : σ) : Prop :=
  ∃ events : List ι, events.foldlM step state = .ok next

namespace Reaches

variable {step : σ → ι → Except ε σ} {first second third : σ}

theorem refl (state : σ) : Reaches step state state := ⟨[], rfl⟩

theorem single {event : ι} (stepped : step first event = .ok second) : Reaches step first second := by
  refine ⟨[event], ?_⟩
  rw [List.foldlM_cons, stepped]
  rfl

theorem trans (one : Reaches step first second) (two : Reaches step second third) :
    Reaches step first third := by
  obtain ⟨events, ran⟩ := one
  obtain ⟨later, ranLater⟩ := two
  refine ⟨events ++ later, ?_⟩
  rw [List.foldlM_append, ran]
  exact ranLater

end Reaches

section Guards

variable {Holds Holds' : σ → Prop} {Allowed Allowed' : ε → Prop}

/-- Along a run every event meets the guard at the state where it comes. -/
def Along (step : σ → ι → Except ε σ) (guard : σ → ι → Prop) : σ → List ι → Prop
  | _, [] => True
  | state, event :: events =>
      guard state event ∧ ∀ next, step state event = .ok next → Along step guard next events

/-- A guard that can be checked can be checked along a run. -/
instance decidableAlong {step : σ → ι → Except ε σ} {guard : σ → ι → Prop}
    [∀ state event, Decidable (guard state event)] :
    ∀ (start : σ) (events : List ι), Decidable (Along step guard start events)
  | _, [] => .isTrue trivial
  | start, event :: events =>
      match stepped : step start event with
      | .error _ =>
          decidable_of_iff (guard start event)
            ⟨fun here => ⟨here, fun next same => by rw [stepped] at same; cases same⟩, And.left⟩
      | .ok next =>
          have : Decidable (Along step guard next events) := decidableAlong next events
          decidable_of_iff (guard start event ∧ Along step guard next events)
            ⟨fun both => ⟨both.1, fun other same => by
              rw [stepped] at same
              cases same
              exact both.2⟩, fun along => ⟨along.1, along.2 next stepped⟩⟩

/-- Events that meet the guard at every state meet it along every run. -/
theorem along_of_forall {step : σ → ι → Except ε σ} {guard : σ → ι → Prop} {events : List ι}
    (always : ∀ event ∈ events, ∀ state, guard state event) (start : σ) :
    Along step guard start events := by
  induction events generalizing start with
  | nil => trivial
  | cons event events inductionHypothesis =>
      refine ⟨always event List.mem_cons_self start, ?_⟩
      intro next _
      apply inductionHypothesis
      intro other member
      exact always other (List.mem_cons_of_mem event member)

/-- Along a run that meets a guard and keeps an invariant behind it, what the two imply is met too.
-/
theorem along_of_along {step : σ → ι → Except ε σ} {guard guard' : σ → ι → Prop}
    (kept : ∀ state event next, Holds state → guard state event → step state event = .ok next →
      Holds next)
    (implies : ∀ state event, Holds state → guard state event → guard' state event)
    {events : List ι} {start : σ} (initially : Holds start)
    (guarded : Along step guard start events) : Along step guard' start events := by
  induction events generalizing start with
  | nil => trivial
  | cons event events inductionHypothesis =>
      obtain ⟨here, later⟩ := guarded
      refine ⟨implies start event initially here, ?_⟩
      intro next stepped
      exact inductionHypothesis (kept start event next initially here stepped) (later next stepped)

/-- An event in the middle of a run meets the guard at the state where it comes. -/
theorem guard_of_along {step : σ → ι → Except ε σ} {guard : σ → ι → Prop} {earlier later : List ι}
    {event : ι} {start state : σ} (guarded : Along step guard start (earlier ++ event :: later))
    (reached : earlier.foldlM step start = .ok state) : guard state event := by
  induction earlier generalizing start with
  | nil =>
      cases reached
      exact guarded.1
  | cons first earlier inductionHypothesis =>
      rw [List.foldlM_cons] at reached
      cases stepped : step start first with
      | error fault =>
          rw [stepped] at reached
          cases reached
      | ok next =>
          rw [stepped] at reached
          exact inductionHypothesis (guarded.2 next stepped) reached

/-- The invariant rule for guarded runs: what holds at the start and survives every step that meets
the guard holds at the end. -/
theorem foldlM_outcome_along {step : σ → ι → Except ε σ} {guard : σ → ι → Prop}
    (preserved : ∀ state event, Holds state → guard state event →
      Outcome Holds Allowed (step state event))
    {events : List ι} {start : σ} (initially : Holds start)
    (guarded : Along step guard start events) :
    Outcome Holds Allowed (events.foldlM step start) := by
  induction events generalizing start with
  | nil => exact initially
  | cons event events inductionHypothesis =>
      obtain ⟨here, later⟩ := guarded
      have once := preserved start event initially here
      rw [List.foldlM_cons]
      cases stepped : step start event with
      | error fault =>
          rw [stepped] at once
          exact once
      | ok next =>
          rw [stepped] at once
          exact inductionHypothesis once (later next stepped)

/-- The invariant rule: what holds at the start and survives every step holds at the end. -/
theorem foldlM_outcome {step : σ → ι → Except ε σ}
    (preserved : ∀ state event, Holds state → Outcome Holds Allowed (step state event))
    {start : σ} (initially : Holds start) (events : List ι) :
    Outcome Holds Allowed (events.foldlM step start) := by
  induction events generalizing start with
  | nil => exact initially
  | cons event events inductionHypothesis =>
      rw [List.foldlM_cons]
      exact (preserved start event initially).bind
        fun next held => inductionHypothesis held

end Guards

/-- The rule for exact guards: when a step from a good state leads to a good state exactly if it
meets the guard, and a fault comes only from a step that meets it, all states that a run passes are
good if and only if all its steps meet the guard. -/
theorem prefixes_iff_along {step : σ → ι → Except ε σ} {Holds Good : σ → Prop} {guard : σ → ι → Prop}
    (kept : ∀ state event next, Holds state → step state event = .ok next → Holds next)
    (decides : ∀ state event next, Holds state → Good state → step state event = .ok next →
      (Good next ↔ guard state event))
    (faults : ∀ state event fault, Holds state → Good state → step state event = .error fault →
      guard state event)
    {events : List ι} {start : σ} (initially : Holds start) (good : Good start) :
    (∀ part, part <+: events → ∀ reached, part.foldlM step start = .ok reached → Good reached) ↔
      Along step guard start events := by
  induction events generalizing start with
  | nil =>
      refine ⟨fun _ => trivial, ?_⟩
      intro _ part isPart reached ran
      rw [List.prefix_nil.mp isPart] at ran
      cases ran
      exact good
  | cons event events inductionHypothesis =>
      constructor
      · intro always
        have goodNext : ∀ next, step start event = .ok next → Good next := by
          intro next stepped
          apply always [event] (List.cons_prefix_cons.mpr ⟨rfl, List.nil_prefix⟩)
          rw [List.foldlM_cons, stepped]
          rfl
        constructor
        · cases stepped : step start event with
          | error fault => exact faults start event fault initially good stepped
          | ok next =>
              exact (decides start event next initially good stepped).mp (goodNext next stepped)
        · intro next stepped
          apply (inductionHypothesis (kept start event next initially stepped)
            (goodNext next stepped)).mp
          intro part isPart reached ran
          apply always (event :: part) (List.cons_prefix_cons.mpr ⟨rfl, isPart⟩)
          rw [List.foldlM_cons, stepped]
          exact ran
      · rintro ⟨here, later⟩ part isPart reached ran
        cases part with
        | nil =>
            cases ran
            exact good
        | cons first part =>
            obtain ⟨rfl, isRest⟩ := List.cons_prefix_cons.mp isPart
            rw [List.foldlM_cons, bind_eq_ok] at ran
            obtain ⟨next, stepped, restRan⟩ := ran
            have goodNext := (decides start first next initially good stepped).mpr here
            exact (inductionHypothesis (kept start first next initially stepped) goodNext).mpr
              (later next stepped) part isRest reached restRan

section Observations

variable {τ : Type} {step : σ → ι → Except ε σ} {observe : σ → ι → Option τ}

/-- What is observed along a run, in order. -/
def observations (step : σ → ι → Except ε σ) (observe : σ → ι → Option τ) : σ → List ι → List τ
  | _, [] => []
  | state, event :: events =>
      (observe state event).toList ++
        (step state event).toOption.elim [] fun next => observations step observe next events

variable {Related : τ → τ → Prop} {Pending : τ → σ → Prop}
  (pends : ∀ state event now next, observe state event = some now →
    step state event = .ok next → Pending now next)
  (kept : ∀ seen state event next, Pending seen state → observe state event = none →
    step state event = .ok next → Pending seen next)
  (related : ∀ seen state event now, Pending seen state → observe state event = some now →
    Related seen now)

include pends kept related

/-- Behind an observation that is still pending. -/
theorem isChain_cons_observations {events : List ι} {seen : τ} {state : σ}
    (pending : Pending seen state) :
    (seen :: observations step observe state events).IsChain Related := by
  induction events generalizing seen state with
  | nil => exact .singleton seen
  | cons event events inductionHypothesis =>
      rw [observations]
      cases observed : observe state event with
      | none =>
          cases stepped : step state event with
          | error fault => exact .singleton seen
          | ok next => exact inductionHypothesis (kept seen state event next pending observed stepped)
      | some now =>
          refine .cons_cons (related seen state event now pending observed) ?_
          cases stepped : step state event with
          | error fault => exact .singleton now
          | ok next => exact inductionHypothesis (pends state event now next observed stepped)

/-- The rule for consecutive observations: an observation leaves something pending, which steps that
observe nothing keep, and which relates it to the next observation. -/
theorem isChain_observations (start : σ) (events : List ι) :
    (observations step observe start events).IsChain Related := by
  induction events generalizing start with
  | nil => exact .nil
  | cons event events inductionHypothesis =>
      rw [observations]
      cases stepped : step start event with
      | error fault =>
          cases observe start event with
          | none => exact .nil
          | some now => exact .singleton now
      | ok next =>
          cases observed : observe start event with
          | none => exact inductionHypothesis next
          | some now =>
              exact isChain_cons_observations pends kept related
                (pends start event now next observed stepped)

end Observations

section Verdicts

variable {step : σ → ι → Except ε σ} {required guard : σ → ι → Prop} {Good Verdict : σ → Prop}

/-- A verdict that no step can repair, read backwards along a run. -/
theorem verdict_of_foldlM (kept : ∀ state event next, step state event = .ok next →
      Verdict next → Verdict state) {events : List ι} {start finish : σ}
    (ran : events.foldlM step start = .ok finish) (verdict : Verdict finish) : Verdict start := by
  induction events generalizing start with
  | nil =>
      cases ran
      exact verdict
  | cons event events inductionHypothesis =>
      rw [List.foldlM_cons] at ran
      obtain ⟨next, stepped, later⟩ := bind_eq_ok.mp ran
      apply kept start event next stepped
      exact inductionHypothesis later

/-- A run ends with the verdict exactly when every step of it meets the guard: steps that do keep
the invariant behind the verdict, a step that does not spoils it, and nothing repairs it. -/
theorem verdict_iff_along (sound : ∀ state, Good state → Verdict state)
    (kept : ∀ state event next, step state event = .ok next → Verdict next → Verdict state)
    (guarded : ∀ state event next, Good state → required state event → guard state event →
      step state event = .ok next → Good next)
    (spoiled : ∀ state event next, Good state → required state event → step state event = .ok next →
      Verdict next → guard state event)
    {events : List ι} {start finish : σ} (good : Good start)
    (requirements : Along step required start events)
    (ran : events.foldlM step start = .ok finish) :
    Verdict finish ↔ Along step guard start events := by
  induction events generalizing start with
  | nil =>
      have same : start = finish := Except.ok.inj ran
      rw [← same]
      exact ⟨fun _ => trivial, fun _ => sound start good⟩
  | cons event events inductionHypothesis =>
      obtain ⟨requirement, requirements⟩ := requirements
      rw [List.foldlM_cons] at ran
      obtain ⟨next, stepped, later⟩ := bind_eq_ok.mp ran
      have rest := fun goodNext => inductionHypothesis goodNext (requirements next stepped) later
      constructor
      · intro verdict
        have here : guard start event := by
          apply spoiled start event next good requirement stepped
          exact verdict_of_foldlM kept later verdict
        refine ⟨here, ?_⟩
        intro other otherStepped
        obtain rfl : next = other := by
          rw [stepped] at otherStepped
          exact Except.ok.inj otherStepped
        exact (rest (guarded start event next good requirement here stepped)).mp verdict
      · rintro ⟨here, along⟩
        exact (rest (guarded start event next good requirement here stepped)).mpr
          (along next stepped)

end Verdicts

/-! ### Simulation

A relation between the states of the program and those of an abstract machine, kept step by step,
carries a whole guarded run over to a run of the abstract machine. -/

section Simulation

variable {τ : Type}

/-- A run of an abstract machine over a list of events. -/
inductive AbstractRun (Abstract : τ → ι → τ → Prop) : τ → List ι → τ → Prop where
  | nil (state : τ) : AbstractRun Abstract state [] state
  | cons {state middle finish : τ} {event : ι} {events : List ι} :
      Abstract state event middle → AbstractRun Abstract middle events finish →
      AbstractRun Abstract state (event :: events) finish

/-- A run with one more event at its end. -/
theorem AbstractRun.snoc {Abstract : τ → ι → τ → Prop} {start middle finish : τ} {events : List ι}
    {event : ι} (walked : AbstractRun Abstract start events middle)
    (last : Abstract middle event finish) : AbstractRun Abstract start (events ++ [event]) finish := by
  induction walked with
  | nil state => exact .cons last (.nil finish)
  | cons first _ inductionHypothesis => exact .cons first (inductionHypothesis last)

/-- The rule for forward simulations: the states of a guarded run are related, one by one, to those of a
run of the abstract machine. -/
theorem simulation_trace {step : σ → ι → Except ε σ} {guard : σ → ι → Prop}
    {Abstract : τ → ι → τ → Prop} {Related : σ → τ → Prop}
    (simulates : ∀ state abstract event, Related state abstract → guard state event →
      ∃ next abstractNext, step state event = .ok next ∧ Abstract abstract event abstractNext ∧
        Related next abstractNext)
    {events : List ι} {start : σ} {abstract : τ} (related : Related start abstract)
    (guarded : Along step guard start events) :
    ∃ trace : ℕ → τ, trace 0 = abstract ∧
      (∀ k event, events[k]? = some event → Abstract (trace k) event (trace (k + 1))) ∧
      ∀ k ≤ events.length, ∃ reached,
        (events.take k).foldlM step start = .ok reached ∧ Related reached (trace k) := by
  induction events generalizing start abstract with
  | nil =>
      refine ⟨fun _ => abstract, rfl, fun k event here => ?_, fun k bound => ⟨start, ?_, related⟩⟩
      · cases here
      · rw [List.take_nil]
        rfl
  | cons event events inductionHypothesis =>
      obtain ⟨here, later⟩ := guarded
      obtain ⟨next, abstractNext, stepped, moved, relatedNext⟩ :=
        simulates start abstract event related here
      obtain ⟨trace, first, moves, relates⟩ := inductionHypothesis relatedNext (later next stepped)
      refine ⟨fun k => Nat.casesOn k abstract trace, rfl, ?_, ?_⟩
      · rintro (_ | k) event' found
        · cases found
          change Abstract abstract event (trace 0)
          rw [first]
          exact moved
        · exact moves k event' found
      · rintro (_ | k) bound
        · exact ⟨start, rfl, related⟩
        · obtain ⟨reached, ran, relatedThere⟩ := relates k (Nat.le_of_succ_le_succ bound)
          refine ⟨reached, ?_, relatedThere⟩
          rw [List.take_succ_cons, List.foldlM_cons, stepped]
          exact ran

end Simulation

/-! ### Chains of actions

`Action state outcome` says that an atomic action may take `state` to `outcome`.  A handler that is
shown to be a chain of actions once needs no further case analysis: whatever every action keeps, the
handler keeps. -/

/-- A finite sequence of actions, the last of which may fault. -/
inductive Chain (Action : σ → Except ε σ → Prop) : σ → Except ε σ → Prop where
  | done (state : σ) : Chain Action state (.ok state)
  | step {state middle : σ} {outcome : Except ε σ} :
      Action state (.ok middle) → Chain Action middle outcome → Chain Action state outcome
  | fault {state : σ} {fault : ε} : Action state (.error fault) → Chain Action state (.error fault)

namespace Chain

variable {Action Action' : σ → Except ε σ → Prop} {state : σ} {outcome : Except ε σ}

/-- One action. -/
theorem single (action : Action state outcome) : Chain Action state outcome := by
  cases outcome with
  | error fault => exact .fault action
  | ok next => exact .step action (.done next)

/-- Two computations in a row. -/
theorem bind {next : σ → Except ε σ} (first : Chain Action state outcome)
    (rest : ∀ middle, outcome = .ok middle → Chain Action middle (next middle)) :
    Chain Action state (outcome >>= next) := by
  induction first with
  | done start => exact rest start rfl
  | step action _ inductionHypothesis => exact .step action (inductionHypothesis rest)
  | fault action => exact .fault action

/-- A chain of some actions is a chain of more actions. -/
theorem mono (included : ∀ state outcome, Action state outcome → Action' state outcome)
    (chain : Chain Action state outcome) : Chain Action' state outcome := by
  induction chain with
  | done start => exact .done start
  | step action _ inductionHypothesis => exact .step (included _ _ action) inductionHypothesis
  | fault action => exact .fault (included _ _ action)

/-- A step function made of chains runs as a chain. -/
theorem foldlM {step : σ → ι → Except ε σ}
    (chains : ∀ state event, Chain Action state (step state event)) (events : List ι) :
    ∀ start, Chain Action start (events.foldlM step start) := by
  induction events with
  | nil => exact .done
  | cons event events inductionHypothesis =>
      intro start
      rw [List.foldlM_cons]
      exact (chains start event).bind fun middle _ => inductionHypothesis middle

/-- The invariant rule for chains. -/
theorem keeps {Holds : σ → Prop} {Allowed : ε → Prop}
    (preserved : ∀ state outcome, Holds state → Action state outcome →
      Outcome Holds Allowed outcome)
    (chain : Chain Action state outcome) (initially : Holds state) :
    Outcome Holds Allowed outcome := by
  induction chain with
  | done start => exact initially
  | step action _ inductionHypothesis =>
      exact inductionHypothesis (preserved _ _ initially action)
  | fault action => exact preserved _ _ initially action

end Chain

/-! ### Leaving events out

`keep` selects events.  Two runs are compared through an observation: the run over all events, and the
run over the kept events only.  They agree after every prefix exactly when every event that is left out
comes at a state in which it is quiet. -/

/-- Two outcomes that agree: related states, or the same fault. -/
def SameOutcome (Related : σ → σ → Prop) : Except ε σ → Except ε σ → Prop
  | .ok first, .ok second => Related first second
  | .error first, .error second => first = second
  | _, _ => False

theorem SameOutcome.refl {Related : σ → σ → Prop} (reflexive : ∀ state, Related state state)
    (outcome : Except ε σ) : SameOutcome Related outcome outcome := by
  cases outcome with
  | ok state => exact reflexive state
  | error fault => exact rfl

/-- Two computations in a row agree when their parts do. -/
theorem SameOutcome.bind {Related : σ → σ → Prop} {first second : Except ε σ}
    {next otherNext : σ → Except ε σ} (agree : SameOutcome Related first second)
    (agreeNext : ∀ state other, Related state other →
      SameOutcome Related (next state) (otherNext other)) :
    SameOutcome Related (first >>= next) (second >>= otherNext) := by
  cases first with
  | ok state =>
      cases second with
      | ok other => exact agreeNext state other agree
      | error fault => exact agree.elim
  | error fault =>
      cases second with
      | ok other => exact agree.elim
      | error otherFault => exact agree

/-- Every event of the run that is not kept comes at a state where it is quiet. -/
def Quiet (step : σ → ι → Except ε σ) (keep : ι → Bool) (isQuiet : σ → ι → Prop) :
    σ → List ι → Prop :=
  Along step fun state event => keep event = false → isQuiet state event

instance {step : σ → ι → Except ε σ} {keep : ι → Bool} {isQuiet : σ → ι → Prop}
    [∀ state event, Decidable (isQuiet state event)] (start : σ) (events : List ι) :
    Decidable (Quiet step keep isQuiet start events) :=
  inferInstanceAs (Decidable (Along _ _ start events))

/-- The run over all events and the run over the kept ones, from their own start states, are
observed alike after every prefix. -/
def PrefixesAgree (step : σ → ι → Except ε σ) (keep : ι → Bool) (observe : σ → ω)
    (full kept : σ) (events : List ι) : Prop :=
  ∀ part, part <+: events →
    (part.foldlM step full).map observe = ((part.filter keep).foldlM step kept).map observe

section Omission

variable {step : σ → ι → Except ε σ} {keep : ι → Bool} {isQuiet : σ → ι → Prop}
  {Related : σ → σ → Prop} {Valid : σ → Prop} {observe : σ → ω}

/-- Agreement over a nonempty list: before the first event, and after it for every continuation. -/
theorem prefixesAgree_cons {full kept : σ} {event : ι} {events : List ι} :
    PrefixesAgree step keep observe full kept (event :: events) ↔
      observe full = observe kept ∧
        ∀ part, part <+: events →
          ((event :: part).foldlM step full).map observe =
            (((event :: part).filter keep).foldlM step kept).map observe := by
  constructor
  · intro agree
    refine ⟨Except.ok.inj (agree [] List.nil_prefix), ?_⟩
    intro part isPart
    exact agree (event :: part) (List.cons_prefix_cons.mpr ⟨rfl, isPart⟩)
  · rintro ⟨here, later⟩ part isPart
    cases part with
    | nil => exact congrArg Except.ok here
    | cons head part =>
        obtain ⟨rfl, isRest⟩ := List.cons_prefix_cons.mp isPart
        exact later part isRest

/-- A kept event with related outcomes: agreement passes to the states after it. -/
theorem prefixesAgree_cons_kept {full kept : σ} {event : ι} {events : List ι}
    (isKept : keep event = true) (same : observe full = observe kept)
    (outcomes : SameOutcome Related (step full event) (step kept event)) :
    PrefixesAgree step keep observe full kept (event :: events) ↔
      ∀ next otherNext, step full event = .ok next → step kept event = .ok otherNext →
        PrefixesAgree step keep observe next otherNext events := by
  rw [prefixesAgree_cons]
  simp only [List.filter_cons_of_pos isKept, List.foldlM_cons]
  cases stepped : step full event with
  | error fault =>
      cases other : step kept event with
      | error otherFault =>
          rw [stepped, other] at outcomes
          change fault = otherFault at outcomes
          subst outcomes
          simp [same, bind, Except.bind]
      | ok otherNext =>
          rw [stepped, other] at outcomes
          exact False.elim outcomes
  | ok next =>
      cases other : step kept event with
      | error otherFault =>
          rw [stepped, other] at outcomes
          exact False.elim outcomes
      | ok otherNext =>
          constructor
          · rintro ⟨-, later⟩ _ _ sameNext sameOther
            cases sameNext
            cases sameOther
            exact later
          · intro later
            exact ⟨same, later next otherNext rfl rfl⟩

/-- An omitted event that succeeds: agreement passes to the state after it on one side only. -/
theorem prefixesAgree_cons_omitted {full kept next : σ} {event : ι} {events : List ι}
    (omitted : keep event = false) (same : observe full = observe kept)
    (stepped : step full event = .ok next) :
    PrefixesAgree step keep observe full kept (event :: events) ↔
      PrefixesAgree step keep observe next kept events := by
  rw [prefixesAgree_cons]
  simp only [List.filter_cons_of_neg (show ¬ keep event = true by simp [omitted]),
    List.foldlM_cons, stepped]
  exact ⟨fun agree => agree.2, fun later => ⟨same, later⟩⟩

/-- An omitted event in front of an agreeing run is not visible. -/
theorem unchanged_of_prefixesAgree {full kept : σ} {event : ι} {events : List ι}
    (omitted : keep event = false)
    (agree : PrefixesAgree step keep observe full kept (event :: events)) :
    (step full event).map observe = .ok (observe full) := by
  have here := (prefixesAgree_cons.mp agree).1
  have once := (prefixesAgree_cons.mp agree).2 [] List.nil_prefix
  rw [List.filter_cons_of_neg (show ¬ keep event = true by simp [omitted]),
    List.foldlM_cons] at once
  rw [here]
  cases stepped : step full event with
  | error fault =>
      rw [stepped] at once
      exact once
  | ok next =>
      rw [stepped] at once
      exact once

variable
  (transitive : ∀ first second third, Related first second → Related second third →
    Related first third)
  (observed : ∀ first second, Related first second → observe first = observe second)
  (keptSteps : ∀ first second event, keep event = true → Related first second →
    SameOutcome Related (step first event) (step second event))
  (validSteps : ∀ state event next, Valid state → step state event = .ok next → Valid next)
  (quietSteps : ∀ state event, keep event = false → isQuiet state event →
    ∃ next, step state event = .ok next ∧ Related next state)
  (loudSteps : ∀ state event, Valid state → keep event = false →
    (step state event).map observe = .ok (observe state) → isQuiet state event)

include transitive observed keptSteps validSteps quietSteps loudSteps

/-- From related start states, the two runs agree after every prefix if and only if the omitted
events are quiet.  The relation is carried along the run; an omitted quiet event moves one side
within it. -/
theorem prefixesAgree_iff_quiet_from (events : List ι) :
    ∀ full kept, Valid full → Related full kept →
      (PrefixesAgree step keep observe full kept events ↔
        Quiet step keep isQuiet full events) := by
  induction events with
  | nil =>
      intro full kept valid related
      refine ⟨fun _ => trivial, ?_⟩
      intro _ part isPart
      rw [List.prefix_nil.mp isPart]
      exact congrArg Except.ok (observed full kept related)
  | cons event events inductionHypothesis =>
      intro full kept valid related
      have same := observed full kept related
      cases kind : keep event with
      | true =>
          have outcomes := keptSteps full kept event kind related
          rw [prefixesAgree_cons_kept kind same outcomes, Quiet]
          constructor
          · intro agree
            refine ⟨fun impossible => by simp [kind] at impossible, ?_⟩
            intro next stepped
            cases other : step kept event with
            | error fault =>
                rw [stepped, other] at outcomes
                exact False.elim outcomes
            | ok otherNext =>
                have relatedNext : Related next otherNext := by
                  rw [stepped, other] at outcomes
                  exact outcomes
                exact (inductionHypothesis next otherNext
                  (validSteps full event next valid stepped) relatedNext).mp
                  (agree next otherNext stepped other)
          · rintro ⟨-, later⟩ next otherNext stepped other
            have relatedNext : Related next otherNext := by
              rw [stepped, other] at outcomes
              exact outcomes
            exact (inductionHypothesis next otherNext
              (validSteps full event next valid stepped) relatedNext).mpr (later next stepped)
      | false =>
          constructor
          · intro agree
            have quiet := loudSteps full event valid kind (unchanged_of_prefixesAgree kind agree)
            obtain ⟨next, stepped, settled⟩ := quietSteps full event kind quiet
            refine ⟨fun _ => quiet, ?_⟩
            intro other otherStepped
            obtain rfl : next = other := by
              rw [stepped] at otherStepped
              exact Except.ok.inj otherStepped
            exact (inductionHypothesis next kept (validSteps full event next valid stepped)
              (transitive next full kept settled related)).mp
              ((prefixesAgree_cons_omitted kind same stepped).mp agree)
          · rintro ⟨quietHere, later⟩
            obtain ⟨next, stepped, settled⟩ := quietSteps full event kind (quietHere kind)
            exact (prefixesAgree_cons_omitted kind same stepped).mpr
              ((inductionHypothesis next kept (validSteps full event next valid stepped)
                (transitive next full kept settled related)).mpr
                (later next stepped))

/-- The rule for one start state: leaving events out is invisible after every prefix if and only if
each of them is quiet where it comes. -/
theorem prefixesAgree_iff_quiet (reflexive : ∀ state, Related state state) (events : List ι)
    (start : σ) (valid : Valid start) :
    PrefixesAgree step keep observe start start events ↔
      Quiet step keep isQuiet start events :=
  prefixesAgree_iff_quiet_from transitive observed keptSteps validSteps quietSteps loudSteps events
    start start valid (reflexive start)

end Omission

end Runs
