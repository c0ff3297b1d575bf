/-
Module: TypingTutor.Lib.Ownership
Layer: Lib
Purpose: Allocation traces.  The objects of one kind are tokens; a trace (newest event first) says when
  each is allocated and freed.  A disciplined trace allocates a token once and frees it only while it
  is live, so an object is freed at most once, and exactly once if and only if nothing is live at the
  end.  An owner holds at most one object at a time and may lose it instead of freeing it.
Trusted boundary: none
Main exports: Event, live, Disciplined, ReleasedOnce, releasedOnce_iff, Owner
-/
import Mathlib.Data.List.Basic

namespace Ownership

/-- What happens to an object. -/
inductive Event (τ : Type) where
  | alloc (token : τ)
  | free (token : τ)
deriving DecidableEq, Repr

variable {τ : Type} [DecidableEq τ]

/-- The objects that are live after a trace. -/
def live : List (Event τ) → List τ
  | [] => []
  | .alloc token :: earlier => token :: live earlier
  | .free token :: earlier => (live earlier).erase token

/-- A token is allocated at most once, and freed only while it is live. -/
def Disciplined : List (Event τ) → Prop
  | [] => True
  | .alloc token :: earlier => .alloc token ∉ earlier ∧ Disciplined earlier
  | .free token :: earlier => token ∈ live earlier ∧ Disciplined earlier

/-- Every object that is allocated is freed exactly once. -/
def ReleasedOnce (events : List (Event τ)) : Prop :=
  ∀ token, .alloc token ∈ events → events.count (.free token) = 1

/-- At no moment of the trace are two objects live. -/
def OneAtATime (events : List (Event τ)) : Prop :=
  ∀ earlier, earlier <:+ events → (live earlier).length ≤ 1

/-! ### Conservation -/

/-- What has been allocated is live or has been freed. -/
theorem count_live_add_count_free {events : List (Event τ)} (disciplined : Disciplined events)
    (token : τ) :
    (live events).count token + events.count (.free token) = events.count (.alloc token) := by
  induction events with
  | nil => rfl
  | cons event earlier inductionHypothesis =>
      cases event with
      | alloc other =>
          have before := inductionHypothesis disciplined.2
          rw [live, List.count_cons, List.count_cons, List.count_cons, ← before]
          by_cases same : other = token
          · simp [same]
            omega
          · simp [same]
      | free other =>
          have before := inductionHypothesis disciplined.2
          rw [live, List.count_erase, List.count_cons, List.count_cons, ← before]
          by_cases same : other = token
          · subst same
            have member := List.count_pos_iff.mpr disciplined.1
            simp
            omega
          · simp [same]

theorem count_alloc_le_one {events : List (Event τ)} (disciplined : Disciplined events) (token : τ) :
    events.count (.alloc token) ≤ 1 := by
  induction events with
  | nil => exact Nat.zero_le 1
  | cons event earlier inductionHypothesis =>
      cases event with
      | alloc other =>
          have before := inductionHypothesis disciplined.2
          by_cases same : other = token
          · subst same
            have none := List.count_eq_zero.mpr disciplined.1
            rw [List.count_cons_self]
            omega
          · rw [List.count_cons_of_ne (by simpa using same)]
            exact before
      | free other =>
          rw [List.count_cons_of_ne (by simp)]
          exact inductionHypothesis disciplined.2

/-- Every object is freed exactly once if and only if none is live at the end. -/
theorem releasedOnce_iff {events : List (Event τ)} (disciplined : Disciplined events) :
    ReleasedOnce events ↔ live events = [] := by
  constructor
  · intro released
    rw [List.eq_nil_iff_forall_not_mem]
    intro token alive
    have conserved := count_live_add_count_free disciplined token
    have once := count_alloc_le_one disciplined token
    have positive := List.count_pos_iff.mpr alive
    have allocated : .alloc token ∈ events := by
      rw [← List.count_pos_iff]
      omega
    have freed := released token allocated
    omega
  · intro none token allocated
    have conserved := count_live_add_count_free disciplined token
    have once := count_alloc_le_one disciplined token
    have positive := List.count_pos_iff.mpr allocated
    rw [none, List.count_nil] at conserved
    omega

/-- An object is live when it is freed. -/
theorem Disciplined.mem_live_of_free {events earlier : List (Event τ)} {token : τ}
    (disciplined : Disciplined events) (freed : .free token :: earlier <:+ events) :
    token ∈ live earlier := by
  induction events with
  | nil =>
      rw [List.suffix_nil] at freed
      cases freed
  | cons event older inductionHypothesis =>
      rcases List.suffix_cons_iff.mp freed with here | before
      · cases here
        exact disciplined.1
      · cases event with
        | alloc other => exact inductionHypothesis disciplined.2 before
        | free other => exact inductionHypothesis disciplined.2 before

/-! ### Owners -/

/-- An owner that holds at most one object, has lost some, and has freed all others. -/
structure Owner (events : List (Event τ)) (lost : Nat) (held : Option τ) : Prop where
  disciplined : Disciplined events
  holds : ∀ token, held = some token → token ∈ live events
  count : (live events).length = lost + held.toList.length

variable {events : List (Event τ)} {lost : Nat} {token : τ}

theorem Owner.alloc (owner : Owner events lost none) (fresh : .alloc token ∉ events) :
    Owner (.alloc token :: events) lost (some token) where
  disciplined := ⟨fresh, owner.disciplined⟩
  holds := by
    intro other same
    cases same
    exact List.mem_cons_self
  count := by
    rw [live, List.length_cons, owner.count]
    rfl

theorem Owner.free (owner : Owner events lost (some token)) :
    Owner (.free token :: events) lost none where
  disciplined := ⟨owner.holds token rfl, owner.disciplined⟩
  holds := by
    intro other impossible
    cases impossible
  count := by
    rw [live, List.length_erase_of_mem (owner.holds token rfl), owner.count]
    rfl

/-- The owner forgets its object without freeing it. -/
theorem Owner.lose (owner : Owner events lost (some token)) : Owner events (lost + 1) none where
  disciplined := owner.disciplined
  holds := by
    intro other impossible
    cases impossible
  count := owner.count

/-- An owner that holds nothing has released everything if and only if it has lost nothing. -/
theorem Owner.releasedOnce_iff (owner : Owner events lost none) : ReleasedOnce events ↔ lost = 0 := by
  rw [Ownership.releasedOnce_iff owner.disciplined, ← List.length_eq_zero_iff, owner.count]
  rfl

end Ownership
