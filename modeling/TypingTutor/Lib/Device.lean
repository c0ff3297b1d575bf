/-
Module: TypingTutor.Lib.Device
Layer: Lib
Purpose: Programs that talk to a device whose answers they cannot foresee.  A program is the tree of
  its requests; its paths are the exchanges and the result that some answers lead to.  The rules say
  how the paths of a composed program and of a bounded retry are put together.
Trusted boundary: none
Main exports: Device.Program, Device.Path, Device.run, Device.path_run, Device.path_bind,
  Device.path_giveUp, Device.retry, Device.path_retry
-/
import Mathlib.Data.List.Basic

namespace TypingTutor.Device

variable {Request : Type} {Answer : Request → Type} {α β : Type}

/-- Ask, and go on with the answer; a program asks finitely often whatever the answers are. -/
inductive Program (Request : Type) (Answer : Request → Type) (α : Type) where
  | done (result : α)
  | ask (request : Request) (next : Answer request → Program Request Answer α)

/-- A request with its answer. -/
structure Exchange (Request : Type) (Answer : Request → Type) where
  request : Request
  answer : Answer request

namespace Program

def bind : Program Request Answer α → (α → Program Request Answer β) → Program Request Answer β
  | .done result, next => next result
  | .ask request rest, next => .ask request fun answer => (rest answer).bind next

instance : Monad (Program Request Answer) where
  pure := .done
  bind := bind

/-- A single request. -/
def request (request : Request) : Program Request Answer (Answer request) := .ask request .done

end Program

/-- The exchanges and the result of a program for some answers. -/
inductive Path : Program Request Answer α → List (Exchange Request Answer) → α → Prop where
  | done (result : α) : Path (.done result) [] result
  | ask {request : Request} {next : Answer request → Program Request Answer α}
      (answer : Answer request) {exchanges : List (Exchange Request Answer)} {result : α}
      (rest : Path (next answer) exchanges result) :
      Path (.ask request next) (⟨request, answer⟩ :: exchanges) result

/-- Run a program against a sequence of answers: what the device would answer to each request at
each moment. -/
def run (answers : Nat → (request : Request) → Answer request) :
    Program Request Answer α → Nat → α × List (Exchange Request Answer)
  | .done result, _ => (result, [])
  | .ask request next, moment =>
      let rest := run answers (next (answers moment request)) (moment + 1)
      (rest.1, ⟨request, answers moment request⟩ :: rest.2)

theorem path_run (answers : Nat → (request : Request) → Answer request)
    (program : Program Request Answer α) (moment : Nat) :
    Path program (run answers program moment).2 (run answers program moment).1 := by
  induction program generalizing moment with
  | done result => exact .done result
  | ask request next ih => exact .ask _ (ih _ (moment + 1))

theorem path_pure {result result' : α} {exchanges : List (Exchange Request Answer)} :
    Path (pure result : Program Request Answer α) exchanges result' ↔
      exchanges = [] ∧ result' = result := by
  constructor
  · rintro ⟨⟩
    exact ⟨rfl, rfl⟩
  · rintro ⟨rfl, rfl⟩
    exact .done _

theorem path_request {request : Request} {exchanges : List (Exchange Request Answer)}
    {answer : Answer request} :
    Path (.request request) exchanges answer ↔ exchanges = [⟨request, answer⟩] := by
  constructor
  · rintro (_ | ⟨_, ⟨_⟩⟩)
    rfl
  · rintro rfl
    exact .ask answer (.done answer)

/-- A path of a composition is a path of the first part and one of the rest. -/
theorem path_bind {program : Program Request Answer α} {next : α → Program Request Answer β}
    {exchanges : List (Exchange Request Answer)} {result : β} :
    Path (program >>= next) exchanges result ↔
      ∃ before middle after, exchanges = before ++ after ∧ Path program before middle ∧
        Path (next middle) after result := by
  constructor
  · intro path
    induction program generalizing exchanges with
    | done middle => exact ⟨[], middle, exchanges, rfl, .done middle, path⟩
    | ask request rest ih =>
        obtain _ | ⟨answer, path⟩ := path
        obtain ⟨before, middle, after, rfl, first, second⟩ := ih answer path
        exact ⟨_ :: before, middle, after, rfl, .ask answer first, second⟩
  · rintro ⟨before, middle, after, rfl, first, second⟩
    induction first with
    | done middle => exact second
    | ask answer _ ih => exact .ask answer (ih second)

/-- A program that gives up when its first part answers `false`. -/
theorem path_giveUp {program : Program Request Answer Bool}
    {next : Program Request Answer (Option α)} {exchanges : List (Exchange Request Answer)}
    {outcome : Option α}
    (path : Path (program >>= fun ok => if !ok then pure none else next) exchanges outcome) :
    (Path program exchanges false ∧ outcome = none) ∨
      ∃ before after, exchanges = before ++ after ∧ Path program before true ∧
        Path next after outcome := by
  obtain ⟨before, ok, after, rfl, first, path⟩ := path_bind.mp path
  cases ok with
  | false =>
      obtain ⟨rfl, rfl⟩ := path_pure.mp path
      rw [List.append_nil]
      exact .inl ⟨first, rfl⟩
  | true =>
      rw [Bool.not_true, if_neg Bool.false_ne_true] at path
      exact .inr ⟨before, after, rfl, first, path⟩

/-! ### Retries -/

/-- Try at most so many times. -/
def retry (attempt : Program Request Answer (Option α)) :
    Nat → Program Request Answer (Option α)
  | 0 => pure none
  | tries + 1 => do
      match ← attempt with
      | some result => pure (some result)
      | none => retry attempt tries

/-- The exchanges of a retry, attempt by attempt: all that it may try and none succeeds, or fewer
failures and then a success. -/
inductive Retried (attempt : Program Request Answer (Option α)) (tries : Nat) :
    List (List (Exchange Request Answer)) → Option α → Prop where
  | exhausted {failures : List (List (Exchange Request Answer))} (count : failures.length = tries)
      (failed : ∀ exchanges ∈ failures, Path attempt exchanges none) :
      Retried attempt tries failures none
  | succeeded {failures : List (List (Exchange Request Answer))} (count : failures.length < tries)
      (failed : ∀ exchanges ∈ failures, Path attempt exchanges none)
      {last : List (Exchange Request Answer)} {result : α} (success : Path attempt last (some result)) :
      Retried attempt tries (failures ++ [last]) (some result)

theorem path_retry {attempt : Program Request Answer (Option α)} {tries : Nat}
    {exchanges : List (Exchange Request Answer)} {outcome : Option α}
    (path : Path (retry attempt tries) exchanges outcome) :
    ∃ attempts, exchanges = attempts.flatten ∧ Retried attempt tries attempts outcome := by
  induction tries generalizing exchanges with
  | zero =>
      obtain ⟨rfl, rfl⟩ := path_pure.mp path
      exact ⟨[], rfl, .exhausted rfl (by simp)⟩
  | succ tries ih =>
      rw [retry, path_bind] at path
      obtain ⟨before, middle, after, rfl, first, rest⟩ := path
      cases middle with
      | some result =>
          obtain ⟨rfl, rfl⟩ := path_pure.mp rest
          refine ⟨[before], by simp, ?_⟩
          have none : ∀ exchanges ∈ ([] : List (List (Exchange Request Answer))),
              Path attempt exchanges Option.none := by simp
          exact .succeeded (Nat.succ_pos tries) none first
      | none =>
          obtain ⟨attempts, rfl, retried⟩ := ih rest
          refine ⟨before :: attempts, rfl, ?_⟩
          cases retried with
          | exhausted count failed =>
              refine .exhausted (congrArg Nat.succ count) ?_
              rintro exchanges (_ | ⟨_, later⟩)
              · exact first
              · exact failed exchanges later
          | @succeeded failures count failed last result success =>
              have allFailed : ∀ exchanges ∈ before :: failures, Path attempt exchanges none := by
                rintro exchanges (_ | ⟨_, later⟩)
                · exact first
                · exact failed exchanges later
              exact .succeeded (Nat.succ_lt_succ count) allFailed success

/-- No retry makes more attempts than it may. -/
theorem Retried.length_le {attempt : Program Request Answer (Option α)} {tries : Nat}
    {attempts : List (List (Exchange Request Answer))} {outcome : Option α}
    (retried : Retried attempt tries attempts outcome) : attempts.length ≤ tries := by
  cases retried with
  | exhausted count failed => exact Nat.le_of_eq count
  | succeeded count failed success =>
      rw [List.length_append]
      exact count

/-- Every attempt of a retry is a run of the program that is retried. -/
theorem Retried.path {attempt : Program Request Answer (Option α)} {tries : Nat}
    {attempts : List (List (Exchange Request Answer))} {outcome : Option α}
    (retried : Retried attempt tries attempts outcome) :
    ∀ exchanges ∈ attempts, ∃ result, Path attempt exchanges result := by
  intro exchanges member
  cases retried with
  | exhausted count failed => exact ⟨none, failed exchanges member⟩
  | @succeeded failures count failed last result success =>
      rcases List.mem_append.mp member with early | final
      · exact ⟨none, failed exchanges early⟩
      · obtain rfl := List.mem_singleton.mp final
        exact ⟨some result, success⟩

end TypingTutor.Device
