/-
Module: TypingTutor.Proofs.MouseCommand
Layer: Proofs
Purpose: The dialogue of `mouse_command` with the controller, for every sequence of answers.  An
  attempt has one of five shapes, and the retry is at most ten of them, of which only the last can
  end with the acknowledgement.
Trusted boundary: none
Main exports: Attempted, path_commandAttempt, GuardedCommand, AcknowledgedCommand,
  mouse_command_is_acknowledged
-/
import TypingTutor.Core.MouseCommand

namespace TypingTutor

open Device

/-! ### The exchanges of an attempt -/

def statusRead (answer : Option UInt8) : PortExchange := ⟨PortRequest.inb 0x64, answer⟩

def mousePrefix (ok : Bool) : PortExchange := ⟨PortRequest.outb 0x64 0xD4, ok⟩

def commandWrite (cmd : UInt32) (ok : Bool) : PortExchange := ⟨PortRequest.outb 0x60 cmd, ok⟩

def responseRead (answer : Option UInt8) : PortExchange := ⟨PortRequest.inb 0x60, answer⟩

/-- The status says without an error that the input buffer is empty. -/
def showsEmpty : Option UInt8 → Bool
  | none => false
  | some st => !bit 7 st && !bit 6 st && !bit 1 st

/-- Only status reads. -/
def Polls (exchanges : List PortExchange) : Prop :=
  ∀ exchange ∈ exchanges, ∃ answer, exchange = statusRead answer

/-- Status reads of which the last one shows the input buffer empty. -/
def SeenEmpty (exchanges : List PortExchange) : Prop :=
  ∃ polls answer, exchanges = polls ++ [statusRead answer] ∧ Polls polls ∧ showsEmpty answer = true

theorem SeenEmpty.polls {exchanges : List PortExchange} (seen : SeenEmpty exchanges) :
    Polls exchanges := by
  obtain ⟨polls, answer, rfl, only, _⟩ := seen
  intro exchange member
  rcases List.mem_append.mp member with early | last
  · exact only exchange early
  · exact ⟨answer, List.mem_singleton.mp last⟩

theorem path_statusAttempt {exchanges : List PortExchange} {outcome : Option Unit}
    (path : Path statusAttempt exchanges outcome) :
    ∃ answer, exchanges = [statusRead answer] ∧ outcome.isSome = showsEmpty answer := by
  rw [statusAttempt, path_bind] at path
  obtain ⟨before, answer, after, rfl, asked, decided⟩ := path
  obtain rfl := path_request.mp asked
  cases answer with
  | none =>
      obtain ⟨rfl, rfl⟩ := path_pure.mp decided
      exact ⟨none, rfl, rfl⟩
  | some st =>
      refine ⟨some st, ?_⟩
      dsimp only at decided
      unfold showsEmpty
      split_ifs at decided with parity timeout full
      all_goals
        obtain ⟨rfl, rfl⟩ := path_pure.mp decided
        refine ⟨rfl, ?_⟩
        simp_all

theorem path_ibfEmpty {exchanges : List PortExchange} {empty : Bool}
    (path : Path ibfEmpty exchanges empty) :
    Polls exchanges ∧ (empty = true → SeenEmpty exchanges) := by
  rw [ibfEmpty, path_bind] at path
  obtain ⟨before, outcome, after, rfl, tried, decided⟩ := path
  obtain ⟨rfl, rfl⟩ := path_pure.mp decided
  rw [List.append_nil]
  obtain ⟨attempts, rfl, retried⟩ := path_retry tried
  have single : ∀ {failures : List (List PortExchange)},
      (∀ exchanges ∈ failures, Path statusAttempt exchanges none) → Polls failures.flatten := by
    intro failures failed exchange member
    obtain ⟨attempt, inside, here⟩ := List.mem_flatten.mp member
    obtain ⟨answer, rfl, _⟩ := path_statusAttempt (failed attempt inside)
    exact ⟨answer, List.mem_singleton.mp here⟩
  cases retried with
  | exhausted count failed => exact ⟨single failed, by simp⟩
  | @succeeded failures count failed last result success =>
      obtain ⟨answer, rfl, shows⟩ := path_statusAttempt success
      have seen : SeenEmpty (failures ++ [[statusRead answer]]).flatten := by
        refine ⟨failures.flatten, answer, ?_, single failed, shows.symm⟩
        simp
      exact ⟨seen.polls, fun _ => seen⟩

/-- The attempts of `mouse_command`, by the place where they are given up. -/
inductive Attempted (cmd : UInt32) : List PortExchange → Option Unit → Prop where
  | busy {first : List PortExchange} (polled : Polls first) : Attempted cmd first none
  | prefixFails {first : List PortExchange} (seen : SeenEmpty first) :
      Attempted cmd (first ++ [mousePrefix false]) none
  | stillBusy {first second : List PortExchange} (seen : SeenEmpty first) (polled : Polls second) :
      Attempted cmd (first ++ mousePrefix true :: second) none
  | commandFails {first second : List PortExchange} (seen : SeenEmpty first)
      (seenAgain : SeenEmpty second) :
      Attempted cmd (first ++ mousePrefix true :: (second ++ [commandWrite cmd false])) none
  | answered {first second : List PortExchange} (seen : SeenEmpty first)
      (seenAgain : SeenEmpty second) (response : Option UInt8) :
      Attempted cmd
        (first ++ mousePrefix true :: (second ++ [commandWrite cmd true, responseRead response]))
        (if response = some 0xFA then some () else none)

theorem path_commandAttempt {cmd : UInt32} {exchanges : List PortExchange} {outcome : Option Unit}
    (path : Path (commandAttempt cmd) exchanges outcome) : Attempted cmd exchanges outcome := by
  unfold commandAttempt at path
  rcases path_giveUp path with ⟨busy, rfl⟩ | ⟨first, rest, rfl, empty, prefixed⟩
  · exact .busy (path_ibfEmpty busy).1
  have seen := (path_ibfEmpty empty).2 rfl
  rcases path_giveUp prefixed with ⟨failed, rfl⟩ | ⟨written, rest, rfl, asked, polled⟩
  · obtain rfl := path_request.mp failed
    exact .prefixFails seen
  obtain rfl := path_request.mp asked
  rcases path_giveUp polled with ⟨busy, rfl⟩ | ⟨second, rest, rfl, emptyAgain, commanded⟩
  · exact .stillBusy seen (path_ibfEmpty busy).1
  have seenAgain := (path_ibfEmpty emptyAgain).2 rfl
  rcases path_giveUp commanded with ⟨failed, rfl⟩ | ⟨written, rest, rfl, askedAgain, answering⟩
  · obtain rfl := path_request.mp failed
    exact .commandFails seen seenAgain
  obtain rfl := path_request.mp askedAgain
  obtain ⟨read, response, rest, rfl, received, decided⟩ := path_bind.mp answering
  obtain rfl := path_request.mp received
  have answered := @Attempted.answered cmd _ _ seen seenAgain response
  cases response with
  | none =>
      obtain ⟨rfl, rfl⟩ := path_pure.mp decided
      exact answered
  | some byte =>
      dsimp only at decided
      split_ifs at decided with acknowledged
      · obtain ⟨rfl, rfl⟩ := path_pure.mp decided
        rw [if_pos (congrArg some (eq_of_beq acknowledged))] at answered
        exact answered
      · obtain ⟨rfl, rfl⟩ := path_pure.mp decided
        rw [if_neg (by simpa using acknowledged)] at answered
        exact answered

/-! ### What the attempts have in common -/

/-- A write to the data port, of whatever value. -/
def WritesData (exchange : PortExchange) : Prop := ∃ value ok, exchange = commandWrite value ok

/-- The data port is written at most once, with the command, after the prefix was written
successfully and the input buffer was then seen empty. -/
def GuardedCommand (cmd : UInt32) (exchanges : List PortExchange) : Prop :=
  (∃ exchange ∈ exchanges, WritesData exchange) →
    ∃ before polls ok after,
      exchanges = before ++ mousePrefix true :: (polls ++ commandWrite cmd ok :: after) ∧
        SeenEmpty polls ∧ ∀ exchange ∈ before ++ polls ++ after, ¬ WritesData exchange

/-- Both writes are completed and the acknowledgement is read. -/
def AcknowledgedCommand (cmd : UInt32) (exchanges : List PortExchange) : Prop :=
  mousePrefix true ∈ exchanges ∧ commandWrite cmd true ∈ exchanges ∧
    responseRead (some 0xFA) ∈ exchanges

theorem not_writesData_statusRead (answer : Option UInt8) : ¬ WritesData (statusRead answer) := by
  rintro ⟨value, ok, same⟩
  cases congrArg Exchange.request same

theorem not_writesData_mousePrefix (ok : Bool) : ¬ WritesData (mousePrefix ok) := by
  rintro ⟨value, ok', same⟩
  have ports := PortRequest.outb.inj (congrArg Exchange.request same)
  exact absurd ports.1 (by decide)

theorem not_writesData_responseRead (response : Option UInt8) :
    ¬ WritesData (responseRead response) := by
  rintro ⟨value, ok, same⟩
  cases congrArg Exchange.request same

theorem Polls.not_writesData {exchanges : List PortExchange} (polled : Polls exchanges) :
    ∀ exchange ∈ exchanges, ¬ WritesData exchange := by
  intro exchange member
  obtain ⟨answer, rfl⟩ := polled exchange member
  exact not_writesData_statusRead answer

theorem Polls.not_response {exchanges : List PortExchange} (polled : Polls exchanges)
    (response : Option UInt8) : responseRead response ∉ exchanges := by
  intro member
  obtain ⟨answer, same⟩ := polled _ member
  have ports := PortRequest.inb.inj (congrArg Exchange.request same)
  exact absurd ports (by decide)

theorem response_ne_write (response : Option UInt8) (port : UInt8) (value : UInt32) (ok : Bool) :
    responseRead response ≠ ⟨PortRequest.outb port value, ok⟩ := by
  intro same
  cases congrArg Exchange.request same

theorem Attempted.guarded {cmd : UInt32} {exchanges : List PortExchange} {outcome : Option Unit}
    (attempted : Attempted cmd exchanges outcome) : GuardedCommand cmd exchanges := by
  rintro ⟨exchange, member, writes⟩
  cases attempted with
  | busy polled => exact absurd writes (polled.not_writesData exchange member)
  | prefixFails seen =>
      rcases List.mem_append.mp member with early | last
      · exact absurd writes (seen.polls.not_writesData exchange early)
      · obtain rfl := List.mem_singleton.mp last
        exact absurd writes (not_writesData_mousePrefix false)
  | stillBusy seen polled =>
      rcases List.mem_append.mp member with early | late
      · exact absurd writes (seen.polls.not_writesData exchange early)
      · rcases List.mem_cons.mp late with rfl | poll
        · exact absurd writes (not_writesData_mousePrefix true)
        · exact absurd writes (polled.not_writesData exchange poll)
  | @commandFails first second seen seenAgain =>
      refine ⟨first, second, false, [], rfl, seenAgain, ?_⟩
      rw [List.append_nil]
      intro other inside
      rcases List.mem_append.mp inside with early | late
      · exact seen.polls.not_writesData other early
      · exact seenAgain.polls.not_writesData other late
  | @answered first second seen seenAgain response =>
      refine ⟨first, second, true, [responseRead response], rfl, seenAgain, ?_⟩
      intro other inside
      rcases List.mem_append.mp inside with polls | last
      · rcases List.mem_append.mp polls with early | late
        · exact seen.polls.not_writesData other early
        · exact seenAgain.polls.not_writesData other late
      · obtain rfl := List.mem_singleton.mp last
        exact not_writesData_responseRead response

/-- An attempt that gives up has not read the acknowledgement. -/
theorem Attempted.not_acknowledged {cmd : UInt32} {exchanges : List PortExchange}
    (attempted : Attempted cmd exchanges none) : responseRead (some 0xFA) ∉ exchanges := by
  have writes := response_ne_write (some 0xFA)
  generalize outcome : (none : Option Unit) = result at attempted
  cases attempted with
  | busy polled => exact polled.not_response _
  | prefixFails seen =>
      simp only [List.mem_append, List.mem_singleton, not_or]
      exact ⟨seen.polls.not_response _, writes _ _ _⟩
  | stillBusy seen polled =>
      simp only [List.mem_append, List.mem_cons, not_or]
      exact ⟨seen.polls.not_response _, writes _ _ _, polled.not_response _⟩
  | commandFails seen seenAgain =>
      simp only [List.mem_append, List.mem_cons, List.not_mem_nil, or_false, not_or]
      exact ⟨seen.polls.not_response _, writes _ _ _, seenAgain.polls.not_response _, writes _ _ _⟩
  | answered seen seenAgain response =>
      have other : response ≠ some 0xFA := by
        rintro rfl
        cases outcome
      simp only [List.mem_append, List.mem_cons, List.not_mem_nil, or_false, not_or]
      refine ⟨seen.polls.not_response _, writes _ _ _, seenAgain.polls.not_response _,
        writes _ _ _, ?_⟩
      intro same
      exact other (eq_of_heq (Exchange.mk.inj same).2).symm

/-- An attempt that succeeds has completed both writes and ends with the acknowledgement, which it
reads only there. -/
theorem Attempted.acknowledged {cmd : UInt32} {exchanges : List PortExchange}
    (attempted : Attempted cmd exchanges (some ())) :
    AcknowledgedCommand cmd exchanges ∧ ∃ earlier,
      exchanges = earlier ++ [responseRead (some 0xFA)] ∧ responseRead (some 0xFA) ∉ earlier := by
  have writes := response_ne_write (some 0xFA)
  generalize outcome : some () = result at attempted
  cases attempted with
  | busy | prefixFails | stillBusy | commandFails => cases outcome
  | @answered first second seen seenAgain response =>
      obtain rfl : response = some 0xFA := by
        by_contra other
        rw [if_neg other] at outcome
        cases outcome
      constructor
      · refine ⟨?_, ?_, ?_⟩
        all_goals simp
      · refine ⟨first ++ mousePrefix true :: (second ++ [commandWrite cmd true]), by simp, ?_⟩
        simp only [List.mem_append, List.mem_cons, List.not_mem_nil, or_false, not_or]
        exact ⟨seen.polls.not_response _, writes _ _ _, seenAgain.polls.not_response _, writes _ _ _⟩

/-! ### The retry -/

/-- `mouse_command` makes at most ten attempts, writes the command only where it may, and reports
success exactly when the acknowledgement was read, which then is the last thing it does.  It reports
failure only after ten attempts that gave up. -/
theorem mouse_command_is_acknowledged (cmd : UInt32)
    (answers : Nat → (request : PortRequest) → request.Answer) :
    ∃ attempts : List (List PortExchange),
      (Device.run answers (mouseCommand cmd) 0).2 = attempts.flatten ∧ attempts.length ≤ 10 ∧
        (∀ attempt ∈ attempts, (∃ outcome, Path (commandAttempt cmd) attempt outcome) ∧
          GuardedCommand cmd attempt) ∧
        ((Device.run answers (mouseCommand cmd) 0).1 = 0 ∨
          (Device.run answers (mouseCommand cmd) 0).1 = 1) ∧
        ((Device.run answers (mouseCommand cmd) 0).1 = 0 ↔
          ∃ attempt ∈ attempts, AcknowledgedCommand cmd attempt) ∧
        ((Device.run answers (mouseCommand cmd) 0).1 = 0 → ∃ earlier,
          (Device.run answers (mouseCommand cmd) 0).2 = earlier ++ [responseRead (some 0xFA)] ∧
            responseRead (some 0xFA) ∉ earlier) ∧
        ((Device.run answers (mouseCommand cmd) 0).1 = 1 →
          (attempts.length = 10 ∧ ∀ attempt ∈ attempts, Path (commandAttempt cmd) attempt none) ∧
            responseRead (some 0xFA) ∉ (Device.run answers (mouseCommand cmd) 0).2) := by
  have path := path_run answers (mouseCommand cmd) 0
  generalize (Device.run answers (mouseCommand cmd) 0).1 = result at path ⊢
  generalize (Device.run answers (mouseCommand cmd) 0).2 = exchanges at path ⊢
  rw [mouseCommand, path_bind] at path
  obtain ⟨before, outcome, after, rfl, tried, decided⟩ := path
  obtain ⟨attempts, rfl, retried⟩ := path_retry tried
  have few := retried.length_le
  have guarded : ∀ attempt ∈ attempts, (∃ outcome, Path (commandAttempt cmd) attempt outcome) ∧
      GuardedCommand cmd attempt := by
    intro attempt member
    obtain ⟨outcome, path⟩ := retried.path attempt member
    exact ⟨⟨outcome, path⟩, (path_commandAttempt path).guarded⟩
  have quiet : ∀ {failures : List (List PortExchange)},
      (∀ attempt ∈ failures, Path (commandAttempt cmd) attempt none) →
        responseRead (some 0xFA) ∉ failures.flatten := by
    intro failures failed member
    obtain ⟨attempt, inside, here⟩ := List.mem_flatten.mp member
    exact (path_commandAttempt (failed attempt inside)).not_acknowledged here
  cases retried with
  | exhausted count failed =>
      obtain ⟨rfl, rfl⟩ := path_pure.mp decided
      rw [List.append_nil]
      refine ⟨attempts, rfl, few, guarded, .inr rfl, ?_, by simp,
        fun _ => ⟨⟨count, failed⟩, quiet failed⟩⟩
      constructor
      · intro zero
        exact absurd zero (by decide)
      · rintro ⟨attempt, member, _, _, response⟩
        exact absurd response (path_commandAttempt (failed attempt member)).not_acknowledged
  | @succeeded failures count failed last _ success =>
      obtain ⟨rfl, rfl⟩ := path_pure.mp decided
      obtain ⟨acknowledged, earlier, rfl, noneEarlier⟩ :=
        (path_commandAttempt success).acknowledged
      rw [List.append_nil]
      refine ⟨_, rfl, few, guarded, .inl rfl, ?_, ?_, by simp⟩
      · exact iff_of_true rfl ⟨_, List.mem_append_right _ (List.mem_singleton_self _), acknowledged⟩
      · intro _
        refine ⟨failures.flatten ++ earlier, by simp, ?_⟩
        rw [List.mem_append, not_or]
        exact ⟨quiet failed, noneEarlier⟩

end TypingTutor
