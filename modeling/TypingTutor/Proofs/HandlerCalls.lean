/-
Module: TypingTutor.Proofs.HandlerCalls
Layer: Proofs
Purpose: The main loop as a sequence of handler calls.  A notification is up to three calls, and a run
  is the sequence of all its calls, so what holds of every sequence of calls holds of every run.
Trusted boundary: none
Main exports: HandlerCall, perform, foldlM_handlerCalls, runCalls, foldlM_runCalls
-/
import TypingTutor.Proofs.Actions

namespace TypingTutor

open Runs

/-- A call of a handler by the main loop, with what the world answers to it. -/
inductive HandlerCall where
  | keyboard (ports : PortReads) (env : Env)
  | timer (env : Env)
  | mouse (ports : PortReads) (env : Env)

/-- The timer interrupt runs `update_timer` and then `GameDrawer`. -/
def perform (loaded : LoadedSprites) (s : State) : HandlerCall → Except Fault State
  | .keyboard ports env => keyHandler loaded ports env s
  | .timer env => updateTimer env s >>= gameDrawer loaded env
  | .mouse ports env => updateMouse loaded ports env s

def HandlerCall.isTimer : HandlerCall → Bool
  | .timer _ => true
  | _ => false

/-- The timer interrupts among the calls. -/
def ticks (calls : List HandlerCall) : Nat := calls.countP HandlerCall.isTimer

/-- The calls of a notification in order. -/
def Notification.handlerCalls (message : Notification) : List HandlerCall :=
  (message.keyboard.map fun call => HandlerCall.keyboard call.1 call.2).toList ++
    (message.timer.map HandlerCall.timer).toList ++
    (message.mouse.map fun call => HandlerCall.mouse call.1 call.2).toList

/-- The calls of a run of the main loop, up to its end. -/
def runCalls (loaded : LoadedSprites) : State → List Notification → List HandlerCall
  | _, [] => []
  | s, message :: messages =>
      if exitRequested s then []
      else message.handlerCalls ++
        (handleNotification loaded message s).toOption.elim [] fun next =>
          runCalls loaded next messages

section Runs

variable {loaded : LoadedSprites}

theorem foldlM_handlerCalls (message : Notification) (s : State) :
    message.handlerCalls.foldlM (perform loaded) s = handleNotification loaded message s := by
  have keyboard : ∀ s, (message.keyboard.map fun call =>
      HandlerCall.keyboard call.1 call.2).toList.foldlM (perform loaded) s =
        serveKeyboard loaded message s := by
    intro s
    unfold serveKeyboard
    cases message.keyboard with
    | none => rfl
    | some call => simp [perform]
  have timer : ∀ s, (message.timer.map HandlerCall.timer).toList.foldlM (perform loaded) s =
      serveTimer loaded message s := by
    intro s
    unfold serveTimer
    cases message.timer with
    | none => rfl
    | some env => simp [perform]
  have mouse : ∀ s, (message.mouse.map fun call =>
      HandlerCall.mouse call.1 call.2).toList.foldlM (perform loaded) s =
        serveMouse loaded message s := by
    intro s
    unfold serveMouse
    cases message.mouse with
    | none => rfl
    | some call => simp [perform]
  rw [handleNotification_eq, Notification.handlerCalls, List.append_assoc, List.foldlM_append, keyboard]
  congr
  funext typed
  rw [List.foldlM_append, timer]
  congr
  funext ticked
  exact mouse ticked

/-- Past its end the loop does nothing. -/
theorem foldlM_mainLoopStep_of_exit {s : State} (ended : exitRequested s = true)
    (messages : List Notification) : messages.foldlM (mainLoopStep loaded) s = .ok s := by
  induction messages with
  | nil => rfl
  | cons message messages inductionHypothesis =>
      rw [List.foldlM_cons, mainLoopStep, if_pos ended]
      exact inductionHypothesis

/-- A run is the run of its calls. -/
theorem foldlM_runCalls (messages : List Notification) (s : State) :
    (runCalls loaded s messages).foldlM (perform loaded) s =
      messages.foldlM (mainLoopStep loaded) s := by
  induction messages generalizing s with
  | nil => rfl
  | cons message messages inductionHypothesis =>
      rw [runCalls]
      by_cases ended : exitRequested s = true
      · rw [if_pos ended, foldlM_mainLoopStep_of_exit ended]
        rfl
      · rw [if_neg ended, List.foldlM_append, foldlM_handlerCalls, List.foldlM_cons, mainLoopStep,
          if_neg ended]
        cases handled : handleNotification loaded message s with
        | error fault => rfl
        | ok next => exact inductionHypothesis next

end Runs

end TypingTutor
