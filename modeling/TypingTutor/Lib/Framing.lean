/-
Module: TypingTutor.Lib.Framing
Layer: Lib
Purpose: Frames of a fixed length in a stream of bytes.  Between frames the receiver skips every
  byte that cannot open one; from the opening byte on it takes the next bytes as they come.  A
  stream of frames, each behind any number of skipped bytes, is received as exactly these frames.
Imports: core lemmas on lists
Trusted boundary: none
Main exports: Receiver, feed, Transmission, feed_transmissions
-/
import Mathlib.Data.List.Basic

namespace Framing

variable {β : Type}

/-- The bytes of the frame under assembly and the frames received so far, both oldest first. -/
structure Receiver (β : Type) where
  held : List β
  frames : List (List β)

/-- One byte.  `opens` says which bytes can open a frame. -/
def feed (opens : β → Bool) (size : Nat) (receiver : Receiver β) (byte : β) : Receiver β :=
  if receiver.held.isEmpty && !opens byte then receiver
  else if receiver.held.length + 1 = size then
    { held := [], frames := receiver.frames ++ [receiver.held ++ [byte]] }
  else { receiver with held := receiver.held ++ [byte] }

/-- A frame on the wire, behind bytes that do not open one. -/
structure Transmission (opens : β → Bool) (size : Nat) where
  noise : List β
  head : β
  tail : List β
  idle : ∀ byte ∈ noise, opens byte = false
  opening : opens head = true
  length : tail.length + 1 = size

namespace Transmission

variable {opens : β → Bool} {size : Nat}

def frame (transmission : Transmission opens size) : List β :=
  transmission.head :: transmission.tail

/-- The bytes in the order in which they come. -/
def bytes (transmission : Transmission opens size) : List β :=
  transmission.noise ++ transmission.frame

end Transmission

variable {opens : β → Bool} {size : Nat}

section Steps

variable {receiver : Receiver β} {byte : β}

theorem feed_skips (between : receiver.held = []) (closed : opens byte = false) :
    feed opens size receiver byte = receiver := by
  simp [feed, between, closed]

/-- A byte is taken when a frame has begun, or when it opens one. -/
theorem not_skipped (taken : receiver.held = [] → opens byte = true) :
    (receiver.held.isEmpty && !opens byte) = false := by
  rw [Bool.and_eq_false_imp, List.isEmpty_iff]
  intro between
  rw [taken between]
  rfl

theorem feed_takes (taken : receiver.held = [] → opens byte = true)
    (more : receiver.held.length + 1 ≠ size) :
    feed opens size receiver byte = { receiver with held := receiver.held ++ [byte] } := by
  simp [feed, not_skipped taken, more]

theorem feed_completes (taken : receiver.held = [] → opens byte = true)
    (last : receiver.held.length + 1 = size) :
    feed opens size receiver byte =
      { held := [], frames := receiver.frames ++ [receiver.held ++ [byte]] } := by
  simp [feed, not_skipped taken, last]

end Steps

/-- Bytes between frames are skipped. -/
theorem feed_noise {noise : List β} (idle : ∀ byte ∈ noise, opens byte = false)
    (frames : List (List β)) :
    noise.foldl (feed opens size) ⟨[], frames⟩ = ⟨[], frames⟩ := by
  induction noise with
  | nil => rfl
  | cons byte noise inductionHypothesis =>
      rw [List.foldl_cons, feed_skips rfl (idle byte List.mem_cons_self)]
      exact inductionHypothesis fun other member => idle other (List.mem_cons_of_mem byte member)

/-- The rest of a frame completes it. -/
theorem feed_rest {held rest : List β} (begun : held ≠ []) (more : rest ≠ [])
    (fills : held.length + rest.length = size) (frames : List (List β)) :
    rest.foldl (feed opens size) ⟨held, frames⟩ = ⟨[], frames ++ [held ++ rest]⟩ := by
  induction rest generalizing held with
  | nil => exact absurd rfl more
  | cons byte rest inductionHypothesis =>
      rw [List.length_cons] at fills
      rw [List.foldl_cons]
      cases rest with
      | nil =>
          rw [feed_completes (fun between => absurd between begun) fills]
          rfl
      | cons second rest =>
          have inside : held.length + 1 ≠ size := by
            rw [List.length_cons] at fills
            omega
          rw [feed_takes (fun between => absurd between begun) inside,
            inductionHypothesis (by simp) (by simp) (by simp at fills ⊢; omega)]
          simp

theorem feed_frame (transmission : Transmission opens size) (frames : List (List β)) :
    transmission.frame.foldl (feed opens size) ⟨[], frames⟩ =
      ⟨[], frames ++ [transmission.frame]⟩ := by
  obtain ⟨noise, head, tail, idle, opening, length⟩ := transmission
  simp only [Transmission.frame, List.foldl_cons]
  cases tail with
  | nil =>
      rw [feed_completes (fun _ => opening) length]
      rfl
  | cons second rest =>
      have inside : ([] : List β).length + 1 ≠ size := by
        rw [List.length_cons] at length
        rw [List.length_nil]
        omega
      rw [feed_takes (fun _ => opening) inside,
        feed_rest (by simp) (by simp) (by rw [← length, Nat.add_comm]; rfl)]
      rfl

/-- A stream of frames is received frame by frame. -/
theorem feed_transmissions (transmissions : List (Transmission opens size)) (frames : List (List β)) :
    (transmissions.flatMap Transmission.bytes).foldl (feed opens size) ⟨[], frames⟩ =
      ⟨[], frames ++ transmissions.map Transmission.frame⟩ := by
  induction transmissions generalizing frames with
  | nil => simp
  | cons transmission transmissions inductionHypothesis =>
      rw [List.flatMap_cons, List.foldl_append, Transmission.bytes, List.foldl_append,
        feed_noise transmission.idle, feed_frame, inductionHypothesis]
      simp

end Framing
