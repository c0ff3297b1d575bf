/-
Module: TypingTutor.Lib.Escape
Layer: Lib
Purpose: Codes of one byte, or of two whose first is an escape byte, in a stream of bytes.  Several
  escape bytes in a row count as one, and one at the end waits for its code.  The codes of a stream
  that is made of codes are these codes.
Trusted boundary: none
Main exports: Escape.Code, Escape.codesFrom, Escape.pending, Escape.codesFrom_append,
  Escape.codesFrom_bytes
-/
import Mathlib.Data.List.Basic

namespace Escape

variable {β : Type} [DecidableEq β]

/-- A byte, and whether an escape byte is before it. -/
structure Code (β : Type) where
  escaped : Bool
  byte : β
deriving Repr, DecidableEq

def Code.bytes (escape : β) (code : Code β) : List β :=
  if code.escaped then [escape, code.byte] else [code.byte]

/-- The codes of a stream, which may begin behind an escape byte. -/
def codesFrom (escape : β) : Bool → List β → List (Code β)
  | _, [] => []
  | escaped, byte :: later =>
      if byte = escape then codesFrom escape true later
      else { escaped := escaped, byte := byte } :: codesFrom escape false later

/-- Whether the stream ends behind an escape byte. -/
def pending (escape : β) : Bool → List β → Bool
  | escaped, [] => escaped
  | _, byte :: later => pending escape (decide (byte = escape)) later

variable {escape : β}

theorem codesFrom_append (escaped : Bool) (early late : List β) :
    codesFrom escape escaped (early ++ late) =
      codesFrom escape escaped early ++ codesFrom escape (pending escape escaped early) late := by
  induction early generalizing escaped with
  | nil => rfl
  | cons byte early inductionHypothesis =>
      rw [List.cons_append, codesFrom, codesFrom, pending]
      by_cases escapes : byte = escape
      · rw [if_pos escapes, if_pos escapes, inductionHypothesis, decide_eq_true escapes]
      · rw [if_neg escapes, if_neg escapes, inductionHypothesis, decide_eq_false escapes,
          List.cons_append]

theorem pending_append (escaped : Bool) (early late : List β) :
    pending escape escaped (early ++ late) = pending escape (pending escape escaped early) late := by
  induction early generalizing escaped with
  | nil => rfl
  | cons byte early inductionHypothesis => exact inductionHypothesis _

/-- A stream of codes is read code by code. -/
theorem codesFrom_bytes {codes : List (Code β)} (proper : ∀ code ∈ codes, code.byte ≠ escape) :
    codesFrom escape false (codes.flatMap (Code.bytes escape)) = codes := by
  induction codes with
  | nil => rfl
  | cons code codes inductionHypothesis =>
      have here := proper code List.mem_cons_self
      have later := inductionHypothesis fun other member => proper other (List.mem_cons_of_mem _ member)
      obtain ⟨escaped, byte⟩ := code
      rw [List.flatMap_cons, Code.bytes]
      cases escaped with
      | false =>
          rw [if_neg Bool.false_ne_true, List.cons_append, codesFrom, if_neg here]
          exact congrArg _ later
      | true =>
          rw [if_pos rfl, List.cons_append, codesFrom, if_pos rfl, List.cons_append, codesFrom,
            if_neg here]
          exact congrArg _ later

end Escape
