/-
Module: TypingTutor.Lib.DoubleBuffer
Layer: Lib
Purpose: Double buffering with a background.  A flip shows the composed picture and starts the next
  one from the background.  Between two flips, sprites are painted over the composed picture and
  anything may be painted into the background, so a flip shows the background of the flip before,
  under exactly the sprites painted since.
Imports: core lemmas on lists
Trusted boundary: none
Main exports: Buffers, Buffers.flip, overlay, Paints, Floats, Paints.shown_flip
-/
import Mathlib.Data.List.Basic

namespace DoubleBuffer

variable {α : Type}

/-- The picture on show, the picture being composed, and the background; strokes newest first. -/
structure Buffers (α : Type) where
  shown : List α
  composed : List α
  background : List α

/-- Show the composed picture and compose the next one over the background. -/
def Buffers.flip (buffers : Buffers α) : Buffers α :=
  { shown := buffers.composed
    composed := buffers.background
    background := buffers.background }

/-- Strokes, in the order in which they are made, on top of a picture. -/
def overlay (sprites picture : List α) : List α := sprites.reverse ++ picture

theorem overlay_append (first second picture : List α) :
    overlay (first ++ second) picture = overlay second (overlay first picture) := by
  rw [overlay, List.reverse_append, List.append_assoc]
  rfl

/-- The sprites, and nothing else, have been painted over the composed picture. -/
structure Paints (sprites : List α) (before after : Buffers α) : Prop where
  shown : after.shown = before.shown
  composed : after.composed = overlay sprites before.composed

/-- The sprites have been painted, and the background is as before. -/
structure Floats (sprites : List α) (before after : Buffers α) : Prop extends
    Paints sprites before after where
  background : after.background = before.background

section Painting

variable {sprites first second : List α} {before middle after : Buffers α}

theorem Paints.refl (buffers : Buffers α) : Paints [] buffers buffers := ⟨rfl, rfl⟩

theorem Paints.trans (one : Paints first before middle) (two : Paints second middle after) :
    Paints (first ++ second) before after where
  shown := two.shown.trans one.shown
  composed := by rw [two.composed, one.composed, overlay_append]

theorem Floats.refl (buffers : Buffers α) : Floats [] buffers buffers := ⟨.refl buffers, rfl⟩

theorem Floats.trans (one : Floats first before middle) (two : Floats second middle after) :
    Floats (first ++ second) before after where
  toPaints := one.toPaints.trans two.toPaints
  background := two.background.trans one.background

/-- Painting into the background only, behind sprites. -/
theorem Paints.settle (one : Paints sprites before middle) (two : Paints [] middle after) :
    Paints sprites before after := by
  rw [← List.append_nil sprites]
  exact one.trans two

/-- The next flip shows the sprites painted since the last one, over the background of the last
one. -/
theorem Paints.shown_flip (painted : Paints sprites before.flip after) :
    after.flip.shown = overlay sprites before.flip.background :=
  painted.composed

end Painting

end DoubleBuffer
