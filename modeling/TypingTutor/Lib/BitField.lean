/-
Module: TypingTutor.Lib.BitField
Layer: Lib
Purpose: Fields of adjacent bits in a number.  Fields without a common bit do not see each other, so
  a number that is packed from values of such fields gives every value back.
Trusted boundary: none
Main exports: BitField.Field, BitField.Field.get, BitField.Field.put, BitField.Field.Apart,
  BitField.pack, BitField.pack_lt, BitField.get_pack
-/
import Mathlib.Algebra.Ring.Nat
import Mathlib.Data.List.Basic

namespace BitField

/-- A field, by its lowest bit and the number of its bits. -/
structure Field where
  position : Nat
  size : Nat
deriving Repr, DecidableEq

namespace Field

variable (f : Field)

/-- The bits of a field. -/
def Has (k : Nat) : Prop := f.position ≤ k ∧ k < f.position + f.size

/-- The value of a field in a number. -/
def get (x : Nat) : Nat := (x >>> f.position) % 2 ^ f.size

/-- The number with this value in the field, and nothing else. -/
def put (value : Nat) : Nat := value <<< f.position

/-- No bit belongs to both fields. -/
def Apart (f g : Field) : Prop := ∀ k, ¬ (f.Has k ∧ g.Has k)

variable {f} {g : Field} {x y value : Nat}

theorem Apart.symm (apart : Apart f g) : Apart g f := fun k both => apart k both.symm

theorem get_lt (x : Nat) : f.get x < 2 ^ f.size := Nat.mod_lt _ (Nat.two_pow_pos _)

theorem get_zero : f.get 0 = 0 := by
  rw [get, Nat.zero_shiftRight, Nat.zero_mod]

theorem testBit_get (x k : Nat) :
    (f.get x).testBit k = (decide (k < f.size) && x.testBit (f.position + k)) := by
  rw [get, Nat.testBit_mod_two_pow, Nat.testBit_shiftRight]

theorem get_or (x y : Nat) : f.get (x ||| y) = f.get x ||| f.get y := by
  apply Nat.eq_of_testBit_eq
  intro k
  rw [Nat.testBit_or, testBit_get, testBit_get, testBit_get, Nat.testBit_or, Bool.and_or_distrib_left]

theorem get_put (fits : value < 2 ^ f.size) : f.get (f.put value) = value := by
  rw [get, put, Nat.shiftLeft_shiftRight, Nat.mod_eq_of_lt fits]

theorem get_put_of_apart (apart : Apart f g) (fits : value < 2 ^ g.size) :
    f.get (g.put value) = 0 := by
  apply Nat.eq_of_testBit_eq
  intro k
  rw [testBit_get, put, Nat.testBit_shiftLeft, Nat.zero_testBit]
  by_cases inside : k < f.size ∧ g.position ≤ f.position + k
  · have outside : ¬ g.Has (f.position + k) := fun has =>
      apart _ ⟨⟨Nat.le_add_right _ _, Nat.add_lt_add_left inside.1 _⟩, has⟩
    have high : g.size ≤ f.position + k - g.position := by
      unfold Has at outside
      omega
    rw [Nat.testBit_lt_two_pow (Nat.lt_of_lt_of_le fits (Nat.pow_le_pow_right Nat.two_pos high)),
      Bool.and_false, Bool.and_false]
  · by_cases low : k < f.size
    · have early : ¬ g.position ≤ f.position + k := fun late => inside ⟨low, late⟩
      rw [decide_eq_false (p := f.position + k ≥ g.position) early, Bool.false_and, Bool.and_false]
    · rw [decide_eq_false low, Bool.false_and]

theorem put_lt {width : Nat} (inside : f.position + f.size ≤ width) (fits : value < 2 ^ f.size) :
    f.put value < 2 ^ width := by
  have shifted : f.put value < 2 ^ (f.size + f.position) := by
    rw [put, Nat.shiftLeft_eq, Nat.pow_add]
    exact Nat.mul_lt_mul_of_pos_right fits (Nat.two_pow_pos _)
  exact Nat.lt_of_lt_of_le shifted (Nat.pow_le_pow_right Nat.two_pos (by omega))

end Field

/-- Values for fields, all in one number. -/
def pack (values : List (Field × Nat)) : Nat :=
  values.foldr (fun entry packed => entry.1.put entry.2 ||| packed) 0

/-- A number packed from fields of the low bits is small. -/
theorem pack_lt {width : Nat} {values : List (Field × Nat)}
    (fit : ∀ entry ∈ values, entry.2 < 2 ^ entry.1.size)
    (inside : ∀ entry ∈ values, entry.1.position + entry.1.size ≤ width) :
    pack values < 2 ^ width := by
  induction values with
  | nil => exact Nat.two_pow_pos width
  | cons entry values ih =>
      apply Nat.or_lt_two_pow
      · exact Field.put_lt (inside entry List.mem_cons_self) (fit entry List.mem_cons_self)
      · exact ih (fun other later => fit other (List.mem_cons_of_mem _ later))
          (fun other later => inside other (List.mem_cons_of_mem _ later))

/-- A field that is apart from the packed ones is empty. -/
theorem get_pack_of_apart {f : Field} {values : List (Field × Nat)}
    (fit : ∀ entry ∈ values, entry.2 < 2 ^ entry.1.size)
    (apart : ∀ entry ∈ values, f.Apart entry.1) : f.get (pack values) = 0 := by
  induction values with
  | nil => exact Field.get_zero
  | cons entry values ih =>
      have rest := ih (fun other later => fit other (List.mem_cons_of_mem _ later))
        (fun other later => apart other (List.mem_cons_of_mem _ later))
      change f.get (entry.1.put entry.2 ||| pack values) = 0
      rw [Field.get_or, rest, Field.get_put_of_apart (apart entry List.mem_cons_self)
        (fit entry List.mem_cons_self), Nat.or_self]

/-- Every field of a packed number has its value. -/
theorem get_pack {values : List (Field × Nat)} (fit : ∀ entry ∈ values, entry.2 < 2 ^ entry.1.size)
    (apart : values.Pairwise fun entry other => entry.1.Apart other.1) :
    ∀ entry ∈ values, entry.1.get (pack values) = entry.2 := by
  induction values with
  | nil =>
      intro entry member
      cases member
  | cons first values ih =>
      obtain ⟨apartFirst, apartRest⟩ := List.pairwise_cons.mp apart
      have fitRest : ∀ entry ∈ values, entry.2 < 2 ^ entry.1.size :=
        fun entry later => fit entry (List.mem_cons_of_mem _ later)
      intro entry member
      change entry.1.get (first.1.put first.2 ||| pack values) = entry.2
      rw [Field.get_or]
      rcases List.mem_cons.mp member with rfl | later
      · rw [Field.get_put (fit entry List.mem_cons_self), get_pack_of_apart fitRest apartFirst,
          Nat.or_zero]
      · rw [Field.get_put_of_apart (apartFirst entry later).symm (fit first List.mem_cons_self),
          ih fitRest apartRest entry later, Nat.zero_or]

end BitField
