/-
Module: TypingTutor.Proofs.Pattern
Layer: Proofs
Purpose: The colours of the pattern of lab 5.  `vg_draw_pattern` and `graphics.c` put the same fields
  together, but `vg_draw_pattern` shifts each component of the first colour down twice, which is
  harmless only for a component at position 0 and for a component that is zero.
Trusted boundary: none
Main exports: Component, field, DirectColorMode, ShiftsDefined, RightColor, right_color_iff,
  red_component_is_lost
-/
import TypingTutor.Core.Pattern
import TypingTutor.Lib.BitField
import Mathlib.Data.Nat.ModEq

namespace TypingTutor.Pattern

open BitField

/-- The components of a direct colour. -/
inductive Component where
  | red
  | green
  | blue
deriving Repr, DecidableEq

def maskSize (info : VbeModeInfo) : Component → UInt8
  | .red => info.redMaskSize
  | .green => info.greenMaskSize
  | .blue => info.blueMaskSize

def fieldPosition (info : VbeModeInfo) : Component → UInt8
  | .red => info.redFieldPosition
  | .green => info.greenFieldPosition
  | .blue => info.blueFieldPosition

/-- The field that a mode gives to a component. -/
def field (info : VbeModeInfo) (c : Component) : Field :=
  ⟨(fieldPosition info c).toNat, (maskSize info c).toNat⟩

/-- The steps between the first rectangle and the one in row `i` and column `j`. -/
def distance (i j : Nat) : Component → Nat
  | .red => j
  | .green => i
  | .blue => i + j

/-- A mode with direct colours, the components of which share no bit and lie within 32 bits. -/
structure DirectColorMode extends VbeModeInfo where
  direct : memoryModel = 0x06
  inside : ∀ c, (field toVbeModeInfo c).position + (field toVbeModeInfo c).size ≤ 32
  apart : ∀ c d, c ≠ d → (field toVbeModeInfo c).Apart (field toVbeModeInfo d)

/-- No shift reaches the sign bit of an `int` or the width of a `uint32_t`. -/
def ShiftsDefined (info : VbeModeInfo) : Prop :=
  ∀ c, (field info c).size < 31 ∧ (field info c).position < 32

/-! ### Shifts -/

section Shifts

variable {amount : UInt8}

theorem lt_31_iff : amount.toUInt32 < 31 ↔ amount.toNat < 31 := UInt32.lt_iff_toNat_lt

theorem lt_32_iff : amount.toUInt32 < 32 ↔ amount.toNat < 32 := UInt32.lt_iff_toNat_lt

theorem oneShifted_of_lt (small : amount.toNat < 31) :
    ∃ one, oneShifted amount.toUInt32 = .ok one ∧ one.toNat = 2 ^ amount.toNat := by
  refine ⟨_, if_pos (lt_31_iff.mpr small), ?_⟩
  have power : 2 ^ amount.toNat < 2 ^ 32 := Nat.pow_lt_pow_right (by decide) (by omega)
  rw [UInt32.toNat_shiftLeft, UInt8.toNat_toUInt32, Nat.mod_eq_of_lt (by omega : amount.toNat < 32)]
  rw [UInt32.toNat_one, Nat.shiftLeft_eq, Nat.one_mul, Nat.mod_eq_of_lt power]

theorem oneShifted_of_not_lt (big : ¬ amount.toNat < 31) :
    oneShifted amount.toUInt32 = .error .shift := if_neg (mt lt_31_iff.mp big)

theorem shiftRight_of_lt (value : UInt32) (small : amount.toNat < 32) :
    ∃ shifted, shiftRight value amount.toUInt32 = .ok shifted ∧
      shifted.toNat = value.toNat >>> amount.toNat := by
  refine ⟨_, if_pos (lt_32_iff.mpr small), ?_⟩
  rw [UInt32.toNat_shiftRight, UInt8.toNat_toUInt32, Nat.mod_eq_of_lt small]

theorem shiftRight_of_not_lt (value : UInt32) (big : ¬ amount.toNat < 32) :
    shiftRight value amount.toUInt32 = .error .shift := if_neg (mt lt_32_iff.mp big)

theorem shiftLeft_of_lt {value : UInt32} (small : amount.toNat < 32)
    (fits : value.toNat <<< amount.toNat < 2 ^ 32) :
    ∃ shifted, shiftLeft value amount.toUInt32 = .ok shifted ∧
      shifted.toNat = value.toNat <<< amount.toNat := by
  refine ⟨_, if_pos (lt_32_iff.mpr small), ?_⟩
  rw [UInt32.toNat_shiftLeft, UInt8.toNat_toUInt32, Nat.mod_eq_of_lt small, Nat.mod_eq_of_lt fits]

end Shifts

/-! ### Components -/

section Components

variable {size position : UInt8}

/-- The mask of a component, and what it selects. -/
theorem toNat_masked {value one : UInt32} (power : one.toNat = 2 ^ size.toNat) :
    (value &&& (one - 1)).toNat = value.toNat % 2 ^ size.toNat := by
  have positive : (1 : UInt32) ≤ one := by
    rw [UInt32.le_iff_toNat_le, power]
    exact Nat.one_le_two_pow
  rw [UInt32.toNat_and, UInt32.toNat_sub_of_le _ _ positive, power]
  exact Nat.and_two_pow_sub_one_eq_mod _ _

/-- Adding steps to a component. -/
theorem toNat_stepped (value : UInt32) {one : UInt32} (power : one.toNat = 2 ^ size.toNat)
    (small : size.toNat < 31) (steps : Nat) :
    ((value + UInt32.ofNat steps) % one).toNat = (value.toNat + steps) % 2 ^ size.toNat := by
  have sum : (value + UInt32.ofNat steps).toNat = (value.toNat + steps) % 2 ^ 32 := by
    rw [UInt32.toNat_add, UInt32.toNat_ofNat']
    omega
  rw [UInt32.toNat_mod, sum, power]
  exact Nat.mod_mod_of_dvd _ (Nat.pow_dvd_pow 2 (by omega))

/-- `vg_draw_pattern` shifts the component of the first colour once more. -/
theorem patternComponent_eq (small : size.toNat < 31) (low : position.toNat < 32)
    (first : UInt32) (steps : Nat) :
    ∃ value,
      patternComponent size.toUInt32 position.toUInt32 first (UInt32.ofNat steps) =
        .ok value ∧
      value.toNat = ((⟨position.toNat, size.toNat⟩ : Field).get first.toNat >>>
        position.toNat + steps) % 2 ^ size.toNat := by
  obtain ⟨one, shifted, power⟩ := oneShifted_of_lt small
  obtain ⟨down, shiftedDown, downValue⟩ := shiftRight_of_lt first low
  obtain ⟨again, shiftedAgain, againValue⟩ := shiftRight_of_lt (down &&& (one - 1)) low
  refine ⟨(again + UInt32.ofNat steps) % one, ?_, ?_⟩
  · rw [patternComponent, shifted, shiftedDown]
    change (shiftRight (down &&& (one - 1)) position.toUInt32 >>= _) = _
    rw [shiftedAgain]
    rfl
  · rw [toNat_stepped again power small, againValue, toNat_masked power, downValue]
    rfl

theorem patternComponent_undefined
    (undefined : ¬ (size.toNat < 31 ∧ position.toNat < 32)) (first offset : UInt32) :
    patternComponent size.toUInt32 position.toUInt32 first offset = .error .shift := by
  rw [patternComponent]
  by_cases low : position.toNat < 32
  · have big : ¬ size.toNat < 31 := fun small => undefined ⟨small, low⟩
    obtain ⟨down, shiftedDown, _⟩ := shiftRight_of_lt first low
    rw [shiftedDown, oneShifted_of_not_lt big]
    rfl
  · rw [shiftRight_of_not_lt first low]
    rfl

/-- `graphics.c` does not. -/
theorem directComponent_eq (small : size.toNat < 31) (low : position.toNat < 32)
    (first : UInt32) (steps : Nat) :
    ∃ value,
      (do return ((← Graphics.component size position first) + UInt32.ofNat steps) %
        (← oneShifted size.toUInt32) : Except Undefined UInt32) = .ok value ∧
      value.toNat = ((⟨position.toNat, size.toNat⟩ : Field).get first.toNat + steps) %
        2 ^ size.toNat := by
  obtain ⟨one, shifted, power⟩ := oneShifted_of_lt small
  obtain ⟨down, shiftedDown, downValue⟩ := shiftRight_of_lt first low
  refine ⟨(((one - 1) &&& down) + UInt32.ofNat steps) % one, ?_, ?_⟩
  · rw [Graphics.component, shifted, shiftedDown]
    rfl
  · rw [toNat_stepped _ power small, UInt32.and_comm, toNat_masked power, downValue]
    rfl

/-- The second shift is harmless at position 0 and for zero. -/
theorem shifted_twice_iff {f : Field} (x steps : Nat) :
    (f.get x >>> f.position + steps) % 2 ^ f.size = (f.get x + steps) % 2 ^ f.size ↔
      f.position = 0 ∨ f.get x = 0 := by
  have fits : f.get x < 2 ^ f.size := Field.get_lt x
  have lower : f.get x >>> f.position ≤ f.get x := Nat.shiftRight_le _ _
  constructor
  · intro same
    have equal : f.get x >>> f.position = f.get x := by
      have cancelled : f.get x >>> f.position ≡ f.get x [MOD 2 ^ f.size] :=
        Nat.ModEq.add_right_cancel' steps same
      exact cancelled.eq_of_lt_of_lt (lower.trans_lt fits) fits
    rw [Nat.shiftRight_eq_div_pow] at equal
    rcases Nat.div_eq_self.mp equal with zero | one
    · exact .inr zero
    · exact .inl (by_contra fun positive => absurd one (Nat.one_lt_two_pow positive).ne')
  · rintro (zero | zero)
    · rw [zero, Nat.shiftRight_zero]
    · rw [zero, Nat.zero_shiftRight]

end Components

/-! ### Colours -/

/-- The fields of a mode with values for the components. -/
def entries (info : VbeModeInfo) (values : Component → UInt32) : List (Field × Nat) :=
  [Component.red, .green, .blue].map fun c => (field info c, (values c).toNat)

section Entries

variable {mode : DirectColorMode} {values : Component → UInt32}

theorem mem_components (c : Component) : c ∈ [Component.red, .green, .blue] := by
  cases c <;> decide

theorem entries_fit (fit : ∀ c, (values c).toNat < 2 ^ (field mode.toVbeModeInfo c).size) :
    ∀ entry ∈ entries mode.toVbeModeInfo values, entry.2 < 2 ^ entry.1.size := by
  intro entry member
  obtain ⟨c, _, rfl⟩ := List.mem_map.mp member
  exact fit c

/-- The components of a direct colour do not disturb each other. -/
theorem get_entries (fit : ∀ c, (values c).toNat < 2 ^ (field mode.toVbeModeInfo c).size)
    (c : Component) :
    (field mode.toVbeModeInfo c).get (pack (entries mode.toVbeModeInfo values)) =
      (values c).toNat := by
  have different : [Component.red, .green, .blue].Pairwise (· ≠ ·) := by decide
  have apart : (entries mode.toVbeModeInfo values).Pairwise fun entry other =>
      entry.1.Apart other.1 :=
    List.pairwise_map.mpr (different.imp fun other => mode.apart _ _ other)
  exact get_pack (entries_fit fit) apart _ (List.mem_map_of_mem (mem_components c))

/-- `direct_mode` puts the components together. -/
theorem directMode_eq (defined : ShiftsDefined mode.toVbeModeInfo)
    (fit : ∀ c, (values c).toNat < 2 ^ (field mode.toVbeModeInfo c).size) :
    ∃ color, Graphics.directMode mode.toVbeModeInfo (values .red) (values .green) (values .blue) =
        .ok color ∧
      color.toNat = pack (entries mode.toVbeModeInfo values) := by
  have placed : ∀ c, ∃ shifted,
      shiftLeft (values c) (fieldPosition mode.toVbeModeInfo c).toUInt32 = .ok shifted ∧
        shifted.toNat = (field mode.toVbeModeInfo c).put (values c).toNat :=
    fun c => shiftLeft_of_lt (defined c).2 (Field.put_lt (mode.inside c) (fit c))
  obtain ⟨red, shiftedRed, redValue⟩ := placed .red
  obtain ⟨green, shiftedGreen, greenValue⟩ := placed .green
  obtain ⟨blue, shiftedBlue, blueValue⟩ := placed .blue
  refine ⟨red ||| green ||| blue, ?_, ?_⟩
  · change (do return (← shiftLeft (values .red) (fieldPosition mode.toVbeModeInfo .red).toUInt32) |||
      (← shiftLeft (values .green) (fieldPosition mode.toVbeModeInfo .green).toUInt32) |||
      (← shiftLeft (values .blue) (fieldPosition mode.toVbeModeInfo .blue).toUInt32)) = _
    rw [shiftedRed, shiftedGreen, shiftedBlue]
    rfl
  · rw [UInt32.toNat_or, UInt32.toNat_or, redValue, greenValue, blueValue, Nat.or_assoc]
    change _ = _ ||| (_ ||| (_ ||| 0))
    rw [Nat.or_zero]

end Entries

variable (mode : DirectColorMode)

variable (first : UInt32) (step : UInt8) (i j : Nat)

/-- A component in the loop body of `vg_draw_pattern`. -/
def patternValue (info : VbeModeInfo) (c : Component) : Except Undefined UInt32 :=
  patternComponent (maskSize info c).toUInt32 (fieldPosition info c).toUInt32 first
    (UInt32.ofNat (distance i j c * step.toNat))

/-- The same component in `graphics.c`. -/
def directValue (info : VbeModeInfo) : Component → Except Undefined UInt32
  | .red => Graphics.red info (UInt32.ofNat j) step first
  | .green => Graphics.green info (UInt32.ofNat i) step first
  | .blue => Graphics.blue info (UInt32.ofNat j) (UInt32.ofNat i) step first

/-- In a direct mode the colour consists of the three components. -/
theorem patternColor_direct (noRectangles : UInt8) :
    patternColor (mapVram mode.toVbeModeInfo) noRectangles first step i j = (do
      let red ← patternValue first step i j mode.toVbeModeInfo .red
      let green ← patternValue first step i j mode.toVbeModeInfo .green
      let blue ← patternValue first step i j mode.toVbeModeInfo .blue
      Graphics.directMode mode.toVbeModeInfo red green blue) := by
  have model : (mapVram mode.toVbeModeInfo).memModel = 0x06 := congrArg UInt8.toUInt32 mode.direct
  rw [patternColor, if_neg (by rw [model]; decide), if_pos model]
  rfl

variable {mode first step i j}

theorem patternColor_of_values {noRectangles : UInt8} {values : Component → UInt32}
    (computed : ∀ c, patternValue first step i j mode.toVbeModeInfo c = .ok (values c)) :
    patternColor (mapVram mode.toVbeModeInfo) noRectangles first step i j =
      Graphics.directMode mode.toVbeModeInfo (values .red) (values .green) (values .blue) := by
  rw [patternColor_direct, computed .red, computed .green, computed .blue]
  rfl

/-- A colour is only computed when all three components are. -/
theorem values_of_patternColor {noRectangles : UInt8} {color : UInt32}
    (computed : patternColor (mapVram mode.toVbeModeInfo) noRectangles first step i j = .ok color) :
    ∃ values : Component → UInt32,
      ∀ c, patternValue first step i j mode.toVbeModeInfo c = .ok (values c) := by
  rw [patternColor_direct] at computed
  cases red : patternValue first step i j mode.toVbeModeInfo .red with
  | error fault =>
      rw [red] at computed
      cases computed
  | ok redValue =>
      cases green : patternValue first step i j mode.toVbeModeInfo .green with
      | error fault =>
          rw [red, green] at computed
          cases computed
      | ok greenValue =>
          cases blue : patternValue first step i j mode.toVbeModeInfo .blue with
          | error fault =>
              rw [red, green, blue] at computed
              cases computed
          | ok blueValue =>
              refine ⟨fun | .red => redValue | .green => greenValue | .blue => blueValue, ?_⟩
              intro c
              cases c
              · exact red
              · exact green
              · exact blue

theorem shiftsDefined_of_values {values : Component → UInt32}
    (computed : ∀ c, patternValue first step i j mode.toVbeModeInfo c = .ok (values c)) :
    ShiftsDefined mode.toVbeModeInfo := by
  intro c
  by_contra undefined
  have fails := patternComponent_undefined undefined first (UInt32.ofNat (distance i j c * step.toNat))
  have computes := computed c
  rw [patternValue, fails] at computes
  cases computes

/-- The value of a component in the pattern, with the second shift. -/
theorem patternValue_eq (defined : ShiftsDefined mode.toVbeModeInfo) (c : Component) :
    ∃ value, patternValue first step i j mode.toVbeModeInfo c = .ok value ∧
      value.toNat = ((field mode.toVbeModeInfo c).get first.toNat >>>
          (field mode.toVbeModeInfo c).position + distance i j c * step.toNat) %
        2 ^ (field mode.toVbeModeInfo c).size :=
  patternComponent_eq (defined c).1 (defined c).2 first _

/-- The value of a component in `graphics.c`. -/
theorem directValue_eq (defined : ShiftsDefined mode.toVbeModeInfo) (c : Component) :
    ∃ value, directValue first step i j mode.toVbeModeInfo c = .ok value ∧
      value.toNat = ((field mode.toVbeModeInfo c).get first.toNat + distance i j c * step.toNat) %
        2 ^ (field mode.toVbeModeInfo c).size := by
  have steps : ∀ k : Nat, UInt32.ofNat k * step.toUInt32 = UInt32.ofNat (k * step.toNat) := by
    intro k
    rw [UInt32.ofNat_mul, UInt32.ofNat_uInt8ToNat]
  obtain ⟨value, computed, equal⟩ :=
    directComponent_eq (defined c).1 (defined c).2 first (distance i j c * step.toNat)
  rw [← steps] at computed
  refine ⟨value, ?_, equal⟩
  cases c with
  | red => exact computed
  | green => exact computed
  | blue =>
      have sum : UInt32.ofNat (distance i j .blue) = UInt32.ofNat i + UInt32.ofNat j :=
        UInt32.ofNat_add i j
      rw [sum] at computed
      exact computed

/-! ### The right colour -/

/-- The colour of the rectangle in row `i` and column `j` has the components that are asked for, and
is the one that `graphics.c` computes. -/
structure RightColor (info : VbeModeInfo) (first : UInt32) (step : UInt8) (i j : Nat)
    (color : UInt32) : Prop where
  red : (field info .red).get color.toNat =
    ((field info .red).get first.toNat + j * step.toNat) % 2 ^ info.redMaskSize.toNat
  green : (field info .green).get color.toNat =
    ((field info .green).get first.toNat + i * step.toNat) % 2 ^ info.greenMaskSize.toNat
  blue : (field info .blue).get color.toNat =
    ((field info .blue).get first.toNat + (i + j) * step.toNat) % 2 ^ info.blueMaskSize.toNat
  direct : Graphics.directColor info (UInt32.ofNat i) (UInt32.ofNat j) step first = .ok color

theorem RightColor.component {info : VbeModeInfo} {color : UInt32}
    (right : RightColor info first step i j color) (c : Component) :
    (field info c).get color.toNat =
      ((field info c).get first.toNat + distance i j c * step.toNat) % 2 ^ (field info c).size := by
  cases c with
  | red => exact right.red
  | green => exact right.green
  | blue => exact right.blue

/-- No second shift changes a component of the first colour. -/
def Unharmed (info : VbeModeInfo) (first : UInt32) : Prop :=
  ∀ c, (field info c).position = 0 ∨ (field info c).get first.toNat = 0

theorem unharmed_of_right {color : UInt32} {noRectangles : UInt8}
    (computed : patternColor (mapVram mode.toVbeModeInfo) noRectangles first step i j = .ok color)
    (right : RightColor mode.toVbeModeInfo first step i j color) :
    ShiftsDefined mode.toVbeModeInfo ∧ Unharmed mode.toVbeModeInfo first := by
  obtain ⟨values, computes⟩ := values_of_patternColor computed
  have defined := shiftsDefined_of_values computes
  have valueOf : ∀ c, (values c).toNat = ((field mode.toVbeModeInfo c).get first.toNat >>>
      (field mode.toVbeModeInfo c).position + distance i j c * step.toNat) %
        2 ^ (field mode.toVbeModeInfo c).size := by
    intro c
    obtain ⟨value, computesValue, equal⟩ := @patternValue_eq mode first step i j defined c
    rw [computes c] at computesValue
    cases computesValue
    exact equal
  have fit : ∀ c, (values c).toNat < 2 ^ (field mode.toVbeModeInfo c).size := by
    intro c
    rw [valueOf c]
    exact Nat.mod_lt _ (Nat.two_pow_pos _)
  obtain ⟨assembled, assembles, packed⟩ := directMode_eq defined fit
  rw [patternColor_of_values computes, assembles] at computed
  cases computed
  refine ⟨defined, ?_⟩
  intro c
  have same := right.component c
  rw [packed, get_entries fit] at same
  rw [valueOf c] at same
  exact (shifted_twice_iff _ _).mp same

theorem right_of_unharmed (noRectangles : UInt8) (defined : ShiftsDefined mode.toVbeModeInfo)
    (unharmed : Unharmed mode.toVbeModeInfo first) :
    ∃ color, patternColor (mapVram mode.toVbeModeInfo) noRectangles first step i j = .ok color ∧
      RightColor mode.toVbeModeInfo first step i j color := by
  choose values computes valueOf using @directValue_eq mode first step i j defined
  have fit : ∀ c, (values c).toNat < 2 ^ (field mode.toVbeModeInfo c).size := by
    intro c
    rw [valueOf c]
    exact Nat.mod_lt _ (Nat.two_pow_pos _)
  obtain ⟨color, assembles, packed⟩ := directMode_eq defined fit
  have fields : ∀ c, (field mode.toVbeModeInfo c).get color.toNat = (values c).toNat := by
    intro c
    rw [packed, get_entries fit]
  have patternComputes :
      ∀ c, patternValue first step i j mode.toVbeModeInfo c = .ok (values c) := by
    intro c
    obtain ⟨value, computed, equal⟩ := @patternValue_eq mode first step i j defined c
    rw [(shifted_twice_iff _ _).mpr (unharmed c), ← valueOf c] at equal
    rw [computed, UInt32.toNat_inj.mp equal]
  refine ⟨color, (patternColor_of_values patternComputes).trans assembles, ?_⟩
  constructor
  · exact (fields .red).trans (valueOf .red)
  · exact (fields .green).trans (valueOf .green)
  · exact (fields .blue).trans (valueOf .blue)
  · have red : Graphics.red _ _ step first = .ok _ := computes .red
    have green : Graphics.green _ _ step first = .ok _ := computes .green
    have blue : Graphics.blue _ _ _ step first = .ok _ := computes .blue
    rw [Graphics.directColor, red, green, blue]
    exact assembles

/-- A rectangle of the pattern has the right colour exactly when every component of the first colour
lies at position 0 or is zero, and C defines the shifts. -/
theorem right_color_iff (mode : DirectColorMode) (noRectangles : UInt8) (first : UInt32)
    (step : UInt8) (i j : Fin noRectangles.toNat) :
    (∃ call, patternCall (mapVram mode.toVbeModeInfo) noRectangles first step i j = .ok call ∧
        RightColor mode.toVbeModeInfo first step i j call.color) ↔
      ShiftsDefined mode.toVbeModeInfo ∧
        ∀ c, (field mode.toVbeModeInfo c).position = 0 ∨
          (field mode.toVbeModeInfo c).get first.toNat = 0 := by
  constructor
  · rintro ⟨call, called, right⟩
    cases computed : patternColor (mapVram mode.toVbeModeInfo) noRectangles first step i j with
    | error fault =>
        rw [patternCall, computed] at called
        cases called
    | ok color =>
        rw [patternCall, computed] at called
        cases called
        exact unharmed_of_right computed right
  · rintro ⟨defined, unharmed⟩
    obtain ⟨color, computed, right⟩ := right_of_unharmed noRectangles defined unharmed
    rw [patternCall, computed]
    exact ⟨_, rfl, right⟩

/-- Mode `0x115`, with eight bits for each component. -/
def mode115 : DirectColorMode where
  xResolution := 800
  yResolution := 600
  bitsPerPixel := 24
  memoryModel := 0x06
  redMaskSize := 8
  redFieldPosition := 16
  greenMaskSize := 8
  greenFieldPosition := 8
  blueMaskSize := 8
  blueFieldPosition := 0
  direct := rfl
  inside := by
    intro c
    cases c <;> decide
  apart := by
    rintro c d other k ⟨⟨lower, upper⟩, ⟨lower', upper'⟩⟩
    cases c <;> cases d <;> simp [field, fieldPosition, maskSize] at * <;> omega

/-- A single rectangle of a medium red is drawn in black. -/
theorem red_component_is_lost :
    ¬ ∃ call, patternCall (mapVram mode115.toVbeModeInfo) 1 0x800000 0 0 0 = .ok call ∧
      RightColor mode115.toVbeModeInfo 0x800000 0 0 0 call.color := by
  rintro ⟨call, called, right⟩
  have black : patternCall (mapVram mode115.toVbeModeInfo) 1 0x800000 0 0 0 =
      .ok { x := 0, y := 0, width := 800, height := 600, color := 0 } := by decide
  rw [black] at called
  cases called
  exact absurd right.red (by decide)

end TypingTutor.Pattern
