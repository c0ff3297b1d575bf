/-
Module: TypingTutor.Lib.CFormat
Layer: Lib
Purpose: Decimal formatting and scanning with the meaning the C library gives to `%d`, `%0wd`, `%hhu`
  and to white space and literal characters of a `scanf` format.  The printers and the scanner are
  inverse to each other as long as the printed number is not followed by another digit.
Imports: core lemmas on `Nat.toDigits` and `Nat.ofDigitChars`
Trusted boundary: human-reviewed spec
Main exports: printInt, printPadded, Directive, scanf, scanf_stored, scanNumber_printInt,
  scanNumber_printPadded
-/
import Mathlib.Algebra.Ring.Int.Defs
import Mathlib.Algebra.Ring.Nat
import Mathlib.Data.List.Basic
import Mathlib.Data.List.DropRight
import Mathlib.Data.List.TakeWhile
import Mathlib.Tactic.Cases
import Mathlib.Tactic.Positivity

namespace CFormat

/-! ### Printing -/

/-- `%d`. -/
def printInt (value : Int) : List Char :=
  if value < 0 then '-' :: Nat.toDigits 10 value.natAbs
  else Nat.toDigits 10 value.natAbs

/-- `%0wd` on a value that is not negative. -/
def printPadded (width value : Nat) : List Char :=
  List.replicate (width - (Nat.toDigits 10 value).length) '0' ++ Nat.toDigits 10 value

/-- `%wd`: right-justified in a field of blanks. -/
def printSpaced (width : Nat) (value : Int) : List Char :=
  List.replicate (width - (printInt value).length) ' ' ++ printInt value

/-! ### Widths -/

theorem length_printPadded (width value : Nat) :
    (printPadded width value).length = max width (Nat.toDigits 10 value).length := by
  rw [printPadded, List.length_append, List.length_replicate]
  omega

theorem length_printSpaced (width : Nat) (value : Int) :
    (printSpaced width value).length = max width (printInt value).length := by
  rw [printSpaced, List.length_append, List.length_replicate]
  omega

/-- A byte takes two columns, and a third from 100 on. -/
theorem length_printPadded_two {value : Nat} (small : value < 1000) :
    (printPadded 2 value).length = 2 + if 100 ≤ value then 1 else 0 := by
  have two := @Nat.length_toDigits_le_iff 10 value 2 (by decide) (by decide)
  have three := @Nat.length_toDigits_le_iff 10 value 3 (by decide) (by decide)
  rw [length_printPadded]
  split
  · omega
  · omega

/-- The numbers of at most `columns + 1` characters, of which a negative number gives one to its
sign. -/
theorem length_printInt_le_iff {columns : Nat} (some : 0 < columns) (value : Int) :
    (printInt value).length ≤ columns + 1 ↔
      -10 ^ columns < value ∧ value < 10 ^ (columns + 1) := by
  have digits := @Nat.length_toDigits_le_iff 10 value.natAbs columns (by decide) some
  have moreDigits :=
    @Nat.length_toDigits_le_iff 10 value.natAbs (columns + 1) (by decide) (Nat.succ_pos columns)
  have positive : (0 : Int) < 10 ^ (columns + 1) := by positivity
  have cast : ((10 ^ columns : Nat) : Int) = 10 ^ columns := by norm_cast
  have moreCast : ((10 ^ (columns + 1) : Nat) : Int) = 10 ^ (columns + 1) := by norm_cast
  unfold printInt
  split
  · rw [List.length_cons, Nat.succ_le_succ_iff, digits]
    omega
  · have below : (0 : Int) < 10 ^ columns := by positivity
    rw [moreDigits]
    omega

/-! ### Scanning -/

/-- `isspace` in the C locale. -/
def isSpace (c : Char) : Bool :=
  c == ' ' || c == '\t' || c == '\n' || c == '\x0b' || c == '\x0c' || c == '\r'

def skipSpace (input : List Char) : List Char := input.dropWhile isSpace

/-- A nonempty run of decimal digits, with its value and what follows it. -/
def scanDigits (input : List Char) : Option (Nat × List Char) :=
  match input.takeWhile Char.isDigit with
  | [] => none
  | digits => some (Nat.ofDigitChars 10 digits 0, input.dropWhile Char.isDigit)

/-- An optionally signed decimal number, as `strtol` and `strtoul` in base 10 accept it. -/
def scanNumber (input : List Char) : Option (Int × List Char) :=
  match input with
  | '-' :: tail => (scanDigits tail).map fun (value, rest) => (-(value : Int), rest)
  | '+' :: tail => (scanDigits tail).map fun (value, rest) => ((value : Int), rest)
  | _ => (scanDigits input).map fun (value, rest) => ((value : Int), rest)

/-- One element of a `scanf` format: white space, an ordinary character, or a number stored through
a conversion to the type of its destination. -/
inductive Directive where
  | space
  | literal (c : Char)
  | number (store : Int → Int)

/-- What `%d` stores: the value limited to `intmax_t`, cut down to 32 bits. -/
def storeInt (value : Int) : Int :=
  (max (-2 ^ 63) (min value (2 ^ 63 - 1))).bmod (2 ^ 32)

/-- What `%hhu` stores: the value as an `uintmax_t` (out of range: the largest one), cut down to 8
bits. -/
def storeByte (value : Int) : Int :=
  (if value.natAbs < 2 ^ 64 then value else 2 ^ 64 - 1) % 2 ^ 8

/-- `scanf`: the values assigned before the first directive that does not match, and the input left
over. -/
def scanf : List Directive → List Char → List Int × List Char
  | [], input => ([], input)
  | .space :: rest, input => scanf rest (skipSpace input)
  | .literal c :: rest, input =>
      match input with
      | [] => ([], [])
      | d :: tail => if d = c then scanf rest tail else ([], d :: tail)
  | .number store :: rest, input =>
      match scanNumber (skipSpace input) with
      | none => ([], skipSpace input)
      | some (value, tail) =>
          let scanned := scanf rest tail
          (store value :: scanned.1, scanned.2)

/-! ### What a scan stores -/

/-- The conversions of a format, in order. -/
def storesOf (format : List Directive) : List (Int → Int) :=
  format.filterMap fun directive =>
    match directive with
    | .number store => some store
    | _ => none

/-- The values are results of the conversions, in order and as far as they go. -/
inductive Stored : List (Int → Int) → List Int → Prop where
  | stop (stores : List (Int → Int)) : Stored stores []
  | next {stores : List (Int → Int)} {values : List Int} (store : Int → Int) (raw : Int) :
      Stored stores values → Stored (store :: stores) (store raw :: values)

theorem scanf_stored (format : List Directive) (input : List Char) :
    Stored (storesOf format) (scanf format input).1 := by
  induction format generalizing input with
  | nil => exact .stop []
  | cons directive rest inductionHypothesis =>
      cases directive with
      | space => exact inductionHypothesis (skipSpace input)
      | literal c =>
          cases input with
          | nil => exact .stop _
          | cons d tail =>
              simp only [scanf]
              split
              · exact inductionHypothesis tail
              · exact .stop _
      | number store =>
          rw [scanf]
          split
          · exact .stop _
          · exact .next store _ (inductionHypothesis _)

/-! ### Printed numbers scan back -/

/-- The input does not continue with a digit. -/
def NoDigit (input : List Char) : Prop := ∀ c ∈ input.head?, c.isDigit = false

theorem noDigit_cons {c : Char} {input : List Char} (notDigit : c.isDigit = false) :
    NoDigit (c :: input) := by
  intro head member
  simp only [List.head?_cons, Option.mem_def, Option.some.injEq] at member
  rw [← member]
  exact notDigit

/-- A block of digits in front of a non-digit is exactly what `scanDigits` takes. -/
theorem scanDigits_append {digits rest : List Char} (nonempty : digits ≠ [])
    (allDigits : ∀ c ∈ digits, c.isDigit = true) (stop : NoDigit rest) :
    scanDigits (digits ++ rest) = some (Nat.ofDigitChars 10 digits 0, rest) := by
  have taken : (digits ++ rest).takeWhile Char.isDigit = digits := by
    rw [List.takeWhile_append_of_pos allDigits]
    cases rest with
    | nil => simp
    | cons c tail =>
        have notDigit : c.isDigit = false := stop c (by simp)
        simp [notDigit]
  have dropped : (digits ++ rest).dropWhile Char.isDigit = rest := by
    rw [List.dropWhile_append_of_pos allDigits]
    cases rest with
    | nil => simp
    | cons c tail =>
        have notDigit : c.isDigit = false := stop c (by simp)
        simp [notDigit]
  unfold scanDigits
  rw [taken, dropped]
  cases digits with
  | nil => exact absurd rfl nonempty
  | cons c tail => rfl

theorem isDigit_of_mem_decimal {value : Nat} {c : Char} (member : c ∈ Nat.toDigits 10 value) :
    c.isDigit = true :=
  Nat.isDigit_of_mem_toDigits (by decide) (by decide) member

theorem scanDigits_toDigits (value : Nat) {rest : List Char} (stop : NoDigit rest) :
    scanDigits (Nat.toDigits 10 value ++ rest) = some (value, rest) := by
  rw [scanDigits_append Nat.toDigits_ne_nil
    (fun c member => isDigit_of_mem_decimal member) stop]
  rw [Nat.ofDigitChars_ten_toDigits]

/-- A number that starts with a digit has no sign to skip. -/
theorem scanNumber_of_digit {c : Char} {tail : List Char} (digit : c.isDigit = true) :
    scanNumber (c :: tail) =
      (scanDigits (c :: tail)).map fun (value, rest) => ((value : Int), rest) := by
  unfold scanNumber
  split
  · rename_i equality
    cases equality
    simp at digit
  · rename_i equality
    cases equality
    simp at digit
  · rfl

theorem scanNumber_digits {digits rest : List Char} (nonempty : digits ≠ [])
    (allDigits : ∀ c ∈ digits, c.isDigit = true) (stop : NoDigit rest) :
    scanNumber (digits ++ rest) = some ((Nat.ofDigitChars 10 digits 0 : Int), rest) := by
  have scanned := scanDigits_append nonempty allDigits stop
  cases digits with
  | nil => exact absurd rfl nonempty
  | cons c tail =>
      rw [List.cons_append] at scanned ⊢
      rw [scanNumber_of_digit (allDigits c (by simp)), scanned]
      rfl

/-- `%d` reads back what `%d` printed. -/
theorem scanNumber_printInt (value : Int) {rest : List Char} (stop : NoDigit rest) :
    scanNumber (printInt value ++ rest) = some (value, rest) := by
  unfold printInt
  split
  · rename_i negative
    simp only [List.cons_append, scanNumber]
    rw [scanDigits_toDigits _ stop]
    simp only [Option.map_some, Option.some.injEq, Prod.mk.injEq, and_true]
    omega
  · rename_i notNegative
    rw [scanNumber_digits Nat.toDigits_ne_nil
      (fun c member => isDigit_of_mem_decimal member) stop,
      Nat.ofDigitChars_ten_toDigits]
    simp only [Option.some.injEq, Prod.mk.injEq, and_true]
    omega

/-- A zero-padded number reads back as the number, whatever its width. -/
theorem scanNumber_printPadded (width value : Nat) {rest : List Char} (stop : NoDigit rest) :
    scanNumber (printPadded width value ++ rest) = some ((value : Int), rest) := by
  have allDigits : ∀ c ∈ printPadded width value, c.isDigit = true := by
    intro c member
    rcases List.mem_append.mp member with padding | digit
    · rw [(List.mem_replicate.mp padding).2]
      rfl
    · exact isDigit_of_mem_decimal digit
  have nonempty : printPadded width value ≠ [] := by
    intro empty
    exact Nat.toDigits_ne_nil (List.append_eq_nil_iff.mp empty).2
  rw [scanNumber_digits nonempty allDigits stop]
  simp only [printPadded, Nat.ofDigitChars_append, Nat.ofDigitChars_replicate_zero, Nat.mul_zero,
    Nat.ofDigitChars_ten_toDigits]

/-! ### White space in front of a number -/

theorem isSpace_of_isDigit {c : Char} (digit : c.isDigit = true) : isSpace c = false := by
  by_contra space
  simp only [Bool.not_eq_false, isSpace, Bool.or_eq_true, beq_iff_eq] at space
  rcases space with ((((rfl | rfl) | rfl) | rfl) | rfl) | rfl <;> simp at digit

theorem skipSpace_cons_of_not {c : Char} (solid : isSpace c = false) (rest : List Char) :
    skipSpace (c :: rest) = c :: rest := by
  simp [skipSpace, solid]

theorem skipSpace_cons_of_space {c : Char} (space : isSpace c = true) (rest : List Char) :
    skipSpace (c :: rest) = skipSpace rest := by
  simp [skipSpace, space]

/-- A printed number starts with a sign or a digit, so there is no white space to skip. -/
theorem skipSpace_printInt (value : Int) (rest : List Char) :
    skipSpace (printInt value ++ rest) = printInt value ++ rest := by
  unfold printInt
  split
  · exact skipSpace_cons_of_not rfl _
  · cases digits : Nat.toDigits 10 value.natAbs with
    | nil => exact absurd digits Nat.toDigits_ne_nil
    | cons c tail =>
        have digit : c.isDigit = true :=
          @isDigit_of_mem_decimal value.natAbs c (by rw [digits]; simp)
        exact skipSpace_cons_of_not (isSpace_of_isDigit digit) _

theorem skipSpace_printPadded (width value : Nat) (rest : List Char) :
    skipSpace (printPadded width value ++ rest) = printPadded width value ++ rest := by
  cases text : printPadded width value with
  | nil =>
      exact absurd (List.append_eq_nil_iff.mp text).2 Nat.toDigits_ne_nil
  | cons c tail =>
      have member : c ∈ printPadded width value := by rw [text]; simp
      have digit : c.isDigit = true := by
        rcases List.mem_append.mp member with padding | digit
        · rw [(List.mem_replicate.mp padding).2]
          rfl
        · exact isDigit_of_mem_decimal digit
      exact skipSpace_cons_of_not (isSpace_of_isDigit digit) _

/-! ### One directive at a time -/

section Steps

variable (rest : List Directive) (store : Int → Int)

/-- A number directive on a printed integer. -/
theorem scanf_printInt (value : Int) {input : List Char} (stop : NoDigit input) :
    scanf (.number store :: rest) (printInt value ++ input) =
      (store value :: (scanf rest input).1, (scanf rest input).2) := by
  rw [scanf, skipSpace_printInt, scanNumber_printInt value stop]

/-- A number directive on a zero-padded number. -/
theorem scanf_printPadded (width value : Nat) {input : List Char} (stop : NoDigit input) :
    scanf (.number store :: rest) (printPadded width value ++ input) =
      (store value :: (scanf rest input).1, (scanf rest input).2) := by
  rw [scanf, skipSpace_printPadded, scanNumber_printPadded width value stop]

/-- A number directive skips the white space in front of its number. -/
theorem scanf_number_space {c : Char} (space : isSpace c = true) (input : List Char) :
    scanf (.number store :: rest) (c :: input) = scanf (.number store :: rest) input := by
  rw [scanf, scanf, skipSpace_cons_of_space space]

/-- A white-space directive in front of a number directive is idle: the number skips it anyway. -/
theorem scanf_space_number (input : List Char) :
    scanf (.space :: .number store :: rest) input = scanf (.number store :: rest) input := by
  have idempotent : skipSpace (skipSpace input) = skipSpace input :=
    List.dropWhile_idempotent _ _
  rw [scanf, scanf, scanf, idempotent]

theorem scanf_literal (c : Char) (input : List Char) :
    scanf (.literal c :: rest) (c :: input) = scanf rest input := by
  simp [scanf]

end Steps

/-! ### Values that survive the conversion to their destination -/

theorem storeInt_bounds (value : Int) : -2 ^ 31 ≤ storeInt value ∧ storeInt value < 2 ^ 31 := by
  have low := @Int.le_bmod (max (-2 ^ 63) (min value (2 ^ 63 - 1))) (2 ^ 32) (by decide)
  have high := @Int.bmod_lt (max (-2 ^ 63) (min value (2 ^ 63 - 1))) (2 ^ 32) (by decide)
  exact ⟨low, high⟩

theorem storeByte_bounds (value : Int) : 0 ≤ storeByte value ∧ storeByte value < 2 ^ 8 := by
  rw [storeByte]
  omega

theorem storeInt_of_range {value : Int} (low : -2 ^ 31 ≤ value) (high : value < 2 ^ 31) :
    storeInt value = value := by
  have limited : max (-2 ^ 63) (min value (2 ^ 63 - 1)) = value := by omega
  rw [storeInt, limited]
  exact Int.bmod_eq_of_le (by omega) (by omega)

theorem storeByte_of_lt {value : Nat} (small : value < 2 ^ 8) : storeByte value = value := by
  have inRange : (value : Int).natAbs < 2 ^ 64 := by omega
  rw [storeByte, if_pos inRange]
  omega

end CFormat
