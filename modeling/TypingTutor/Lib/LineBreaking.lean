/-
Module: TypingTutor.Lib.LineBreaking
Layer: Lib
Purpose: Greedy line filling.  Items of given widths are placed from left to right, and a new line
  starts when the next item would pass the right limit.  Line numbers grow by at most one from item to
  item, and the items of any one line fit on a line of their own, so they stay together when the page
  is filled again starting with them.  On a page of cells the filling is greedy word wrap.
Trusted boundary: none
Main exports: Page, place, lines, Fits, lines_isChain, fits_itemsOnLine, lines_of_fits, fits_width,
  wrap, place_cellPage, wrap_isChain, wrap_pairwise, wrap_within
-/
import Mathlib.Data.List.Chain
import Mathlib.Algebra.Order.Ring.Int
import Mathlib.Tactic.Linarith
import Mathlib.Tactic.Ring

namespace LineBreaking

/-- A page: where lines start, the last usable column, and the gap between items. -/
structure Page where
  left : Int
  limit : Int
  gap : Int

variable (page : Page)

/-- Line number and column of every item, from the given line and column on. -/
def place : Int → Int → List Int → List (Int × Int)
  | _, _, [] => []
  | line, x, [_] => [(line, x)]
  | line, x, width :: next :: rest =>
      (line, x) ::
        if x + width + next > page.limit then place (line + 1) page.left (next :: rest)
        else place line (x + width + page.gap) (next :: rest)

/-- The line numbers alone. -/
def lines (line x : Int) (widths : List Int) : List Int := (place page line x widths).map Prod.fst

variable {page}

@[simp] theorem length_place (line x : Int) (widths : List Int) :
    (place page line x widths).length = widths.length := by
  fun_induction place page line x widths with
  | case1 => rfl
  | case2 => rfl
  | case3 line x width next rest broken fitting =>
      rw [List.length_cons, List.length_cons, Nat.add_right_cancel_iff]
      split
      · exact broken
      · exact fitting

@[simp] theorem length_lines (line x : Int) (widths : List Int) :
    (lines page line x widths).length = widths.length := by
  rw [lines, List.length_map, length_place]

/-- The first item is where placing starts. -/
theorem head_place (line x width : Int) (rest : List Int) :
    (place page line x (width :: rest)).head? = some (line, x) := by
  cases rest with
  | nil => rfl
  | cons next rest => rfl

/-- Line numbers over one item and the rest. -/
theorem lines_cons_cons (line x width next : Int) (rest : List Int) :
    lines page line x (width :: next :: rest) =
      line ::
        if x + width + next > page.limit then lines page (line + 1) page.left (next :: rest)
        else lines page line (x + width + page.gap) (next :: rest) := by
  rw [lines, place, List.map_cons]
  split
  · rfl
  · rfl

theorem lines_singleton (line x width : Int) : lines page line x [width] = [line] := rfl

theorem head_lines (line x width : Int) (rest : List Int) :
    (lines page line x (width :: rest)).head? = some line := by
  rw [lines, List.head?_map, head_place]
  rfl

/-- The line of the last item, over one item and the rest. -/
theorem getLast?_lines_cons_cons (line x width next : Int) (rest : List Int) :
    (lines page line x (width :: next :: rest)).getLast? =
      if x + width + next > page.limit then
        (lines page (line + 1) page.left (next :: rest)).getLast?
      else (lines page line (x + width + page.gap) (next :: rest)).getLast? := by
  have tail : ∀ start column, (line :: lines page start column (next :: rest)).getLast? =
      (lines page start column (next :: rest)).getLast? := by
    intro start column
    obtain ⟨number, others, shape⟩ := List.exists_cons_of_length_pos
      (by simp : 0 < (lines page start column (next :: rest)).length)
    rw [shape, List.getLast?_cons_cons]
  rw [lines_cons_cons]
  split
  · exact tail _ _
  · exact tail _ _

/-- From item to item the line number stays or grows by one. -/
theorem lines_isChain (line x : Int) (widths : List Int) :
    (lines page line x widths).IsChain fun first second => second = first ∨ second = first + 1 := by
  fun_induction place page line x widths with
  | case1 => exact .nil
  | case2 line x width => exact .singleton line
  | case3 line x width next rest broken fitting =>
      rw [lines_cons_cons, List.isChain_cons]
      split
      · refine ⟨?_, broken⟩
        intro second member
        rw [head_lines, Option.mem_some_iff] at member
        exact .inr member.symm
      · refine ⟨?_, fitting⟩
        intro second member
        rw [head_lines, Option.mem_some_iff] at member
        exact .inl member.symm

/-- No line number is below the first. -/
theorem le_of_mem_lines {line x : Int} {widths : List Int} :
    ∀ number ∈ lines page line x widths, line ≤ number := by
  fun_induction place page line x widths with
  | case1 =>
      intro number member
      cases member
  | case2 line x width =>
      intro number member
      rw [lines_singleton, List.mem_singleton] at member
      exact member.ge
  | case3 line x width next rest broken fitting =>
      intro number member
      rw [lines_cons_cons] at member
      rcases List.mem_cons.mp member with rfl | later
      · exact le_refl number
      · split at later
        · have := broken number later
          omega
        · exact fitting number later

/-- The next item is on the same line or on the next one. -/
theorem lines_step {line x : Int} {widths : List Int} {i : Nat} {here next : Int}
    (first : (lines page line x widths)[i]? = some here)
    (second : (lines page line x widths)[i + 1]? = some next) : next = here ∨ next = here + 1 := by
  obtain ⟨inside, rfl⟩ := List.getElem?_eq_some_iff.mp first
  obtain ⟨insideNext, rfl⟩ := List.getElem?_eq_some_iff.mp second
  exact List.isChain_iff_getElem.mp (lines_isChain line x widths) i insideNext

/-- Line numbers never go back. -/
theorem lines_pairwise (line x : Int) (widths : List Int) :
    (lines page line x widths).Pairwise fun first second => first ≤ second := by
  apply List.isChain_iff_pairwise.mp
  apply (lines_isChain line x widths).imp
  intro first second step
  omega

theorem lines_mono {line x : Int} {widths : List Int} {i j : Nat} {here later : Int}
    (first : (lines page line x widths)[i]? = some here)
    (second : (lines page line x widths)[j]? = some later) (before : i ≤ j) : here ≤ later := by
  obtain ⟨inside, rfl⟩ := List.getElem?_eq_some_iff.mp first
  obtain ⟨insideNext, rfl⟩ := List.getElem?_eq_some_iff.mp second
  rcases Nat.lt_or_eq_of_le before with earlier | rfl
  · exact List.pairwise_iff_getElem.mp (lines_pairwise line x widths) i j inside insideNext earlier
  · exact le_refl _

/-- The last item is on the last line. -/
theorem le_last_of_lines {line x : Int} {widths : List Int} {i : Nat} {here last : Int}
    (number : (lines page line x widths)[i]? = some here)
    (ending : (lines page line x widths).getLast? = some last) : here ≤ last := by
  rw [List.getLast?_eq_getElem?] at ending
  apply lines_mono number ending
  have inside := (List.getElem?_eq_some_iff.mp number).1
  omega

/-! ### The items of one line -/

/-- The items fit on one line from column `x` on. -/
def Fits (page : Page) : Int → List Int → Prop
  | _, [] => True
  | _, [_] => True
  | x, width :: next :: rest =>
      x + width + next ≤ page.limit ∧ Fits page (x + width + page.gap) (next :: rest)

/-- Items that fit on one line stay on it, whatever follows them. -/
theorem lines_of_fits {x : Int} {widths : List Int} (fits : Fits page x widths) (line : Int)
    (rest : List Int) :
    (lines page line x (widths ++ rest)).take widths.length =
      List.replicate widths.length line := by
  fun_induction Fits page x widths with
  | case1 => rfl
  | case2 x width =>
      cases rest with
      | nil => rfl
      | cons next rest =>
          rw [List.singleton_append, lines_cons_cons]
          rfl
  | case3 x width next widths inductionHypothesis =>
      have room : ¬ x + width + next > page.limit := not_lt.mpr fits.1
      rw [List.cons_append, List.cons_append, lines_cons_cons, if_neg room, List.length_cons,
        List.take_succ_cons, List.replicate_succ]
      exact congrArg (List.cons line) (inductionHypothesis fits.2)

/-- The widths of the items on line `number`. -/
def itemsOnLine (page : Page) (number line x : Int) (widths : List Int) : List Int :=
  ((widths.zip (lines page line x widths)).filter fun item => item.2 = number).map Prod.fst

theorem itemsOnLine_of_lt {number line x : Int} (widths : List Int) (before : number < line) :
    itemsOnLine page number line x widths = [] := by
  rw [itemsOnLine, List.map_eq_nil_iff, List.filter_eq_nil_iff]
  intro item member
  have later := le_of_mem_lines _ (List.of_mem_zip member).2
  simp only [decide_eq_true_eq]
  omega

theorem itemsOnLine_singleton (number line x width : Int) :
    itemsOnLine page number line x [width] = if line = number then [width] else [] := by
  rw [itemsOnLine, lines_singleton]
  by_cases here : line = number
  · simp [here]
  · simp [here]

/-- The items of a line, over one item and the rest. -/
theorem itemsOnLine_cons_cons (number line x width next : Int) (rest : List Int) :
    itemsOnLine page number line x (width :: next :: rest) =
      (if line = number then [width] else []) ++
        if x + width + next > page.limit then
          itemsOnLine page number (line + 1) page.left (next :: rest)
        else itemsOnLine page number line (x + width + page.gap) (next :: rest) := by
  simp only [itemsOnLine, lines_cons_cons, List.zip_cons_cons, List.filter_cons, decide_eq_true_eq]
  by_cases here : line = number
  · rw [if_pos here, if_pos here]
    split
    · rfl
    · rfl
  · rw [if_neg here, if_neg here]
    split
    · rfl
    · rfl

/-- The first line starts with the first item. -/
theorem itemsOnLine_first (line x width : Int) (rest : List Int) :
    ∃ others, itemsOnLine page line line x (width :: rest) = width :: others := by
  cases rest with
  | nil => exact ⟨[], by rw [itemsOnLine_singleton, if_pos rfl]⟩
  | cons next rest =>
      rw [itemsOnLine_cons_cons, if_pos rfl, List.singleton_append]
      exact ⟨_, rfl⟩

/-- The items of a line fit on a line: on the first one from the column where placing starts, on
every later one from the left margin. -/
theorem fits_itemsOnLine (number line x : Int) (widths : List Int) :
    (number = line → Fits page x (itemsOnLine page number line x widths)) ∧
      (line < number → Fits page page.left (itemsOnLine page number line x widths)) := by
  fun_induction place page line x widths with
  | case1 => exact ⟨fun _ => trivial, fun _ => trivial⟩
  | case2 line x width =>
      rw [itemsOnLine_singleton]
      split_ifs
      · exact ⟨fun _ => trivial, fun _ => trivial⟩
      · exact ⟨fun _ => trivial, fun _ => trivial⟩
  | case3 line x width next rest broken fitting =>
      rw [itemsOnLine_cons_cons]
      by_cases full : x + width + next > page.limit
      · simp only [if_pos full]
        constructor
        · intro first
          rw [if_pos first.symm, itemsOnLine_of_lt _ (by omega)]
          trivial
        · intro later
          rw [if_neg (by omega), List.nil_append]
          rcases Int.lt_or_eq_of_le (Int.add_one_le_iff.mpr later) with beyond | second
          · exact broken.2 beyond
          · exact broken.1 second.symm
      · simp only [if_neg full]
        constructor
        · intro first
          subst first
          obtain ⟨others, items⟩ :=
            @itemsOnLine_first page number (x + width + page.gap) next rest
          rw [if_pos rfl, List.singleton_append, items]
          refine ⟨not_lt.mp full, ?_⟩
          rw [← items]
          exact fitting.1 rfl
        · intro later
          rw [if_neg (by omega), List.nil_append]
          exact fitting.2 later

/-- Items of a least width that fit on a line are not too many. -/
theorem fits_width {x narrow : Int} {widths : List Int} (fits : Fits page x widths)
    (wide : ∀ width ∈ widths, narrow ≤ width) (count : Nat) (size : widths.length = count + 2) :
    x + count * (narrow + page.gap) + 2 * narrow ≤ page.limit := by
  induction count generalizing x widths with
  | zero =>
      match widths, size with
      | [width, next], _ =>
          have first := wide width (by simp)
          have second := wide next (by simp)
          have room := fits.1
          push_cast
          omega
  | succ count inductionHypothesis =>
      match widths, size with
      | width :: next :: rest, size =>
          have first := wide width (by simp)
          have later := inductionHypothesis fits.2
            (fun other member => wide other (List.mem_cons_of_mem _ member))
            (Nat.succ.inj size)
          push_cast
          linarith

/-! ### Word wrap in cells -/

/-- Greedy word wrap with one blank cell between words: line and first cell of every word, from the
given line and cell on. -/
def wrap (columns : Nat) : Nat → Nat → List Nat → List (Nat × Nat)
  | _, _, [] => []
  | line, cell, [_] => [(line, cell)]
  | line, cell, length :: next :: rest =>
      (line, cell) ::
        if cell + length + 1 + next > columns then wrap columns (line + 1) 0 (next :: rest)
        else wrap columns line (cell + length + 1) (next :: rest)

/-- A page of cells that are `unit` wide. -/
def cellPage (left unit : Int) (columns : Nat) : Page :=
  { left := left, limit := left + unit * columns - 1, gap := unit }

section Cells

variable {columns : Nat}

@[simp] theorem length_wrap (line cell : Nat) (lengths : List Nat) :
    (wrap columns line cell lengths).length = lengths.length := by
  fun_induction wrap columns line cell lengths with
  | case1 => rfl
  | case2 => rfl
  | case3 line cell length next rest broken fitting =>
      rw [List.length_cons, List.length_cons, Nat.add_right_cancel_iff]
      split
      · exact broken
      · exact fitting

theorem head_zip_wrap (line cell length : Nat) (rest : List Nat) :
    ((wrap columns line cell (length :: rest)).zip (length :: rest)).head? =
      some ((line, cell), length) := by
  cases rest with
  | nil => rfl
  | cons next rest => rfl

/-- On a page of cells every item starts at a cell.  The test for a line break leaves the gap out and
has a limit that is one less, which comes to the same because everything is a whole number of cells. -/
theorem place_cellPage {left unit : Int} (positive : 0 < unit) (line cell : Nat)
    (lengths : List Nat) :
    place (cellPage left unit columns) line (left + unit * cell)
        (lengths.map fun length : Nat => (length : Int) * unit) =
      (wrap columns line cell lengths).map fun station : Nat × Nat =>
        ((station.1 : Int), left + unit * (station.2 : Int)) := by
  have breaks : ∀ cell length next : Nat,
      left + unit * cell + length * unit + next * unit > (cellPage left unit columns).limit ↔
        cell + length + 1 + next > columns := by
    intro cell length next
    have scaled : left + unit * cell + length * unit + next * unit =
        left + unit * ((cell + length + next : Nat) : Int) := by
      push_cast
      ring
    rw [scaled, cellPage]
    constructor
    · intro past
      have most : unit * (columns : Int) ≤ unit * ((cell + length + next : Nat) : Int) := by
        linarith [Int.add_one_le_iff.mpr past]
      have cells := Int.le_of_mul_le_mul_left most positive
      omega
    · intro past
      have cells : (columns : Int) ≤ ((cell + length + next : Nat) : Int) := by omega
      have most := Int.mul_le_mul_of_nonneg_left cells positive.le
      change left + unit * (columns : Int) - 1 < _
      linarith
  fun_induction wrap columns line cell lengths with
  | case1 => rfl
  | case2 => rfl
  | case3 line cell length next rest broken fitting =>
      rw [List.map_cons, List.map_cons, place, List.map_cons]
      rw [List.map_cons, Nat.cast_zero, mul_zero, add_zero, Nat.cast_add, Nat.cast_one] at broken
      have behind : left + unit * ((cell + length + 1 : Nat) : Int) =
          left + unit * cell + length * unit + (cellPage left unit columns).gap := by
        rw [cellPage]
        push_cast
        ring
      rw [List.map_cons, behind] at fitting
      by_cases full : cell + length + 1 + next > columns
      · rw [if_pos ((breaks cell length next).mpr full), if_pos full]
        exact congrArg (List.cons _) broken
      · rw [if_neg (mt (breaks cell length next).mp full), if_neg full]
        exact congrArg (List.cons _) fitting

/-- Where the word after a placed word goes: behind one blank cell, or at the start of the next line
when it would pass the last column. -/
def Follows (columns : Nat) (first second : (Nat × Nat) × Nat) : Prop :=
  second.1 =
    if first.1.2 + first.2 + 1 + second.2 > columns then (first.1.1 + 1, 0)
    else (first.1.1, first.1.2 + first.2 + 1)

/-- Greedy word wrap, word by word. -/
theorem wrap_isChain (line cell : Nat) (lengths : List Nat) :
    ((wrap columns line cell lengths).zip lengths).IsChain (Follows columns) := by
  fun_induction wrap columns line cell lengths with
  | case1 => exact .nil
  | case2 line cell length => exact .singleton _
  | case3 line cell length next rest broken fitting =>
      rw [List.zip_cons_cons, List.isChain_cons]
      by_cases full : cell + length + 1 + next > columns
      · rw [if_pos full]
        refine ⟨?_, broken⟩
        intro second member
        rw [head_zip_wrap, Option.mem_some_iff] at member
        subst member
        exact (if_pos full).symm
      · rw [if_neg full]
        refine ⟨?_, fitting⟩
        intro second member
        rw [head_zip_wrap, Option.mem_some_iff] at member
        subst member
        exact (if_neg full).symm

/-- One word is on an earlier line, or ends before the other begins. -/
def Before (first second : (Nat × Nat) × Nat) : Prop :=
  first.1.1 < second.1.1 ∨ first.1.1 = second.1.1 ∧ first.1.2 + first.2 < second.1.2

instance : IsTrans ((Nat × Nat) × Nat) Before where
  trans := by
    intro first second third one two
    unfold Before at one two ⊢
    omega

theorem Follows.before {first second : (Nat × Nat) × Nat} (follows : Follows columns first second) :
    Before first second := by
  unfold Follows at follows
  unfold Before
  rw [follows]
  split
  · exact .inl (Nat.lt_succ_self _)
  · exact .inr ⟨rfl, Nat.lt_succ_self _⟩

/-- Any two words are apart, in the order of the text. -/
theorem wrap_pairwise (line cell : Nat) (lengths : List Nat) :
    ((wrap columns line cell lengths).zip lengths).Pairwise Before :=
  List.isChain_iff_pairwise.mp ((wrap_isChain line cell lengths).imp fun _ _ => Follows.before)

/-- Words that fit on a line of their own never pass the last column. -/
theorem wrap_within {line cell : Nat} {lengths : List Nat}
    (short : ∀ length ∈ lengths, length ≤ columns)
    (first : ∀ length ∈ lengths.head?, cell + length ≤ columns) :
    ∀ station ∈ (wrap columns line cell lengths).zip lengths,
      station.1.2 + station.2 ≤ columns := by
  fun_induction wrap columns line cell lengths with
  | case1 => simp
  | case2 line cell length => simpa using first
  | case3 line cell length next rest broken fitting =>
      intro station member
      have shortRest : ∀ length ∈ next :: rest, length ≤ columns :=
        fun other member => short other (List.mem_cons_of_mem _ member)
      rw [List.zip_cons_cons] at member
      rcases List.mem_cons.mp member with rfl | later
      · exact first length (by simp)
      · split at later
        · exact broken shortRest (by simpa using shortRest next List.mem_cons_self) station later
        · exact fitting shortRest (by simp; omega) station later

end Cells

end LineBreaking
