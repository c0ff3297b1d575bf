/-
Module: TypingTutor.Lib.Raster
Layer: Lib
Purpose: Pictures kept as a row-major sequence of cells, a fixed number of them for each pixel.
  Different pixels have disjoint cells, so what a sequence of writes does is told pixel by pixel,
  and the pixels tell every cell.
Trusted boundary: none
Main exports: Raster.Geometry, Raster.store, Raster.foldlM_store, Raster.Painted, Raster.painted_store,
  Raster.Painted.trans, Raster.painted_foldlM, Raster.painted_rounds, Raster.lastPaint_eq,
  Raster.eq_of_pixels, Raster.Painted.unique, Raster.RepaintsIn, Raster.Repaints,
  Raster.Erases
-/
import Mathlib.Tactic.ByContra
import Mathlib.Data.List.Basic

namespace Raster

variable {α ε ι : Type}

/-- The size of a picture in pixels, and the number of cells of a pixel. -/
structure Geometry where
  width : Nat
  height : Nat
  depth : Nat

namespace Geometry

variable (g : Geometry)

def size : Nat := g.width * g.height * g.depth

/-- The first cell of a pixel. -/
def offset (px py : Nat) : Nat := (g.width * py + px) * g.depth

/-- The cells of a pixel. -/
def pixel (cells : List α) (px py : Nat) : List α := (cells.drop (g.offset px py)).take g.depth

variable {g}

theorem offset_add_depth_le {px py : Nat} (column : px < g.width) (row : py < g.height) :
    g.offset px py + g.depth ≤ g.size := by
  have pixels : g.width * py + px + 1 ≤ g.width * g.height := by
    have rows := Nat.mul_le_mul_left g.width (Nat.succ_le_of_lt row)
    rw [Nat.mul_succ] at rows
    omega
  have cells := Nat.mul_le_mul_right g.depth pixels
  rwa [Nat.succ_mul] at cells

/-- The cells of different pixels are apart. -/
theorem offset_disjoint {px py px' py' : Nat} (column : px < g.width) (column' : px' < g.width)
    (other : ¬ (px = px' ∧ py = py')) :
    g.offset px py + g.depth ≤ g.offset px' py' ∨ g.offset px' py' + g.depth ≤ g.offset px py := by
  have apart : ∀ {a b : Nat}, a < b → a * g.depth + g.depth ≤ b * g.depth := by
    intro a b less
    have cells := Nat.mul_le_mul_right g.depth (Nat.succ_le_of_lt less)
    rwa [Nat.succ_mul] at cells
  have numbers : g.width * py + px ≠ g.width * py' + px' := by
    intro same
    have rows := congrArg (· / g.width) same
    have columns := congrArg (· % g.width) same
    have positive : 0 < g.width := by omega
    simp only [Nat.mul_add_div positive, Nat.div_eq_of_lt column, Nat.div_eq_of_lt column',
      Nat.mul_add_mod, Nat.mod_eq_of_lt column, Nat.mod_eq_of_lt column'] at rows columns
    exact other ⟨columns, rows⟩
  rcases Nat.lt_or_gt_of_ne numbers with less | greater
  · exact .inl (apart less)
  · exact .inr (apart greater)

/-- Every cell of a picture is a cell of one of its pixels. -/
theorem exists_pixel {i : Nat} (inside : i < g.size) :
    ∃ px py lane, px < g.width ∧ py < g.height ∧ lane < g.depth ∧ i = g.offset px py + lane := by
  have depth : 0 < g.depth := by
    rcases Nat.eq_zero_or_pos g.depth with zero | positive
    · rw [size, zero, Nat.mul_zero] at inside
      omega
    · exact positive
  have number : i / g.depth < g.width * g.height := Nat.div_lt_of_lt_mul (Nat.mul_comm _ _ ▸ inside)
  have width : 0 < g.width := by
    rcases Nat.eq_zero_or_pos g.width with zero | positive
    · rw [zero, Nat.zero_mul] at number
      exact absurd number (Nat.not_lt_zero _)
    · exact positive
  refine ⟨i / g.depth % g.width, i / g.depth / g.width, i % g.depth, Nat.mod_lt _ width,
    Nat.div_lt_of_lt_mul number, Nat.mod_lt _ depth, ?_⟩
  rw [offset, Nat.div_add_mod, Nat.mul_comm, Nat.div_add_mod]

end Geometry

/-! ### Writing -/

/-- Write cells at an index; a write that leaves the picture is refused. -/
def store (cells : List α) (index : Nat) (values : List α) : Option (List α) :=
  if index + values.length ≤ cells.length then
    some (cells.take index ++ values ++ cells.drop (index + values.length))
  else none

theorem getElem?_store {cells written values : List α} {index : Nat}
    (stored : store cells index values = some written) (i : Nat) :
    written[i]? =
      if index ≤ i ∧ i < index + values.length then values[i - index]? else cells[i]? := by
  unfold store at stored
  split_ifs at stored with fits
  obtain rfl := Option.some.inj stored
  have before : (cells.take index).length = index := by
    rw [List.length_take]
    omega
  rw [List.append_assoc]
  by_cases early : i < index
  · rw [List.getElem?_append_left (by omega), List.getElem?_take_of_lt early, if_neg (by omega)]
  · rw [List.getElem?_append_right (by omega), before]
    by_cases inside : i < index + values.length
    · rw [List.getElem?_append_left (by omega), if_pos ⟨by omega, inside⟩]
    · rw [List.getElem?_append_right (by omega), List.getElem?_drop, if_neg (by omega)]
      congr 1
      omega

theorem length_store {cells written values : List α} {index : Nat}
    (stored : store cells index values = some written) : written.length = cells.length := by
  unfold store at stored
  split_ifs at stored with fits
  obtain rfl := Option.some.inj stored
  simp only [List.length_append, List.length_take, List.length_drop]
  omega

/-- A write that is continued by one cell. -/
theorem store_concat {cells written values : List α} {index : Nat} (value : α)
    (stored : store cells index values = some written)
    (fits : index + values.length < cells.length) :
    ∃ final, store written (index + values.length) [value] = some final ∧
      store cells index (values ++ [value]) = some final := by
  have length := length_store stored
  have storedRest : store written (index + values.length) [value] = some _ :=
    if_pos (by rw [List.length_singleton]; omega)
  have storedAll : store cells index (values ++ [value]) = some _ :=
    if_pos (by rw [List.length_append, List.length_singleton]; omega)
  refine ⟨_, storedRest, storedAll.trans (congrArg some (List.ext_getElem? fun i => ?_))⟩
  rw [getElem?_store storedAll, getElem?_store storedRest, getElem?_store stored,
    List.length_append, List.length_singleton]
  by_cases last : i = index + values.length
  · rw [if_pos (by omega), if_pos (by omega), List.getElem?_append_right (by omega)]
    congr 1
    omega
  · rw [if_neg (by omega : ¬ (index + values.length ≤ i ∧ i < index + values.length + 1))]
    by_cases inside : index ≤ i ∧ i < index + values.length
    · rw [if_pos (by omega), if_pos inside, List.getElem?_append_left (by omega)]
    · rw [if_neg (by omega), if_neg inside]

/-- Cells that are written one after the other. -/
theorem foldlM_store {step : List α → Nat → Except ε (List α)} {valueOf : Nat → α}
    {cells : List α} {index count : Nat} (fits : index + count ≤ cells.length)
    (steps : ∀ i < count, ∀ cells written, store cells (index + i) [valueOf i] = some written →
      step cells i = .ok written) :
    ∃ written, (List.range count).foldlM step cells = .ok written ∧
      store cells index ((List.range count).map valueOf) = some written := by
  induction count with
  | zero =>
      refine ⟨cells, rfl, (if_pos fits).trans ?_⟩
      rw [List.range_zero, List.map_nil, List.append_nil, List.length_nil, Nat.add_zero,
        List.take_append_drop]
  | succ count ih =>
      obtain ⟨written, ran, stored⟩ :=
        ih (by omega) (fun i before => steps i (Nat.lt_succ_of_lt before))
      have length : ((List.range count).map valueOf).length = count := by
        rw [List.length_map, List.length_range]
      obtain ⟨final, storedLast, storedAll⟩ := store_concat (valueOf count) stored (by omega)
      refine ⟨final, ?_, ?_⟩
      · rw [length] at storedLast
        rw [List.range_succ, List.foldlM_append, ran]
        change List.foldlM step written [count] = _
        rw [List.foldlM_cons, steps count (Nat.lt_succ_self count) _ _ storedLast]
        rfl
      · rw [List.range_succ, List.map_append]
        exact storedAll

variable {g : Geometry}

/-- Pixel by pixel, a picture is another one with some pixels painted over. -/
structure Painted (g : Geometry) (paint : Nat → Nat → Option (List α)) (before after : List α) :
    Prop where
  length : after.length = before.length
  pixel : ∀ px < g.width, ∀ py < g.height,
    g.pixel after px py = (paint px py).getD (g.pixel before px py)

theorem getElem?_pixel (cells : List α) (px py lane : Nat) :
    (g.pixel cells px py)[lane]? =
      if lane < g.depth then cells[g.offset px py + lane]? else none := by
  rw [Geometry.pixel, List.getElem?_take, List.getElem?_drop]

/-- A write of one pixel. -/
theorem painted_store {cells values : List α} {x y : Nat} (size : cells.length = g.size)
    (depth : values.length = g.depth) (column : x < g.width) (row : y < g.height) :
    ∃ written, store cells (g.offset x y) values = some written ∧
      Painted g (fun px py => if px = x ∧ py = y then some values else none) cells written := by
  have fits := Geometry.offset_add_depth_le column row
  have stored : store cells (g.offset x y) values = some _ := if_pos (by omega)
  refine ⟨_, stored, length_store stored, ?_⟩
  intro px insideColumn py insideRow
  apply List.ext_getElem?
  intro lane
  rw [getElem?_pixel, getElem?_store stored, depth]
  by_cases here : px = x ∧ py = y
  · obtain ⟨rfl, rfl⟩ := here
    rw [if_pos (⟨rfl, rfl⟩ : px = px ∧ py = py), Option.getD_some]
    by_cases inside : lane < g.depth
    · rw [if_pos inside, if_pos (by omega), Nat.add_sub_cancel_left]
    · rw [if_neg inside, List.getElem?_eq_none (by omega)]
  · rw [if_neg here, Option.getD_none, getElem?_pixel]
    have apart := Geometry.offset_disjoint insideColumn column here
    by_cases inside : lane < g.depth
    · rw [if_pos inside, if_pos inside, if_neg (by omega)]
    · rw [if_neg inside, if_neg inside]

namespace Painted

variable {paint paint' : Nat → Nat → Option (List α)} {before middle after : List α}

theorem refl (cells : List α) : Painted g (fun _ _ => none) cells cells where
  length := rfl
  pixel := fun _ _ _ _ => rfl

/-- Later paint covers earlier paint. -/
theorem trans (first : Painted g paint before middle) (second : Painted g paint' middle after) :
    Painted g (fun px py => (paint' px py).or (paint px py)) before after where
  length := second.length.trans first.length
  pixel := by
    intro px column py row
    rw [second.pixel px column py row, first.pixel px column py row]
    cases paint' px py with
    | none => rfl
    | some values => rfl

theorem congr (painted : Painted g paint before after)
    (same : ∀ px < g.width, ∀ py < g.height, paint px py = paint' px py) :
    Painted g paint' before after where
  length := painted.length
  pixel := by
    intro px column py row
    rw [painted.pixel px column py row, same px column py row]

end Painted

/-- The pixels tell every cell. -/
theorem eq_of_pixels {first second : List α} (size : first.length = g.size)
    (size' : second.length = g.size)
    (same : ∀ px < g.width, ∀ py < g.height, g.pixel first px py = g.pixel second px py) :
    first = second := by
  apply List.ext_getElem?
  intro i
  by_cases inside : i < g.size
  · obtain ⟨px, py, lane, column, row, within, rfl⟩ := Geometry.exists_pixel inside
    have cells := congrArg (·[lane]?) (same px column py row)
    simpa only [getElem?_pixel, if_pos within] using cells
  · rw [List.getElem?_eq_none (by omega), List.getElem?_eq_none (by omega)]

/-- The paint determines the picture. -/
theorem Painted.unique {paint : Nat → Nat → Option (List α)} {before after after' : List α}
    (size : before.length = g.size) (painted : Painted g paint before after)
    (painted' : Painted g paint before after') : after = after' := by
  apply eq_of_pixels (painted.length.trans size) (painted'.length.trans size)
  intro px column py row
  rw [painted.pixel px column py row, painted'.pixel px column py row]

/-! ### Loops -/

/-- The paint of a sequence of steps: that of the last one to paint the pixel. -/
def lastPaint (paintOf : ι → Nat → Nat → Option (List α)) (items : List ι) (px py : Nat) :
    Option (List α) :=
  items.reverse.findSome? fun item => paintOf item px py

/-- A loop whose steps each paint something paints all of it. -/
theorem painted_foldlM {σ : Type} {cellsOf : σ → List α} {Keeps : σ → Prop}
    {step : σ → ι → Except ε σ} {paintOf : ι → Nat → Nat → Option (List α)} {items : List ι}
    (paints : ∀ item ∈ items, ∀ state, Keeps state → ∃ next, step state item = .ok next ∧
      Keeps next ∧ Painted g (paintOf item) (cellsOf state) (cellsOf next))
    {start : σ} (initially : Keeps start) :
    ∃ final, items.foldlM step start = .ok final ∧ Keeps final ∧
      Painted g (lastPaint paintOf items) (cellsOf start) (cellsOf final) := by
  induction items generalizing start with
  | nil => exact ⟨start, rfl, initially, .refl _⟩
  | cons item items ih =>
      obtain ⟨next, stepped, keeps, first⟩ := paints item List.mem_cons_self start initially
      obtain ⟨final, ran, kept, rest⟩ := ih
        (fun other member => paints other (List.mem_cons_of_mem _ member)) keeps
      refine ⟨final, ?_, kept, ?_⟩
      · rw [List.foldlM_cons, stepped]
        exact ran
      · apply (first.trans rest).congr
        intro px _ py _
        rw [lastPaint, lastPaint, List.reverse_cons, List.findSome?_append, List.findSome?_singleton]

/-- A loop that gives up when a step does not return 0, with steps that all do, paints all of it. -/
theorem painted_rounds {loop : Nat → Nat → List α → Except ε (List α × Int)}
    {step : Nat → List α → Except ε (List α × Int)} {paintOf : Nat → Nat → Nat → Option (List α)}
    (finished : ∀ i cells, loop 0 i cells = .ok (cells, 0))
    (round : ∀ left i cells, loop (left + 1) i cells = (do
      let drawn ← step i cells
      if drawn.2 ≠ 0 then return (drawn.1, 1) else loop left (i + 1) drawn.1))
    {left first : Nat} {cells : List α} (size : cells.length = g.size)
    (steps : ∀ i, first ≤ i → i < first + left → ∀ cells : List α, cells.length = g.size →
      ∃ next, step i cells = .ok (next, 0) ∧ Painted g (paintOf i) cells next) :
    ∃ final, loop left first cells = .ok (final, 0) ∧
      Painted g (lastPaint paintOf (List.range' first left)) cells final := by
  induction left generalizing first cells with
  | zero => exact ⟨cells, finished first cells, .refl cells⟩
  | succ left ih =>
      obtain ⟨next, stepped, painted⟩ := steps first (Nat.le_refl _) (by omega) cells size
      obtain ⟨final, ran, rest⟩ := @ih (first + 1) next (painted.length.trans size)
        (fun i later within => steps i (by omega) (by omega))
      refine ⟨final, ?_, ?_⟩
      · rw [round, stepped]
        exact ran
      · apply (painted.trans rest).congr
        intro px _ py _
        rw [lastPaint, lastPaint, List.range'_succ, List.reverse_cons, List.findSome?_append,
          List.findSome?_singleton]

/-- The paint of steps that agree on a pixel. -/
theorem lastPaint_eq {paintOf : ι → Nat → Nat → Option (List α)} {items : List ι} {px py : Nat}
    {paint : Option (List α)}
    (agree : ∀ item ∈ items, paintOf item px py = none ∨ paintOf item px py = paint)
    (covered : paint ≠ none → ∃ item ∈ items, paintOf item px py = paint) :
    lastPaint paintOf items px py = paint := by
  unfold lastPaint
  cases found : items.reverse.findSome? fun item => paintOf item px py with
  | none =>
      rw [List.findSome?_eq_none_iff] at found
      by_contra other
      obtain ⟨item, member, here⟩ := covered (Ne.symm other)
      exact other ((found item (List.mem_reverse.mpr member)).symm.trans here)
  | some values =>
      obtain ⟨item, member, here⟩ := List.exists_of_findSome?_eq_some found
      rcases agree item (List.mem_reverse.mp member) with nothing | same
      · rw [nothing] at here
        cases here
      · exact here.symm.trans same

/-! ### Painting that does not look

Functions that write a picture without reading it paint the same over every picture; with enough paint
nothing of the picture before is left. -/

section Repainting

variable {σ : Type} {Keeps : σ → Prop} {cellsOf : σ → List α}

/-- The same paint over every picture, in a computation that carries the picture along. -/
def RepaintsIn (g : Geometry) (Keeps : σ → Prop) (cellsOf : σ → List α) (draw : σ → Except ε σ) :
    Prop :=
  ∃ paint, ∀ state, Keeps state → ∃ next, draw state = .ok next ∧ Keeps next ∧
    Painted g paint (cellsOf state) (cellsOf next)

theorem RepaintsIn.bind {first next : σ → Except ε σ} (one : RepaintsIn g Keeps cellsOf first)
    (two : RepaintsIn g Keeps cellsOf next) :
    RepaintsIn g Keeps cellsOf fun state => first state >>= next := by
  obtain ⟨paint, paints⟩ := one
  obtain ⟨later, paintsLater⟩ := two
  refine ⟨fun px py => (later px py).or (paint px py), ?_⟩
  intro state keeps
  obtain ⟨middle, drew, kept, painted⟩ := paints state keeps
  obtain ⟨drawn, drewLater, keptLater, paintedLater⟩ := paintsLater middle kept
  refine ⟨drawn, ?_, keptLater, painted.trans paintedLater⟩
  change (first state >>= next) = _
  rw [drew]
  exact drewLater

theorem RepaintsIn.foldlM {step : σ → ι → Except ε σ} {items : List ι}
    (steps : ∀ item ∈ items, RepaintsIn g Keeps cellsOf fun state => step state item) :
    RepaintsIn g Keeps cellsOf fun state => items.foldlM step state := by
  induction items with
  | nil => exact ⟨fun _ _ => none, fun state keeps => ⟨state, rfl, keeps, .refl _⟩⟩
  | cons item items inductionHypothesis =>
      have rest := inductionHypothesis fun other member => steps other (List.mem_cons_of_mem _ member)
      exact (steps item List.mem_cons_self).bind rest

/-- The same paint over every picture of the right size. -/
def Repaints (g : Geometry) (draw : List α → Except ε (List α)) : Prop :=
  RepaintsIn g (fun cells => cells.length = g.size) id draw

/-- The same picture out of every picture. -/
def Erases (g : Geometry) (draw : List α → Except ε (List α)) : Prop :=
  ∃ drawn : List α, drawn.length = g.size ∧
    ∀ cells : List α, cells.length = g.size → draw cells = .ok drawn

variable {draw first next : List α → Except ε (List α)}

/-- No picture of the right size makes the function fail, and it keeps the size. -/
theorem Repaints.succeeds (repaints : Repaints g draw) {cells : List α}
    (size : cells.length = g.size) : ∃ drawn, draw cells = .ok drawn ∧ drawn.length = g.size := by
  obtain ⟨paint, paints⟩ := repaints
  obtain ⟨drawn, drew, kept, -⟩ := paints cells size
  exact ⟨drawn, drew, kept⟩

/-- Paint on every pixel leaves nothing of the picture before. -/
theorem Erases.of_covers {paint : Nat → Nat → Option (List α)}
    (paints : ∀ cells : List α, cells.length = g.size →
      ∃ drawn, draw cells = .ok drawn ∧ Painted g paint cells drawn)
    (covers : ∀ px < g.width, ∀ py < g.height, (paint px py).isSome = true)
    {picture : List α} (size : picture.length = g.size) : Erases g draw := by
  obtain ⟨drawn, _, painted⟩ := paints picture size
  refine ⟨drawn, painted.length.trans size, ?_⟩
  intro cells sizeOther
  obtain ⟨other, drew, paintedOther⟩ := paints cells sizeOther
  have same : other = drawn := by
    apply eq_of_pixels (paintedOther.length.trans sizeOther) (painted.length.trans size)
    intro px column py row
    obtain ⟨values, covered⟩ := Option.isSome_iff_exists.mp (covers px column py row)
    rw [painted.pixel px column py row, paintedOther.pixel px column py row, covered]
    rfl
  rw [drew, same]

/-- What is painted before does not matter. -/
theorem Erases.after (repaints : Repaints g first) (erases : Erases g next) :
    Erases g fun cells => first cells >>= next := by
  obtain ⟨drawn, size, erased⟩ := erases
  refine ⟨drawn, size, ?_⟩
  intro cells sizeCells
  obtain ⟨middle, drew, sizeMiddle⟩ := repaints.succeeds sizeCells
  change (first cells >>= next) = _
  rw [drew]
  exact erased middle sizeMiddle

/-- What is painted afterwards finds the same picture. -/
theorem Erases.before (erases : Erases g first) (repaints : Repaints g next) :
    Erases g fun cells => first cells >>= next := by
  obtain ⟨middle, sizeMiddle, erased⟩ := erases
  obtain ⟨drawn, drew, size⟩ := repaints.succeeds sizeMiddle
  refine ⟨drawn, size, ?_⟩
  intro cells sizeCells
  change (first cells >>= next) = _
  rw [erased cells sizeCells]
  exact drew

end Repainting

end Raster
