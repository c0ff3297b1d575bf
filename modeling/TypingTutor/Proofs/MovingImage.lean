/-
Module: TypingTutor.Proofs.MovingImage
Layer: Proofs
Purpose: The positions of the moving image.  The way from start to end is walked pixel by pixel;
  after every update the image is at the covered distance, and at the end it stays.  The one
  exception is an image that is already at its end and has a negative speed: its first step takes it
  away for good.
Trusted boundary: none
Main exports: Route, OnTrack, ReachesTarget, GoesWell, reaches_target_iff, standStill_runs_away
-/
import TypingTutor.Core.MovingImage
import TypingTutor.Lib.Stopwatch
import Mathlib.Data.Nat.Dist

namespace TypingTutor

/-! ### One coordinate -/

/-- The coordinate `d` pixels from `start` on the way to `finish`. -/
def shifted (start finish : UInt16) (d : Nat) : UInt16 :=
  if start < finish then start + UInt16.ofNat d else start - UInt16.ofNat d

/-- The number of pixels between two coordinates. -/
def pixels (start finish : UInt16) : Nat := Nat.dist start.toNat finish.toNat

theorem pixels_of_lt {start finish : UInt16} (less : start < finish) :
    pixels start finish = finish.toNat - start.toNat :=
  Nat.dist_eq_sub_of_le (UInt16.le_iff_toNat_le.mp (UInt16.le_of_lt less))

theorem pixels_of_not_lt {start finish : UInt16} (notLess : ¬ start < finish) :
    pixels start finish = start.toNat - finish.toNat :=
  Nat.dist_eq_sub_of_le_right (UInt16.le_iff_toNat_le.mp (UInt16.not_lt.mp notLess))

theorem shifted_zero (start finish : UInt16) : shifted start finish 0 = start := by
  unfold shifted
  split_ifs <;> simp

/-- The way does not wrap. -/
theorem toNat_shifted {start finish : UInt16} {d : Nat} (le : d ≤ pixels start finish) :
    (shifted start finish d).toNat =
      if start < finish then start.toNat + d else start.toNat - d := by
  have bound := start.toNat_lt
  have bound' := finish.toNat_lt
  unfold shifted
  split_ifs with less
  · rw [pixels_of_lt less] at le
    rw [UInt16.toNat_add, UInt16.toNat_ofNat']
    omega
  · rw [pixels_of_not_lt less] at le
    rw [UInt16.toNat_sub, UInt16.toNat_ofNat']
    omega

theorem shifted_eq_finish_iff {start finish : UInt16} {d : Nat} (le : d ≤ pixels start finish) :
    shifted start finish d = finish ↔ d = pixels start finish := by
  rw [← UInt16.toNat_inj, toNat_shifted le]
  by_cases less : start < finish
  · have lessNat := UInt16.lt_iff_toNat_lt.mp less
    rw [if_pos less]
    rw [pixels_of_lt less] at le ⊢
    omega
  · have notLessNat := mt UInt16.lt_iff_toNat_lt.mpr less
    rw [if_neg less]
    rw [pixels_of_not_lt less] at le ⊢
    omega

/-- A clamped step covers the speed, or what is left of the way. -/
theorem clamped_shifted {start finish : UInt16} {d : Nat} (le : d ≤ pixels start finish) {speed : Int}
    (forward : 0 < speed) :
    clamped (decide (start < finish)) speed finish (shifted start finish d) =
      shifted start finish (min (d + speed.toNat) (pixels start finish)) := by
  have here := toNat_shifted le
  have there := toNat_shifted (Nat.min_le_right (d + speed.toNat) (pixels start finish))
  have bound := start.toNat_lt
  have bound' := finish.toNat_lt
  rw [← UInt16.toNat_inj, there]
  by_cases less : start < finish
  · have lessNat := UInt16.lt_iff_toNat_lt.mp less
    rw [if_pos less] at here ⊢
    rw [pixels_of_lt less] at le ⊢
    simp only [clamped, decide_eq_true less, if_true]
    split_ifs with past
    · omega
    · simp only [UInt16.ofInt, UInt16.toNat_ofNat']
      omega
  · have notLessNat := mt UInt16.lt_iff_toNat_lt.mpr less
    rw [if_neg less] at here ⊢
    rw [pixels_of_not_lt less] at le ⊢
    simp only [clamped, decide_eq_false less, Bool.false_eq_true, if_false]
    split_ifs with past
    · omega
    · simp only [UInt16.ofInt, UInt16.toNat_ofNat']
      omega

theorem onePixel_shifted (start finish : UInt16) (d : Nat) :
    onePixel (decide (start < finish)) (shifted start finish d) = shifted start finish (d + 1) := by
  have one : UInt16.ofNat (d + 1) = UInt16.ofNat d + 1 := UInt16.ofNat_add d 1
  unfold onePixel shifted
  by_cases less : start < finish
  · rw [if_pos less, if_pos less, decide_eq_true less, if_pos rfl, one, UInt16.add_assoc]
  · rw [if_neg less, if_neg less, decide_eq_false less, if_neg (by decide), one,
      UInt16.sub_eq_add_neg start, UInt16.sub_eq_add_neg start, UInt16.neg_add,
      UInt16.sub_eq_add_neg, UInt16.sub_eq_add_neg, UInt16.add_assoc]

/-- Between two coordinates, in either order. -/
def Between (start finish c : UInt16) : Prop :=
  (start ≤ c ∧ c ≤ finish) ∨ (finish ≤ c ∧ c ≤ start)

theorem between_start (start finish : UInt16) : Between start finish start := by
  unfold Between
  rw [UInt16.le_iff_toNat_le, UInt16.le_iff_toNat_le, UInt16.le_iff_toNat_le]
  omega

/-- A coordinate on its way is between its ends. -/
theorem shifted_between {start finish : UInt16} {d : Nat} (le : d ≤ pixels start finish) :
    Between start finish (shifted start finish d) := by
  have here := toNat_shifted le
  unfold Between
  rw [UInt16.le_iff_toNat_le, UInt16.le_iff_toNat_le, UInt16.le_iff_toNat_le,
    UInt16.le_iff_toNat_le]
  by_cases less : start < finish
  · have lessNat := UInt16.lt_iff_toNat_lt.mp less
    rw [if_pos less] at here
    rw [pixels_of_lt less] at le
    omega
  · have notLessNat := mt UInt16.lt_iff_toNat_lt.mpr less
    rw [if_neg less] at here
    rw [pixels_of_not_lt less] at le
    omega

/-! ### The way -/

/-- A request of the test: the points have a row or a column in common, the speed is not zero and
the frame rate is one of the timer. -/
structure Route extends MoveRequest where
  aligned : xi = xf ∨ yi = yf
  moves : speed ≠ 0
  slowest : 1 ≤ frRate
  fastest : frRate ≤ 60

namespace MoveRequest

variable (request : MoveRequest)

/-- The number of pixels from start to end. -/
def length : Nat :=
  if request.isHorizontal then pixels request.xi request.xf else pixels request.yi request.yf

/-- The point at a distance from the start. -/
def pointAt (d : Nat) : UInt16 × UInt16 :=
  if request.isHorizontal then (shifted request.xi request.xf d, request.yi)
  else (request.xi, shifted request.yi request.yf d)

/-- The number of pixels between two drawings, if so many are left. -/
def stride : Nat := if 0 ≤ request.speed.toInt then request.speed.toInt.toNat else 1

/-- The distance of the `k`-th drawing from the start; the first one, at the start, has number 0. -/
def reach : Nat → Nat
  | 0 => 0
  | k + 1 => reach k + min request.stride (request.length - reach k)

/-- The number of drawings after the first one in so many updates. -/
def draws (updates : Nat) : Nat :=
  if 0 ≤ request.speed.toInt then updates else updates / request.speed.toInt.natAbs

/-- A point of the segment from start to end. -/
def OnSegment (point : UInt16 × UInt16) : Prop :=
  Between request.xi request.xf point.1 ∧ Between request.yi request.yf point.2

end MoveRequest

section

variable (request : MoveRequest)

/-- The image is where the number of updates puts it, and has been drawn at every step of the way.
-/
structure OnTrack (state : MoveState) : Prop where
  position : (state.x, state.y) = request.pointAt (request.reach (request.draws state.updates))
  drawn : state.drawn =
    (List.range (request.draws state.updates + 1)).map (fun k => request.pointAt (request.reach k))

/-- What the test promises of every run: the image is on its track, all drawings are on the segment,
and once the end is drawn the position never changes. -/
def ReachesTarget (screen : Resolution) (img : ImageSize) : Prop :=
  ∀ messages : List MoveNotification,
    let state := videoTestMove screen img request messages
    OnTrack request state ∧ (∀ point ∈ state.drawn, request.OnSegment point) ∧
      ((request.xf, request.yf) ∈ state.drawn → ∀ later : List MoveNotification,
        let after := videoTestMove screen img request (messages ++ later)
        (after.x, after.y) = (request.xf, request.yf))

theorem reach_le_length (k : Nat) : request.reach k ≤ request.length := by
  induction k with
  | zero => exact Nat.zero_le _
  | succ k ih =>
      simp only [MoveRequest.reach]
      omega

theorem reach_mono {near far : Nat} (le : near ≤ far) : request.reach near ≤ request.reach far :=
  monotone_nat_of_le_succ (fun _ => Nat.le_add_right _ _) le

theorem draws_mono {near far : Nat} (le : near ≤ far) : request.draws near ≤ request.draws far := by
  unfold MoveRequest.draws
  split_ifs
  · exact le
  · exact Nat.div_le_div_right le

theorem pointAt_zero : request.pointAt 0 = (request.xi, request.yi) := by
  unfold MoveRequest.pointAt
  rw [shifted_zero, shifted_zero, ite_self]

theorem onSegment_pointAt {d : Nat} (le : d ≤ request.length) :
    request.OnSegment (request.pointAt d) := by
  unfold MoveRequest.length at le
  unfold MoveRequest.pointAt MoveRequest.OnSegment
  split_ifs at le ⊢
  · exact ⟨shifted_between le, between_start _ _⟩
  · exact ⟨between_start _ _, shifted_between le⟩

end

section

variable (route : Route)

/-- The coordinate that moves decides the direction. -/
theorem isPositiveDirection_eq :
    route.isPositiveDirection =
      if route.isHorizontal then decide (route.xi < route.xf) else decide (route.yi < route.yf) := by
  unfold MoveRequest.isPositiveDirection
  split_ifs with horizontal
  · rw [MoveRequest.isHorizontal, decide_eq_true_eq] at horizontal
    simp [horizontal]
  · rw [MoveRequest.isHorizontal, decide_eq_true_eq] at horizontal
    have column : route.xi = route.xf := route.aligned.resolve_right horizontal
    simp [column]

theorem pointAt_eq_target_iff {d : Nat} (le : d ≤ route.length) :
    route.pointAt d = (route.xf, route.yf) ↔ d = route.length := by
  unfold MoveRequest.length at le ⊢
  unfold MoveRequest.pointAt
  split_ifs at le ⊢ with horizontal
  · rw [MoveRequest.isHorizontal, decide_eq_true_eq] at horizontal
    rw [Prod.mk.injEq, shifted_eq_finish_iff le]
    exact and_iff_left horizontal
  · rw [MoveRequest.isHorizontal, decide_eq_true_eq] at horizontal
    rw [Prod.mk.injEq, shifted_eq_finish_iff le]
    exact and_iff_right (route.aligned.resolve_right horizontal)

/-- Moving the coordinate that moves. -/
theorem moveAlong_pointAt {change : UInt16 → UInt16 → UInt16} {state : MoveState} {d next : Nat}
    (position : (state.x, state.y) = route.pointAt d)
    (horizontal : route.isHorizontal = true →
      change route.xf (shifted route.xi route.xf d) = shifted route.xi route.xf next)
    (vertical : route.isHorizontal = false →
      change route.yf (shifted route.yi route.yf d) = shifted route.yi route.yf next) :
    ((moveAlong route.toMoveRequest change state).x, (moveAlong route.toMoveRequest change state).y) =
      route.pointAt next := by
  unfold MoveRequest.pointAt at position ⊢
  unfold moveAlong
  by_cases isHorizontal : route.isHorizontal = true
  · rw [if_pos isHorizontal, Prod.mk.injEq] at position
    rw [if_pos isHorizontal, if_pos isHorizontal, ← horizontal isHorizontal, ← position.1,
      ← position.2]
  · rw [if_neg isHorizontal, Prod.mk.injEq] at position
    rw [if_neg isHorizontal, if_neg isHorizontal,
      ← vertical (Bool.not_eq_true _ ▸ isHorizontal), ← position.1, ← position.2]

end

/-! ### One iteration -/

theorem vgClear_eq_true (screen : Resolution) : vgClear screen = true := by
  have inside : ∀ {size : UInt16} {i : Nat},
      i < size.toNat → decide (size ≤ UInt16.ofNat i) = false := by
    intro size i less
    have bound := size.toNat_lt
    rw [decide_eq_false_iff_not, UInt16.le_iff_toNat_le, UInt16.toNat_ofNat']
    omega
  simp only [vgClear, List.all_eq_true, List.mem_range]
  intro i column j row
  rw [vgDrawPixel, inside column, inside row]
  rfl

section

variable (screen : Resolution) (img : ImageSize)

/-- A redraw records the position and changes nothing else of the movement; afterwards the image is
not at the end, unless the loop is over. -/
theorem redraw_spec (request : MoveRequest) (state : MoveState) :
    ∃ complete returned,
      redraw screen img request state =
        { state with
          drawn := state.drawn ++ [(state.x, state.y)]
          moveComplete := complete
          returned := returned } ∧
      (returned = false → complete = false → (state.x, state.y) ≠ (request.xf, request.yf)) := by
  unfold redraw
  rw [if_pos (vgClear_eq_true screen)]
  by_cases visible : vgDrawImg screen state.x state.y img = true
  · rw [if_pos visible]
    by_cases arrived : state.x = request.xf ∧ state.y = request.yf
    · rw [if_pos arrived]
      exact ⟨true, state.returned, rfl, by simp⟩
    · rw [if_neg arrived]
      refine ⟨state.moveComplete, state.returned, rfl, ?_⟩
      intro _ _ same
      exact arrived (Prod.mk.inj same)
  · rw [if_neg visible]
    exact ⟨state.moveComplete, true, rfl, by simp⟩

/-- A step changes only the position. -/
theorem moveAlong_rest (request : MoveRequest) (change : UInt16 → UInt16 → UInt16)
    (state : MoveState) :
    (moveAlong request change state).drawn = state.drawn ∧
      (moveAlong request change state).updates = state.updates ∧
      (moveAlong request change state).frames = state.frames := by
  unfold moveAlong
  split_ifs
  all_goals exact ⟨rfl, rfl, rfl⟩

theorem update_updates (request : MoveRequest) (state : MoveState) :
    (update screen img request state).updates = state.updates + 1 := by
  have redrawn : ∀ moved, (redraw screen img request moved).updates = moved.updates := by
    intro moved
    obtain ⟨complete, returned, redrawn, _⟩ := redraw_spec screen img request moved
    rw [redrawn]
  unfold update
  dsimp only
  split_ifs
  · rw [redrawn, (moveAlong_rest request _ _).2.1]
  · rw [redrawn, (moveAlong_rest request _ _).2.1]
  · rfl

/-- The movement of a state, without the globals of the interrupt handlers. -/
def withGlobals (state : MoveState) (data : UInt8) (counter : Nat) : MoveState :=
  { state with data := data, counter := counter }

/-- An iteration either leaves the movement as it is, or is an update of an unfinished movement. -/
theorem iterate_cases (request : MoveRequest) (state : MoveState) (message : MoveNotification) :
    (∃ data counter, iterate screen img request state message = withGlobals state data counter) ∨
      (state.returned = false ∧ state.moveComplete = false ∧ ∃ data counter,
        iterate screen img request state message =
          update screen img request (withGlobals state data counter)) := by
  have timer : ∀ data, state.returned = false →
      (∃ data' counter, timerPart screen img request { state with data := data } =
        withGlobals state data' counter) ∨
      (state.returned = false ∧ state.moveComplete = false ∧ ∃ data' counter,
        timerPart screen img request { state with data := data } =
          update screen img request (withGlobals state data' counter)) := by
    intro data running
    unfold timerPart
    by_cases complete : state.moveComplete = true
    · rw [if_pos complete]
      exact .inl ⟨data, _, rfl⟩
    · rw [if_neg complete]
      by_cases due : request.interval.toNat ≤ state.counter + 1
      · rw [if_pos due]
        exact .inr ⟨running, Bool.not_eq_true _ ▸ complete, data, _, rfl⟩
      · rw [if_neg due]
        exact .inl ⟨data, _, rfl⟩
  unfold iterate
  by_cases ended : (state.returned || state.data == 0x81) = true
  · rw [if_pos ended]
    exact .inl ⟨state.data, state.counter, rfl⟩
  · rw [if_neg ended]
    have running : state.returned = false := by
      rw [Bool.or_eq_true, not_or] at ended
      exact Bool.not_eq_true _ ▸ ended.1
    cases message.keyboard with
    | none =>
        dsimp only
        split_ifs
        · exact timer state.data running
        · exact .inl ⟨state.data, state.counter, rfl⟩
    | some ports =>
        dsimp only
        split_ifs
        · exact .inl ⟨kbcIh ports state.data, state.counter, rfl⟩
        · exact timer (kbcIh ports state.data) running
        · exact .inl ⟨kbcIh ports state.data, state.counter, rfl⟩

/-! ### The movement -/

variable (route : Route)

/-- The state of a movement that goes well: on its track, the frames counted, and still short of the
end when it is slow and not over. -/
structure Moving (state : MoveState) : Prop where
  onTrack : OnTrack route.toMoveRequest state
  frames : route.speed.toInt < 0 → state.frames = state.updates % route.speed.toInt.natAbs
  unfinished : route.speed.toInt < 0 → state.returned = false → state.moveComplete = false →
    route.draws state.updates < route.length

theorem Moving.withGlobals {route : Route} {state : MoveState} (moving : Moving route state)
    (data : UInt8) (counter : Nat) : Moving route (withGlobals state data counter) where
  onTrack := ⟨moving.onTrack.position, moving.onTrack.drawn⟩
  frames := moving.frames
  unfinished := moving.unfinished

/-- Drawing the next point of the track. -/
theorem onTrack_redraw {state moved : MoveState} (onTrack : OnTrack route.toMoveRequest state)
    (position : (moved.x, moved.y) = route.pointAt (route.reach (route.draws state.updates + 1)))
    (drawn : moved.drawn = state.drawn)
    (next : route.draws moved.updates = route.draws state.updates + 1) :
    OnTrack route.toMoveRequest (redraw screen img route.toMoveRequest moved) := by
  obtain ⟨complete, returned, redrawn, _⟩ := redraw_spec screen img route.toMoveRequest moved
  rw [redrawn]
  constructor
  · change (moved.x, moved.y) = _
    rw [position, next]
  · change moved.drawn ++ [(moved.x, moved.y)] = _
    rw [drawn, onTrack.drawn, position]
    change _ = (List.range (route.draws moved.updates + 1)).map _
    rw [next, List.range_succ (n := _ + 1), List.map_append]
    rfl

/-- An update with a positive speed. -/
theorem moving_update_forward (forward : 0 < route.speed.toInt) {state : MoveState}
    (moving : Moving route state) :
    Moving route (update screen img route.toMoveRequest state) := by
  have nonneg : 0 ≤ route.speed.toInt := forward.le
  have covers : ∀ k, route.reach (k + 1) =
      min (route.reach k + route.speed.toInt.toNat) route.length := by
    intro k
    have le := reach_le_length route.toMoveRequest k
    simp only [MoveRequest.reach, MoveRequest.stride, if_pos nonneg]
    omega
  have here := moving.onTrack.position
  have le := reach_le_length route.toMoveRequest (route.draws state.updates)
  unfold update
  rw [if_pos nonneg]
  constructor
  · apply onTrack_redraw screen img route moving.onTrack
    · rw [covers]
      refine @moveAlong_pointAt route _ { state with counter := 0, updates := state.updates + 1 } _ _
        here ?_ ?_
      · intro horizontal
        rw [MoveRequest.length, if_pos horizontal] at le ⊢
        rw [isPositiveDirection_eq, if_pos horizontal]
        exact clamped_shifted le forward
      · intro vertical
        have notHorizontal : ¬ route.isHorizontal = true := by simp [vertical]
        rw [MoveRequest.length, if_neg notHorizontal] at le ⊢
        rw [isPositiveDirection_eq, if_neg notHorizontal]
        exact clamped_shifted le forward
    · exact (moveAlong_rest _ _ _).1
    · rw [(moveAlong_rest _ _ _).2.1, MoveRequest.draws, MoveRequest.draws, if_pos nonneg,
        if_pos nonneg]
  · intro backward
    omega
  · intro backward
    omega

section Slow

variable (backward : route.speed.toInt < 0)

include backward

/-- A slow image moves by one pixel. -/
theorem reach_slow {k : Nat} (le : k ≤ route.length) : route.reach k = k := by
  have negative : ¬ 0 ≤ route.speed.toInt := by omega
  induction k with
  | zero => rfl
  | succ k ih =>
      rw [MoveRequest.reach, ih (Nat.le_of_succ_le le), MoveRequest.stride, if_neg negative]
      omega

theorem draws_slow (updates : Nat) : route.draws updates = updates / route.speed.toInt.natAbs := by
  have negative : ¬ 0 ≤ route.speed.toInt := by omega
  rw [MoveRequest.draws, if_neg negative]

/-- The update at the end of a period draws the next pixel. -/
theorem moving_update_draws {state : MoveState} (moving : Moving route state)
    (short : route.draws state.updates < route.length)
    (full : state.frames + 1 = route.speed.toInt.natAbs) :
    Moving route (update screen img route.toMoveRequest state) := by
  have negative : ¬ 0 ≤ route.speed.toInt := by omega
  have arithmetic := Stopwatch.succ_of_full (moving.frames backward ▸ full)
  have nextDraw : route.draws (state.updates + 1) = route.draws state.updates + 1 := by
    rw [draws_slow route backward, draws_slow route backward, arithmetic.1]
  have reached := reach_slow route backward short
  unfold update
  rw [if_neg negative, if_pos full]
  set moved := moveAlong route.toMoveRequest (fun _ => onePixel route.isPositiveDirection)
    { state with counter := 0, updates := state.updates + 1, frames := 0 } with movedEq
  have fields : moved.drawn = state.drawn ∧ moved.updates = state.updates + 1 ∧
      moved.frames = 0 := moveAlong_rest _ _ _
  have position : (moved.x, moved.y) =
      route.pointAt (route.reach (route.draws state.updates + 1)) := by
    rw [reached]
    have here := moving.onTrack.position
    rw [reach_slow route backward short.le] at here
    refine @moveAlong_pointAt route _
      { state with counter := 0, updates := state.updates + 1, frames := 0 } _ _ here ?_ ?_
    · intro horizontal
      rw [isPositiveDirection_eq, if_pos horizontal]
      exact onePixel_shifted _ _ _
    · intro vertical
      rw [isPositiveDirection_eq, if_neg (by simp [vertical])]
      exact onePixel_shifted _ _ _
  obtain ⟨complete, returned, redrawn, notThere⟩ :=
    redraw_spec screen img route.toMoveRequest moved
  constructor
  · apply onTrack_redraw screen img route moving.onTrack position fields.1
    rw [fields.2.1, nextDraw]
  · intro _
    rw [redrawn]
    change moved.frames = moved.updates % _
    rw [fields.2.1, fields.2.2, arithmetic.2]
  · rw [redrawn]
    intro _ stillRunning stillOpen
    have away := notThere stillRunning stillOpen
    change route.draws moved.updates < _
    rw [fields.2.1, nextDraw]
    rw [position, reached, Ne, pointAt_eq_target_iff route short] at away
    omega

/-- The updates before only count. -/
theorem moving_update_waits {state : MoveState} (moving : Moving route state)
    (short : route.draws state.updates < route.length)
    (notFull : state.frames + 1 ≠ route.speed.toInt.natAbs) :
    Moving route (update screen img route.toMoveRequest state) := by
  have negative : ¬ 0 ≤ route.speed.toInt := by omega
  have positive : 0 < route.speed.toInt.natAbs := by omega
  have counted := moving.frames backward
  have arithmetic := Stopwatch.succ_of_not_full positive (counted ▸ notFull)
  have sameDraw : route.draws (state.updates + 1) = route.draws state.updates := by
    rw [draws_slow route backward, draws_slow route backward, arithmetic.1]
  unfold update
  rw [if_neg negative, if_neg notFull]
  constructor
  · constructor
    · change (state.x, state.y) = route.pointAt (route.reach (route.draws (state.updates + 1)))
      rw [sameDraw, moving.onTrack.position]
    · change state.drawn = (List.range (route.draws (state.updates + 1) + 1)).map _
      rw [sameDraw, moving.onTrack.drawn]
  · intro _
    change state.frames + 1 = (state.updates + 1) % _
    rw [arithmetic.2, counted]
  · intro _ _ _
    change route.draws (state.updates + 1) < _
    rw [sameDraw]
    exact short

/-- An update with a negative speed, of a movement that is not over. -/
theorem moving_update_backward {state : MoveState} (moving : Moving route state)
    (running : state.returned = false) (open' : state.moveComplete = false) :
    Moving route (update screen img route.toMoveRequest state) := by
  have short := moving.unfinished backward running open'
  by_cases full : state.frames + 1 = route.speed.toInt.natAbs
  · exact moving_update_draws screen img route backward moving short full
  · exact moving_update_waits screen img route backward moving short full

end Slow

theorem moving_iterate {state : MoveState} (moving : Moving route state)
    (message : MoveNotification) :
    Moving route (iterate screen img route.toMoveRequest state message) := by
  have nonzero : route.speed.toInt ≠ 0 := by
    intro zero
    exact route.moves (Int16.toInt_inj.mp zero)
  obtain ⟨data, counter, stays⟩ | ⟨running, open', data, counter, updated⟩ :=
    iterate_cases screen img route.toMoveRequest state message
  · rw [stays]
    exact moving.withGlobals data counter
  · rw [updated]
    by_cases forward : 0 < route.speed.toInt
    · exact moving_update_forward screen img route forward (moving.withGlobals data counter)
    · exact moving_update_backward screen img route (by omega) (moving.withGlobals data counter)
        running open'

/-- The requests that do not start at their end with a negative speed, or show nothing at all. -/
def GoesWell : Prop :=
  (route.xi, route.yi) ≠ (route.xf, route.yf) ∨ 0 < route.speed.toInt ∨
    vgDrawImg screen route.xi route.yi img = false

theorem moving_beforeLoop (well : GoesWell screen img route) :
    Moving route (beforeLoop screen img route.toMoveRequest) := by
  have drawsZero : route.draws 0 = 0 := by
    unfold MoveRequest.draws
    split_ifs
    · rfl
    · exact Nat.zero_div _
  have reachZero : route.reach 0 = 0 := rfl
  constructor
  · constructor
    · change (route.xi, route.yi) = route.pointAt (route.reach (route.draws 0))
      rw [drawsZero, reachZero, pointAt_zero]
    · change [(route.xi, route.yi)] = (List.range (route.draws 0 + 1)).map _
      rw [drawsZero, List.range_one, List.map_singleton, reachZero, pointAt_zero]
  · intro _
    exact (Nat.zero_mod _).symm
  · intro backward running _
    change route.draws 0 < _
    rw [drawsZero]
    have visible : vgDrawImg screen route.xi route.yi img = true := by
      simpa [beforeLoop] using running
    have apart : (route.xi, route.yi) ≠ (route.xf, route.yf) := by
      rcases well with apart | forward | invisible
      · exact apart
      · omega
      · rw [visible] at invisible
        cases invisible
    rw [← pointAt_zero, Ne, pointAt_eq_target_iff route (Nat.zero_le _)] at apart
    omega

theorem moving_videoTestMove (well : GoesWell screen img route) (messages : List MoveNotification) :
    Moving route (videoTestMove screen img route.toMoveRequest messages) := by
  unfold videoTestMove
  have start := moving_beforeLoop screen img route well
  generalize beforeLoop screen img route.toMoveRequest = state at start ⊢
  induction messages generalizing state with
  | nil => exact start
  | cons message messages ih =>
      exact ih _ (moving_iterate screen img route start message)

/-- The number of updates only grows. -/
theorem updates_le_iterate (state : MoveState) (message : MoveNotification) :
    state.updates ≤ (iterate screen img route.toMoveRequest state message).updates := by
  obtain ⟨data, counter, stays⟩ | ⟨_, _, data, counter, updated⟩ :=
    iterate_cases screen img route.toMoveRequest state message
  · rw [stays]
    exact le_rfl
  · rw [updated, update_updates]
    exact Nat.le_succ _

theorem updates_le_videoTestMove (messages later : List MoveNotification) :
    (videoTestMove screen img route.toMoveRequest messages).updates ≤
      (videoTestMove screen img route.toMoveRequest (messages ++ later)).updates := by
  unfold videoTestMove
  rw [List.foldl_append]
  generalize messages.foldl (iterate screen img route.toMoveRequest) _ = state
  induction later generalizing state with
  | nil => exact le_rfl
  | cons message later ih =>
      exact (updates_le_iterate screen img route state message).trans (ih _)

/-- A request that goes well is carried out. -/
theorem reachesTarget_of_goesWell (well : GoesWell screen img route) :
    ReachesTarget route.toMoveRequest screen img := by
  intro messages
  have track := (moving_videoTestMove screen img route well messages).onTrack
  refine ⟨track, ?_, ?_⟩
  · intro point member
    rw [track.drawn, List.mem_map] at member
    obtain ⟨k, _, rfl⟩ := member
    exact onSegment_pointAt _ (reach_le_length _ k)
  · intro arrived later
    have after := (moving_videoTestMove screen img route well (messages ++ later)).onTrack
    have grown := updates_le_videoTestMove screen img route messages later
    rw [track.drawn, List.mem_map] at arrived
    obtain ⟨k, member, there⟩ := arrived
    rw [pointAt_eq_target_iff route (reach_le_length _ k)] at there
    have further := reach_mono route.toMoveRequest
        ((Nat.lt_succ_iff.mp (List.mem_range.mp member)).trans
      (draws_mono route.toMoveRequest grown))
    have le := reach_le_length route.toMoveRequest (route.draws
      (videoTestMove screen img route.toMoveRequest (messages ++ later)).updates)
    dsimp only
    rw [after.position, pointAt_eq_target_iff route le]
    omega

/-! ### The runaway -/

/-- A message with a timer interrupt. -/
def timerTick : MoveNotification := { keyboard := none, timer := true }

/-- Waiting at the start: so many interrupts since the last update, and so many updates. -/
def waiting (counter updates : Nat) : MoveState :=
  { beforeLoop screen img route.toMoveRequest with
    counter := counter, frames := updates, updates := updates }

/-- A timer interrupt while waiting. -/
theorem iterate_waiting (visible : vgDrawImg screen route.xi route.yi img = true)
    (counter updates : Nat) :
    iterate screen img route.toMoveRequest (waiting screen img route counter updates) timerTick =
      if route.interval.toNat ≤ counter + 1 then
        update screen img route.toMoveRequest (waiting screen img route (counter + 1) updates)
      else waiting screen img route (counter + 1) updates := by
  have running : (waiting screen img route counter updates).returned = false := by
    simp [waiting, beforeLoop, visible]
  have noEscape : ((waiting screen img route counter updates).data == 0x81) = false := rfl
  unfold iterate
  rw [running, noEscape, Bool.false_or, if_neg Bool.false_ne_true]
  rfl

theorem interval_pos : 0 < route.interval.toNat := by
  have slowest := UInt8.le_iff_toNat_le.mp route.slowest
  have fastest := UInt8.le_iff_toNat_le.mp route.fastest
  unfold MoveRequest.interval
  rw [UInt8.toNat_div]
  exact Nat.div_pos fastest slowest

/-- The interrupts up to an update. -/
theorem waiting_ticks (visible : vgDrawImg screen route.xi route.yi img = true) (updates : Nat)
    {counter : Nat} (early : counter < route.interval.toNat) :
    (List.replicate counter timerTick).foldl (iterate screen img route.toMoveRequest)
      (waiting screen img route 0 updates) = waiting screen img route counter updates := by
  induction counter with
  | zero => rfl
  | succ counter ih =>
      rw [List.replicate_succ', List.foldl_append, ih (by omega)]
      change iterate _ _ _ _ timerTick = _
      rw [iterate_waiting screen img route visible, if_neg (by omega)]

theorem waiting_update (visible : vgDrawImg screen route.xi route.yi img = true) (updates : Nat) :
    (List.replicate route.interval.toNat timerTick).foldl (iterate screen img route.toMoveRequest)
      (waiting screen img route 0 updates) =
        update screen img route.toMoveRequest
          (waiting screen img route route.interval.toNat updates) := by
  have positive := interval_pos route
  obtain ⟨last, interval⟩ : ∃ last, route.interval.toNat = last + 1 :=
    Nat.exists_eq_succ_of_ne_zero positive.ne'
  rw [interval, List.replicate_succ', List.foldl_append,
    waiting_ticks screen img route visible updates (by omega)]
  change iterate _ _ _ _ timerTick = _
  rw [iterate_waiting screen img route visible, if_pos interval.le]

/-- The updates up to the first step. -/
theorem waiting_updates (visible : vgDrawImg screen route.xi route.yi img = true)
    (backward : route.speed.toInt < 0) {updates : Nat}
    (early : updates < route.speed.toInt.natAbs) :
    (List.replicate (updates * route.interval.toNat) timerTick).foldl
      (iterate screen img route.toMoveRequest) (waiting screen img route 0 0) =
        waiting screen img route 0 updates := by
  induction updates with
  | zero =>
      rw [Nat.zero_mul]
      rfl
  | succ updates ih =>
      rw [Nat.succ_mul, List.replicate_add, List.foldl_append, ih (by omega),
        waiting_update screen img route visible]
      have negative : ¬ 0 ≤ route.speed.toInt := by omega
      unfold update
      rw [if_neg negative, if_neg]
      · rfl
      · change ¬ updates + 1 = _
        omega

theorem onePixel_ne (positive : Bool) (c : UInt16) : onePixel positive c ≠ c := by
  intro same
  have values := congrArg UInt16.toNat same
  have bound := c.toNat_lt
  cases positive with
  | true =>
      change (c + 1).toNat = c.toNat at values
      rw [UInt16.toNat_add, UInt16.toNat_one] at values
      omega
  | false =>
      change (c - 1).toNat = c.toNat at values
      rw [UInt16.toNat_sub, UInt16.toNat_one] at values
      omega

/-- The position after an update that takes a slow step. -/
theorem update_position_full (request : MoveRequest) (negative : ¬ 0 ≤ request.speed.toInt)
    {state : MoveState} (full : state.frames + 1 = request.speed.toInt.natAbs) :
    ((update screen img request state).x, (update screen img request state).y) =
      ((moveAlong request (fun _ => onePixel request.isPositiveDirection) state).x,
        (moveAlong request (fun _ => onePixel request.isPositiveDirection) state).y) := by
  have redrawn : ∀ moved, (redraw screen img request moved).x = moved.x ∧
      (redraw screen img request moved).y = moved.y := by
    intro moved
    obtain ⟨complete, returned, redrawn, _⟩ := redraw_spec screen img request moved
    rw [redrawn]
    exact ⟨rfl, rfl⟩
  unfold update
  dsimp only
  rw [if_neg negative, if_pos full, (redrawn _).1, (redrawn _).2]
  unfold moveAlong
  split_ifs
  all_goals rfl

/-- An image at its end with a negative speed is taken away from it. -/
theorem not_reachesTarget (same : (route.xi, route.yi) = (route.xf, route.yf))
    (backward : route.speed.toInt < 0) (visible : vgDrawImg screen route.xi route.yi img = true) :
    ¬ ReachesTarget route.toMoveRequest screen img := by
  intro reaches
  have negative : ¬ 0 ≤ route.speed.toInt := by omega
  obtain ⟨last, steps⟩ : ∃ last, route.speed.toInt.natAbs = last + 1 :=
    Nat.exists_eq_succ_of_ne_zero (by omega)
  obtain ⟨sameX, sameY⟩ := Prod.mk.inj same
  have drawnFirst : (route.xf, route.yf) ∈ (videoTestMove screen img route.toMoveRequest []).drawn := by
    rw [← same]
    exact List.mem_singleton_self _
  have stays := (reaches []).2.2 drawnFirst
    (List.replicate ((last + 1) * route.interval.toNat) timerTick)
  have start : beforeLoop screen img route.toMoveRequest = waiting screen img route 0 0 := rfl
  dsimp only at stays
  rw [List.nil_append, videoTestMove, start, Nat.succ_mul, List.replicate_add, List.foldl_append,
    waiting_updates screen img route visible backward (by omega),
    waiting_update screen img route visible] at stays
  rw [update_position_full screen img route.toMoveRequest negative steps.symm] at stays
  have horizontal : route.isHorizontal = true := decide_eq_true sameY
  unfold moveAlong at stays
  rw [if_pos horizontal, ← sameX] at stays
  exact onePixel_ne _ _ (Prod.mk.inj stays).1

/-- A request of the test is carried out exactly when it is not of that kind. -/
theorem reaches_target_iff (screen : Resolution) (img : ImageSize) (route : Route) :
    ReachesTarget route.toMoveRequest screen img ↔ GoesWell screen img route := by
  constructor
  · intro reaches
    unfold GoesWell
    by_contra ill
    push Not at ill
    have nonzero : route.speed.toInt ≠ 0 := by
      intro zero
      exact route.moves (Int16.toInt_inj.mp zero)
    have visible : vgDrawImg screen route.xi route.yi img = true := Bool.not_eq_false _ ▸ ill.2.2
    exact not_reachesTarget screen img route ill.1 (by omega) visible reaches
  · exact reachesTarget_of_goesWell screen img route

end

/-- Sixty frames a second, one at every interrupt. -/
theorem sixtyFrames : (60 : UInt8) ≠ 0 := by decide

/-- From a point to itself, one pixel at every interrupt. -/
def standStill : Route where
  xi := 100
  yi := 100
  xf := 100
  yf := 100
  speed := -1
  frRate := 60
  paced := sixtyFrames
  aligned := .inl rfl
  moves := by decide
  slowest := by decide
  fastest := by decide

theorem standStill_runs_away :
    ¬ ∀ (screen : Resolution) (img : ImageSize) (route : Route),
      ReachesTarget route.toMoveRequest screen img := by
  intro reaches
  exact not_reachesTarget { hRes := 1024, vRes := 768 } { width := 1, height := 1 } standStill rfl
    (by decide) (by decide) (reaches _ _ _)

end TypingTutor
