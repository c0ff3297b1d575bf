/-
Module: TypingTutor.Proofs.Countdown
Layer: Proofs
Purpose: The clock of a game.  The tick counter is free-running, so the seconds of a game are counted
  from whatever phase the counter has when the game starts; the last tick is determined by that phase.
  Keys and packets do not disturb the clock.  The exception is an ESC that is still remembered when the
  game starts: the next key that does not overwrite it leaves the game.
Trusted boundary: none
Main exports: lastTick, CountsDown, Counting, perform_counting, countdown_iff, stale_escape_ends_game
-/
import TypingTutor.Proofs.EscapeKey
import TypingTutor.Proofs.HandlerCalls
import TypingTutor.Proofs.WordCursor

namespace TypingTutor

open Runs

/-! ### What a player sees of the clock -/

/-- The timer interrupt that ends a game of `seconds`, when the counter stands at `counter` at its
start. -/
def lastTick (seconds counter : Int) : Int := 60 * (counter / 60 + seconds) - counter + 1

/-- The phase of the counter costs less than a second. -/
theorem lastTick_bounds (seconds counter : Int) :
    60 * (seconds - 1) + 2 ≤ lastTick seconds counter ∧
      lastTick seconds counter ≤ 60 * seconds + 1 := by
  unfold lastTick
  constructor
  · omega
  · omega

/-- The clock after `elapsed` timer interrupts of the game that began in `start`. -/
structure ShowsTime (start : State) (elapsed : Nat) (s : State) : Prop where
  playing : s.currentState = .game
  remaining : s.timer = start.timer - ((start.counter + elapsed) / 60 - start.counter / 60)
  nonnegative : 0 ≤ s.timer
  nextTick : ∀ env, ∃ next, updateTimer env s = .ok next ∧
    next.currentState =
      if (elapsed + 1 : Int) = lastTick start.timer start.counter then .statistics else .game

/-- The clock is right after every part of the calls. -/
def CountsDown (loaded : LoadedSprites) (start : State) (calls : List HandlerCall) : Prop :=
  ∀ part s, part <+: calls → part.foldlM (perform loaded) start = .ok s →
    ShowsTime start (ticks part) s

/-- `setGameState(GAME)` has just been called; the mouse packet that asked for it is dropped next. -/
def StartsGame (before start : State) : Prop :=
  ∃ env caller entered mouse, setGameState env caller .game before = .ok entered ∧
    start = { entered with mouse := mouse }

/-- `update_keyboard` does not process the make code of ESC. -/
def NoEscape (s : State) : HandlerCall → Prop
  | .keyboard ports _ => kbcIh ports s.data ≠ keyEsc
  | _ => True

/-- The make code of a character, of ENTER or of BACKSPACE. -/
def overwritesKey (code : UInt8) : Bool :=
  !bit 7 code && ((charMap code).isSome || code == keyEnter || code == keyDelete)

/-- A key that meets a remembered ESC overwrites it. -/
def Undisturbed (s : State) : HandlerCall → Prop
  | .keyboard ports _ => s.currentKey = .esc → overwritesKey (kbcIh ports s.data) = true
  | _ => True

/-! ### Remembering another key -/

/-- A key other than ESC leaves ESC remembered only if it does not overwrite. -/
theorem rememberedKey_awake {code : UInt8} {key : Key} (other : code ≠ keyEsc)
    (overwritten : key = .esc → overwritesKey code = true) : rememberedKey code key ≠ .esc := by
  by_cases awake : key = .esc
  · have overwrites := overwritten awake
    unfold overwritesKey at overwrites
    rw [Bool.and_eq_true, Bool.not_eq_true'] at overwrites
    obtain ⟨pressed, known⟩ := overwrites
    unfold rememberedKey
    rw [if_neg (by rw [pressed]; simp)]
    cases typed : charMap code with
    | some c => exact keyMap_of_charMap typed
    | none =>
        rw [typed, Option.isSome_none, Bool.false_or, Bool.or_eq_true, beq_iff_eq, beq_iff_eq] at known
        have plain : keyEnter ≠ keySpace ∧ keyDelete ≠ keySpace ∧ keyDelete ≠ keyEnter := by decide
        rcases known with rfl | rfl
        · simp [plain]
        · simp [plain]
  · exact mt (rememberedKey_eq_esc awake).mp other

theorem rememberedKey_kept {code : UInt8} (other : code ≠ keyEsc)
    (kept : overwritesKey code = false) (key : Key) : rememberedKey code key = key := by
  unfold overwritesKey at kept
  unfold rememberedKey
  split
  · rfl
  · rename_i pressed
    rw [Bool.not_eq_true] at pressed
    rw [pressed, Bool.not_false, Bool.true_and, Bool.or_eq_false_iff, Bool.or_eq_false_iff,
      Option.isSome_eq_false_iff, Option.isNone_iff_eq_none, beq_eq_false_iff_ne,
      beq_eq_false_iff_ne] at kept
    obtain ⟨⟨unknown, noEnter⟩, noDelete⟩ := kept
    rw [unknown]
    simp only [if_neg noEnter, if_neg noDelete, ite_self]

/-! ### The objects of the game -/

/-- The game in memory lasts `seconds`; while ESC is remembered its cursors are inside the array. -/
def Lasts (seconds : Int) (s : State) : Prop :=
  ∃ testToken statsToken game, s.core.Holds testToken statsToken game ∧ game.stats.time = seconds ∧
    (s.currentKey = .esc → WithinArray game.test)

section Handlers

variable {loaded : LoadedSprites} {seconds : Int} {s next : State}

theorem lasts_of_applies {core : Core} {testToken statsToken : Nat} {game : Game} {change : Edit}
    (time : game.stats.time = seconds)
    (within : next.currentKey = .esc → WithinArray game.test ∧ change.Stays)
    (applied : Applies core testToken statsToken (edit loaded change game) (.ok next)) :
    Lasts seconds next := by
  rcases applies_iff.mp applied with ⟨edited, same, done, returned, core⟩ | ⟨fault, -, impossible⟩
  · cases returned
    refine ⟨testToken, statsToken, edited, ?_, (edit_later done).time.trans time, ?_⟩
    · rw [core]
      exact ⟨rfl, rfl⟩
    · intro escaped
      obtain ⟨inside, stays⟩ := within escaped
      obtain ⟨result, returned, kept⟩ := edit_within loaded change inside
      rw [done] at returned
      cases returned
      exact kept (.inl stays)
  · cases impossible

theorem lasts_of_core (core : next.core = s.core) (key : next.currentKey = s.currentKey)
    (lasts : Lasts seconds s) : Lasts seconds next := by
  unfold Lasts
  rw [core, key]
  exact lasts

/-- Inside the array an edit does not fault. -/
theorem ok_of_applies {core : Core} {testToken statsToken : Nat} {game : Game} {change : Edit}
    {outcome : Except Fault State} (within : WithinArray game.test)
    (applied : Applies core testToken statsToken (edit loaded change game) outcome) :
    ∃ next, outcome = .ok next := by
  obtain ⟨edited, done, -⟩ := edit_within loaded change within
  rcases applies_iff.mp applied with ⟨_, next, _, returned, _⟩ | ⟨fault, failed, -⟩
  · exact ⟨next, returned⟩
  · rw [done] at failed
    cases failed

theorem dispatchScancode_lasts {env : Env} (lasts : Lasts seconds s) (awake : next.currentKey ≠ .esc)
    (done : dispatchScancode loaded env s = .ok next) : Lasts seconds next := by
  obtain ⟨testToken, statsToken, game, holds, time, -⟩ := lasts
  have escaped : ∀ {change : Edit},
      next.currentKey = .esc → WithinArray game.test ∧ change.Stays := by
    intro change remembered
    exact absurd remembered awake
  rcases dispatchScancode_cases loaded env s with
    ⟨key, dispatched⟩ | ⟨c, playing, dispatched⟩ | ⟨-, -, dispatched⟩ | ⟨-, dispatched⟩
  · rw [dispatched] at done
    cases done
    exact ⟨testToken, statsToken, game, holds, time, fun remembered => absurd remembered awake⟩
  · have applied := @processKey_applies loaded s _ _ _ c (keyMap s.data) playing holds
    rw [← dispatched, done] at applied
    exact lasts_of_applies time escaped applied
  · have applied := @handleSpaceKey_applies loaded s _ _ _ env holds
    rw [← dispatched, done] at applied
    exact lasts_of_applies time escaped applied
  · have cleared : { s with currentKey := .back }.core.Holds testToken statsToken game :=
      ⟨holds.test, holds.stats⟩
    have applied := @handleDeleteKey_applies loaded { s with currentKey := .back } _ _ _ cleared
    rw [← dispatched, done] at applied
    exact lasts_of_applies time escaped applied

theorem dispatchScancode_ok {testToken statsToken : Nat} {game : Game} (env : Env)
    (holds : s.core.Holds testToken statsToken game) (within : WithinArray game.test) :
    ∃ next, dispatchScancode loaded env s = .ok next := by
  rcases dispatchScancode_cases loaded env s with
    ⟨key, dispatched⟩ | ⟨c, playing, dispatched⟩ | ⟨-, -, dispatched⟩ | ⟨-, dispatched⟩
  · exact ⟨_, dispatched⟩
  · rw [dispatched]
    exact ok_of_applies within (processKey_applies c (keyMap s.data) playing holds)
  · rw [dispatched]
    exact ok_of_applies within (handleSpaceKey_applies env holds)
  · have cleared : { s with currentKey := .back }.core.Holds testToken statsToken game :=
      ⟨holds.test, holds.stats⟩
    rw [dispatched]
    exact ok_of_applies within (handleDeleteKey_applies cleared)

/-- A packet in a game goes to the automaton. -/
theorem checkGesture_lasts (lasts : Lasts seconds s) (acted : checkGesture loaded s = .ok next) :
    Lasts seconds next := by
  have key : next.currentKey = s.currentKey := by
    obtain ⟨_, _, _, _, _, _, _, rfl⟩ := checkGesture_gesturedFrom acted
    rfl
  obtain ⟨testToken, statsToken, game, holds, time, within⟩ := lasts
  rw [← key] at within
  cases moved : gestureStep s.stars s.gestureState s.xGesture s.mouse.pp with
  | some after =>
      obtain ⟨other, done, core⟩ := @checkGesture_of_some loaded s _ _ moved
      obtain rfl : other = next := Except.ok.inj (done.symm.trans acted)
      refine ⟨testToken, statsToken, game, ?_, time, within⟩
      rw [core]
      exact ⟨holds.test, holds.stats⟩
  | none =>
      rcases @checkGesture_of_none loaded s _ _ _ holds moved with
        ⟨filled, other, filling, done, core⟩ | ⟨fault, -, failed⟩
      · obtain rfl : other = next := Except.ok.inj (done.symm.trans acted)
        refine ⟨testToken, statsToken, filled, ?_, (edit_later filling).time.trans time, ?_⟩
        · rw [core]
          exact ⟨rfl, rfl⟩
        · intro escaped
          obtain ⟨result, returned, kept⟩ := edit_within loaded .fill (within escaped)
          rw [filling] at returned
          cases returned
          exact kept (.inl fun env => Edit.noConfusion)
      · rw [acted] at failed
        cases failed

theorem drawFrame_core {env : Env} (drawn : drawFrame loaded env s = .ok next) :
    next.core = s.core := by
  unfold drawFrame at drawn
  split at drawn
  · cases drawn
    rfl
  · cases drawn
    rfl

theorem drawScreen_lasts {env : Env} (playing : s.currentState = .game) (lasts : Lasts seconds s)
    (drawn : drawScreen loaded env s = .ok next) : Lasts seconds next := by
  have key : next.currentKey = s.currentKey := by
    obtain ⟨_, _, _, _, _, rfl⟩ := drawScreen_drawnFrom drawn
    rfl
  obtain ⟨testToken, statsToken, game, holds, time, within⟩ := lasts
  have backed := fun view : View => show ({ s with view := view } : State).core =
    { s.core with stats := .live statsToken game.stats } from core_unstored holds
  have core : next.core =
      s.core.withGame testToken statsToken
        { test := layout loaded game.test, stats := game.stats } := by
    unfold drawScreen at drawn
    split at drawn
    case h_2 =>
      simp only [holds.derefTest] at drawn
      cases drawn
      exact core_redrawWords game.test (backed _) holds
    all_goals
      rename_i shown
      rw [playing] at shown
      cases shown
  refine ⟨testToken, statsToken, { test := layout loaded game.test, stats := game.stats }, ?_, time, ?_⟩
  · rw [core]
    exact ⟨rfl, rfl⟩
  · rw [key]
    exact fun escaped => withinArray_layout (within escaped)

theorem gameDrawer_lasts {env : Env} (playing : s.currentState = .game) (lasts : Lasts seconds s)
    (drawn : gameDrawer loaded env s = .ok next) : Lasts seconds next := by
  have framed : ∀ {shown next : State}, drawFrame loaded env shown = .ok next →
      Lasts seconds shown → Lasts seconds next := by
    intro shown next frame
    refine lasts_of_core (drawFrame_core frame) ?_
    obtain ⟨_, _, _, _, _, rfl⟩ := drawFrame_drawnFrom frame
    rfl
  rw [gameDrawer_eq] at drawn
  split at drawn
  · obtain ⟨shown, screen, frame⟩ := bind_eq_ok.mp drawn
    have drawnLasts := drawScreen_lasts playing lasts screen
    apply framed frame
    exact drawnLasts
  · exact framed drawn lasts

end Handlers

/-! ### One handler call -/

/-- The game that began at `counter` with `seconds` to play is `elapsed` ticks old. -/
structure Counting (seconds counter : Int) (elapsed : Nat) (s : State) : Prop where
  playing : s.currentState = .game
  counted : s.counter = counter + elapsed
  remaining : s.timer = seconds - ((counter + elapsed) / 60 - counter / 60)
  lasts : Lasts seconds s

section Calls

variable {loaded : LoadedSprites} {seconds counter : Int} {elapsed : Nat} {s next : State}

theorem keyHandler_counting {ports : PortReads} {env : Env}
    (counting : Counting seconds counter elapsed s) (other : kbcIh ports s.data ≠ keyEsc)
    (undisturbed : s.currentKey = .esc → overwritesKey (kbcIh ports s.data) = true)
    (done : keyHandler loaded ports env s = .ok next) : Counting seconds counter elapsed next := by
  rw [keyHandler_eq] at done
  obtain ⟨typed, updated, left⟩ := bind_eq_ok.mp done
  have awake : typed.currentKey ≠ .esc := by
    have remembered : typed.currentKey = rememberedKey (kbcIh ports s.data) s.currentKey :=
      dispatchScancode_currentKey updated
    rw [remembered]
    exact rememberedKey_awake other undisturbed
  have received : Lasts seconds { s with data := kbcIh ports s.data } :=
    lasts_of_core rfl rfl counting.lasts
  have lasts := dispatchScancode_lasts received awake updated
  rw [leaveByKey, counting.playing, if_neg (by simp), if_neg awake] at left
  cases left
  obtain ⟨_, _, _, _, _, _, rfl⟩ := updateKeyboard_typedFrom updated
  exact ⟨counting.playing, counting.counted, counting.remaining, lasts⟩

theorem updateMouse_counting {ports : PortReads} {env : Env}
    (counting : Counting seconds counter elapsed s)
    (done : updateMouse loaded ports env s = .ok next) : Counting seconds counter elapsed next := by
  rcases updateMouse_inv done with ⟨pp, acted, acting, rfl⟩ | ⟨-, rfl⟩
  · generalize arrived : (parsePacket { s with mouse := sync (mouseIh ports s.mouse) }).record _ =
      parsed at acting
    have received : Counting seconds counter elapsed parsed := by
      rw [← arrived]
      obtain ⟨testToken, statsToken, game, holds, within⟩ := counting.lasts
      exact ⟨counting.playing, counting.counted, counting.remaining,
        ⟨testToken, statsToken, game, ⟨holds.test, holds.stats⟩, within⟩⟩
    rw [checkActions_game env received.playing] at acting
    have lasts := checkGesture_lasts received.lasts acting
    obtain ⟨_, _, _, _, _, _, _, rfl⟩ := checkGesture_gesturedFrom acting
    exact ⟨received.playing, received.counted, received.remaining, lasts⟩
  · exact ⟨counting.playing, counting.counted, counting.remaining, counting.lasts⟩

/-- The timer stands at zero exactly before the last tick. -/
theorem Counting.timer_eq_zero (counting : Counting seconds counter elapsed s)
    (lasting : (elapsed : Int) < lastTick seconds counter) :
    s.timer = 0 ↔ (elapsed + 1 : Int) = lastTick seconds counter := by
  have remaining := counting.remaining
  unfold lastTick at lasting ⊢
  constructor
  · intro expired
    omega
  · intro last
    omega

/-- What the next tick does to the screen. -/
theorem Counting.nextTick (counting : Counting seconds counter elapsed s) (positive : 0 < seconds)
    (lasting : (elapsed : Int) < lastTick seconds counter) (env : Env) :
    ∃ next, updateTimer env s = .ok next ∧
      next.currentState =
        if (elapsed + 1 : Int) = lastTick seconds counter then .statistics else .game := by
  have zero := counting.timer_eq_zero lasting
  rw [updateTimer_eq, if_pos counting.playing]
  by_cases expired : s.timer = 0
  · rw [if_pos expired, if_pos (zero.mp expired)]
    obtain ⟨testToken, statsToken, game, holds, time, -⟩ := counting.lasts
    have timed : game.stats.time ≠ 0 := by
      rw [time]
      omega
    have hasTest : (tick s).test = .live testToken game.test := holds.test
    have hasStats : (tick s).stats = .live statsToken game.stats := holds.stats
    exact ⟨_, setGameState_statistics env .updateTimer hasTest hasStats timed, rfl⟩
  · rw [if_neg expired, if_neg (mt zero.mpr expired)]
    split
    · exact ⟨_, rfl, counting.playing⟩
    · exact ⟨_, rfl, counting.playing⟩

/-- Before the last tick the clock moves on, by a second whenever the counter completes one. -/
theorem updateTimer_counting {env : Env} (counting : Counting seconds counter elapsed s)
    (lasting : (elapsed + 1 : Int) < lastTick seconds counter)
    (ticked : updateTimer env s = .ok next) : Counting seconds counter (elapsed + 1) next := by
  have running : s.timer ≠ 0 := by
    intro expired
    have last := (counting.timer_eq_zero (by omega)).mp expired
    omega
  have counted := counting.counted
  have remaining := counting.remaining
  have lasts : ∀ timer, Lasts seconds { tick s with timer := timer } := by
    intro timer
    obtain ⟨testToken, statsToken, game, holds, within⟩ := counting.lasts
    exact ⟨testToken, statsToken, game, ⟨holds.test, holds.stats⟩, within⟩
  have increased : (tick s).counter = s.counter + 1 := rfl
  rw [updateTimer_eq, if_pos counting.playing, if_neg running] at ticked
  split at ticked
  · rename_i second
    cases ticked
    refine ⟨counting.playing, ?_, ?_, lasts _⟩
    · change s.counter + 1 = _
      push_cast
      omega
    · change s.timer - 1 = _
      push_cast
      omega
  · rename_i midway
    cases ticked
    refine ⟨counting.playing, ?_, ?_, lasts s.timer⟩
    · change s.counter + 1 = _
      push_cast
      omega
    · change s.timer = _
      push_cast
      omega

theorem gameDrawer_counting {env : Env} (counting : Counting seconds counter elapsed s)
    (drawn : gameDrawer loaded env s = .ok next) : Counting seconds counter elapsed next := by
  have lasts := gameDrawer_lasts counting.playing counting.lasts drawn
  obtain ⟨_, _, _, _, _, rfl⟩ := gameDrawer_drawnFrom drawn
  exact ⟨counting.playing, counting.counted, counting.remaining, lasts⟩

/-- Every undisturbed call keeps the count. -/
theorem perform_counting {call : HandlerCall} (counting : Counting seconds counter elapsed s)
    (noEscape : NoEscape s call) (undisturbed : Undisturbed s call)
    (lasting : (elapsed + ticks [call] : Int) < lastTick seconds counter)
    (performed : perform loaded s call = .ok next) :
    Counting seconds counter (elapsed + ticks [call]) next := by
  cases call with
  | keyboard ports env => exact keyHandler_counting counting noEscape undisturbed performed
  | mouse ports env => exact updateMouse_counting counting performed
  | timer env =>
      obtain ⟨ticked, updated, drawn⟩ := bind_eq_ok.mp performed
      exact gameDrawer_counting (updateTimer_counting counting lasting updated) drawn

/-- A key that does not overwrite a remembered ESC leaves the game. -/
theorem keyHandler_disturbed {ports : PortReads} (env : Env) (playing : s.currentState = .game)
    (lasts : Lasts seconds s) (stale : s.currentKey = .esc) (other : kbcIh ports s.data ≠ keyEsc)
    (kept : overwritesKey (kbcIh ports s.data) = false) :
    ∃ next, keyHandler loaded ports env s = .ok next ∧ next.currentState = .menu := by
  obtain ⟨testToken, statsToken, game, holds, -, within⟩ := lasts
  have remembers : rememberedKey (kbcIh ports s.data) s.currentKey = .esc := by
    rw [rememberedKey_kept other kept, stale]
  have received : ({ s with data := kbcIh ports s.data } : State).core.Holds testToken statsToken
      game := ⟨holds.test, holds.stats⟩
  obtain ⟨typed, dispatched⟩ := @dispatchScancode_ok loaded _ _ _ _ env received (within stale)
  have updated : updateKeyboard loaded ports env s = .ok typed := dispatched
  have escaped : typed.currentKey = .esc := (dispatchScancode_currentKey dispatched).trans remembers
  have left : ∃ next, keyHandler loaded ports env s = .ok next := by
    rw [keyHandler_eq, updated, playing]
    change ∃ next, leaveByKey env .game typed = .ok next
    rw [leaveByKey, if_neg (by simp), if_pos escaped]
    exact ⟨_, rfl⟩
  obtain ⟨next, done⟩ := left
  obtain ⟨screen, -, -⟩ := keyHandler_screen done
  rw [if_neg (by rw [playing]; simp), if_pos remembers] at screen
  exact ⟨next, done, (Prod.mk.inj screen).1⟩

end Calls

/-! ### Whole games -/

section Games

variable {loaded : LoadedSprites} {seconds counter : Int} {elapsed : Nat} {start : State}
  {calls : List HandlerCall}

theorem ticks_cons (call : HandlerCall) (calls : List HandlerCall) :
    ticks (call :: calls) = ticks [call] + ticks calls := by
  rw [← List.singleton_append, ticks, List.countP_append]
  rfl

/-- Undisturbed, the count is kept after every part of the calls. -/
theorem counting_parts (counting : Counting seconds counter elapsed start)
    (noEscape : Along (perform loaded) NoEscape start calls)
    (undisturbed : Along (perform loaded) Undisturbed start calls)
    (lasting : (elapsed + ticks calls : Int) < lastTick seconds counter) :
    ∀ part s, part <+: calls → part.foldlM (perform loaded) start = .ok s →
      Counting seconds counter (elapsed + ticks part) s := by
  induction calls generalizing start elapsed with
  | nil =>
      intro part s isPart reached
      rw [List.prefix_nil.mp isPart] at reached ⊢
      cases reached
      exact counting
  | cons call calls inductionHypothesis =>
      intro part s isPart reached
      cases part with
      | nil =>
          cases reached
          exact counting
      | cons head part =>
          obtain ⟨rfl, isRest⟩ := List.cons_prefix_cons.mp isPart
          rw [List.foldlM_cons] at reached
          obtain ⟨next, performed, reached⟩ := bind_eq_ok.mp reached
          rw [ticks_cons] at lasting ⊢
          push_cast at lasting
          have once := perform_counting counting noEscape.1 undisturbed.1 (by omega) performed
          rw [← Nat.add_assoc]
          apply inductionHypothesis once (noEscape.2 next performed) (undisturbed.2 next performed)
          · push_cast
            omega
          · exact isRest
          · exact reached

/-- A game that is not left early was not disturbed. -/
theorem undisturbed_of_playing (counting : Counting seconds counter elapsed start)
    (noEscape : Along (perform loaded) NoEscape start calls)
    (lasting : (elapsed + ticks calls : Int) < lastTick seconds counter)
    (playing : ∀ part s, part <+: calls → part.foldlM (perform loaded) start = .ok s →
      s.currentState = .game) :
    Along (perform loaded) Undisturbed start calls := by
  induction calls generalizing start elapsed with
  | nil => trivial
  | cons call calls inductionHypothesis =>
      have here : Undisturbed start call := by
        cases call with
        | timer env => trivial
        | mouse ports env => trivial
        | keyboard ports env =>
            intro stale
            by_contra kept
            rw [Bool.not_eq_true] at kept
            obtain ⟨next, done, left⟩ :=
              keyHandler_disturbed env counting.playing counting.lasts stale noEscape.1 kept
            have still : next.currentState = .game := by
              apply playing [.keyboard ports env] next
              · exact List.prefix_append [_] calls
              · rw [List.foldlM_cons]
                change keyHandler loaded ports env start >>= _ = _
                rw [done]
                rfl
            rw [left] at still
            cases still
      refine ⟨here, ?_⟩
      intro next performed
      rw [ticks_cons] at lasting
      push_cast at lasting
      have once := perform_counting counting noEscape.1 here (by omega) performed
      apply inductionHypothesis once (noEscape.2 next performed)
      · push_cast
        omega
      · intro part s isPart reached
        apply playing (call :: part) s (List.cons_prefix_cons.mpr ⟨rfl, isPart⟩)
        rw [List.foldlM_cons, performed]
        exact reached

theorem StartsGame.counting {before : State} (started : StartsGame before start) :
    start.timer = before.timer ∧ start.counter = before.counter ∧
      Counting before.timer before.counter 0 start := by
  obtain ⟨env, caller, entered, mouse, changed, rfl⟩ := started
  rw [setGameState_game] at changed
  cases changed
  refine ⟨rfl, rfl, rfl, (Int.add_zero _).symm, ?_, ?_⟩
  · change before.timer = _
    simp
  · exact ⟨_, _, { test := freshTest env, stats := initializeStats before.timer }, ⟨rfl, rfl⟩, rfl,
      fun _ => withinArray_freshTest env⟩

/-- A button that leads into a game calls `setGameState(GAME)`. -/
theorem screenButtons_startGame (env : Env) (s : State) :
    ∀ button ∈ screenButtons env s, ∀ s next, button.2 s = .ok next → next.currentState = .game →
      ∃ before, setGameState env .checkActions .game before = .ok next := by
  have entered : ∀ target s next, setGameState env .checkActions target s = .ok next →
      next.currentState = target := by
    intro target s next changed
    obtain ⟨_, _, _, _, _, _, _, rfl, -⟩ := setGameState_enteredFrom changed
    rfl
  apply @forall_screenButtons env fun action => ∀ s next, action s = .ok next →
    next.currentState = .game → ∃ before, setGameState env .checkActions .game before = .ok next
  · intro target s next changed shown
    obtain rfl : target = .game := (entered target s next changed).symm.trans shown
    exact ⟨s, changed⟩
  · intro seconds s next changed _
    exact ⟨{ s with timer := seconds }, changed⟩
  · intro s next pressed shown
    obtain ⟨middle, changed, freed⟩ := bind_eq_ok.mp pressed
    have menu := entered .menu s middle changed
    obtain ⟨stats, -, returned⟩ := bind_eq_ok.mp freed
    cases returned
    cases menu.symm.trans shown

/-- Every game that a packet starts begins so. -/
theorem updateMouse_startsGame {ports : PortReads} {env : Env} {s next : State}
    (outside : s.currentState ≠ .game) (done : updateMouse loaded ports env s = .ok next)
    (playing : next.currentState = .game) : ∃ before, StartsGame before next := by
  rcases updateMouse_inv done with ⟨pp, acted, acting, rfl⟩ | ⟨-, rfl⟩
  · generalize arrived : (parsePacket { s with mouse := sync (mouseIh ports s.mouse) }).record _ =
      parsed at acting
    have still : parsed.currentState ≠ .game := by
      rw [← arrived]
      exact outside
    rw [checkActions_eq loaded env still] at acting
    cases hit : hitButton env parsed with
    | none =>
        rw [hit] at acting
        cases acting
        exact absurd playing still
    | some button =>
        rw [hit] at acting
        obtain ⟨before, changed⟩ := screenButtons_startGame env parsed button
          (List.mem_of_find?_eq_some hit) _ _ acting playing
        exact ⟨before, env, .checkActions, acted, _, changed, rfl⟩
  · exact absurd playing outside

end Games

/-- For every start of a game with time to play and every interleaving of keys other than ESC, packets
and ticks before its last tick: the clock is right throughout if and only if no key meets a remembered
ESC without overwriting it.  The last tick comes within the last second. -/
theorem countdown_iff (loaded : LoadedSprites) {before start : State}
    (started : StartsGame before start) (positive : 0 < before.timer) (calls : List HandlerCall)
    (noEscape : Along (perform loaded) NoEscape start calls)
    (lasting : (ticks calls : Int) < lastTick before.timer before.counter) :
    (CountsDown loaded start calls ↔ Along (perform loaded) Undisturbed start calls) ∧
      60 * (before.timer - 1) + 2 ≤ lastTick before.timer before.counter ∧
      lastTick before.timer before.counter ≤ 60 * before.timer + 1 := by
  obtain ⟨timer, counter, counting⟩ := started.counting
  have within : ((0 : Nat) + ticks calls : Int) < lastTick before.timer before.counter := by
    rw [Nat.cast_zero, Int.zero_add]
    exact lasting
  refine ⟨⟨?_, ?_⟩, lastTick_bounds before.timer before.counter⟩
  · intro counts
    apply undisturbed_of_playing counting noEscape within
    intro part s isPart reached
    exact (counts part s isPart reached).playing
  · intro undisturbed part s isPart reached
    have kept := counting_parts counting noEscape undisturbed within part s isPart reached
    rw [Nat.zero_add] at kept
    have early : (ticks part : Int) < lastTick before.timer before.counter := by
      have fewer : ticks part ≤ ticks calls := isPart.sublist.countP_le
      omega
    constructor
    · exact kept.playing
    · rw [timer, counter]
      exact kept.remaining
    · have remaining := kept.remaining
      unfold lastTick at early
      omega
    · rw [timer, counter]
      exact kept.nextTick positive early

/-! ### Concrete games -/

/-- The call of `key_handler` for one scancode. -/
def keyCall (code : UInt8) : HandlerCall :=
  .keyboard { status := some 0x01, output := some code } default

/-- A first second of play: a letter, sixty ticks and a space. -/
def firstSecond : List HandlerCall :=
  keyCall 0x1E :: (List.replicate 60 (.timer default) ++ [keyCall keySpace])

/-- A game of fifteen seconds that starts in the middle of a second of the counter. -/
theorem countdown_of_fifteen :
    ∃ start, StartsGame { setup [] with timer := 15, counter := 37 } start ∧
      (CountsDown everySprite start firstSecond ↔
        Along (perform everySprite) Undisturbed start firstSecond) ∧
      60 * (15 - 1) + 2 ≤ lastTick 15 37 ∧ lastTick 15 37 ≤ 60 * 15 + 1 := by
  have noEscape : ∀ call ∈ firstSecond, ∀ s, NoEscape s call := by
    intro call member s
    rw [firstSecond, List.mem_cons, List.mem_append, List.mem_replicate, List.mem_singleton] at member
    rcases member with rfl | ⟨-, rfl⟩ | rfl
    · change (0x1E : UInt8) ≠ keyEsc
      decide
    · trivial
    · change keySpace ≠ keyEsc
      decide
  obtain ⟨start, started⟩ : ∃ start, StartsGame { setup [] with timer := 15, counter := 37 } start :=
    ⟨_, default, .checkActions, _,
      { byteReceived := 0, bytesRead := 0, ppBytes := (0, 0, 0), pp := default },
      setGameState_game default .checkActions { setup [] with timer := 15, counter := 37 }, rfl⟩
  refine ⟨start, started, ?_⟩
  exact countdown_iff everySprite started (by decide) firstSecond
    (along_of_forall noEscape start) (by decide)

/-- From program start towards a game of a minute with ESC remembered: ESC comes together with the click
on PLAY, and the last byte of the click on the time is still missing. -/
def towardsGameWithEscape : List Notification :=
  [mouseByte 0x29, mouseByte 0, escapeWithClick, mouseByte 0x29, mouseByte 0]

/-- The space bar leaves that game as soon as it has started. -/
theorem stale_escape_ends_game :
    ∃ before start, run everySprite [] (towardsGameWithEscape ++ [mouseByte 226]) = .ok start ∧
      StartsGame before start ∧ before.timer = 60 ∧ before.counter = 0 ∧
      NoEscape start (keyCall keySpace) ∧ ¬ CountsDown everySprite start [keyCall keySpace] := by
  have checked : (run everySprite [] towardsGameWithEscape).toOption.any (fun s =>
      s.currentState == .timers &&
        (updateMouse everySprite { status := some 0x21, output := some 226 } default s).toOption.any
          (fun start => start.currentState == .game && start.timer == 60 && start.counter == 0 &&
            (perform everySprite start (keyCall keySpace)).toOption.any
              (fun next => next.currentState == .menu))) = true := by
    decide +kernel
  obtain ⟨s, reached, facts⟩ := exists_ok_of_any checked
  rw [Bool.and_eq_true, beq_iff_eq] at facts
  obtain ⟨shown, clicks⟩ := facts
  obtain ⟨start, clicked, facts⟩ := exists_ok_of_any clicks
  simp only [Bool.and_eq_true, beq_iff_eq] at facts
  obtain ⟨⟨⟨playing, timer⟩, counter⟩, leaves⟩ := facts
  obtain ⟨next, performed, left⟩ := exists_ok_of_any leaves
  obtain ⟨before, started⟩ := updateMouse_startsGame (by rw [shown]; simp) clicked playing
  obtain ⟨sameTimer, sameCounter, -⟩ := started.counting
  have ran : run everySprite [] (towardsGameWithEscape ++ [mouseByte 226]) = .ok start := by
    have running : exitRequested s = false := by
      rw [exitRequested, shown]
      rfl
    rw [run, List.foldlM_append]
    change run everySprite [] towardsGameWithEscape >>= _ = _
    rw [reached]
    change mainLoopStep everySprite s (mouseByte 226) >>= _ = _
    rw [mainLoopStep, if_neg (by rw [running]; simp)]
    change updateMouse everySprite _ default s >>= _ = _
    rw [clicked]
    rfl
  have other : NoEscape start (keyCall keySpace) := by
    change keySpace ≠ keyEsc
    decide
  refine ⟨before, start, ran, started, sameTimer.symm.trans timer, sameCounter.symm.trans counter,
    other, ?_⟩
  intro counts
  have showing := counts [keyCall keySpace] next (List.prefix_refl _)
    (by rw [List.foldlM_cons, performed]; rfl)
  rw [beq_iff_eq, showing.playing] at left
  cases left

end TypingTutor
