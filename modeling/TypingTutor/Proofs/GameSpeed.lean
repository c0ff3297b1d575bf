/-
Module: TypingTutor.Proofs.GameSpeed
Layer: Proofs
Purpose: The speed of a game.  The integer quotient of `setGameState` and the rounded one of
  `drawStatistics` agree as long as sixty times the number of words is an `int`; beyond that the
  product overflows.
Trusted boundary: none
Main exports: mostWords, ExactSpeed, exactSpeed_iff, onlySpaces_scored, statistics_only_after_time_up,
  speed_of_score_overflows
-/
import TypingTutor.Proofs.Navigation
import TypingTutor.Proofs.WordTyping

namespace TypingTutor

open Runs Binary64

/-! ### The two speeds -/

/-- The largest number of words whose sixtyfold is an `int`. -/
def mostWords : Int := 35791394

/-- The quotient is exact, is the speed in words a minute, and is what the statistics screen shows. -/
structure ExactSpeed (stats : Statistics) (wpm : Int) : Prop where
  quotient : wpm * stats.time = stats.typedWords * 60
  perMinute : wpm = roundHalfAway ((stats.typedWords : ℚ) / ((stats.time : ℚ) / 60))
  shown : wpm = shownSpeed stats

theorem roundHalfAway_intCast (value : Int) : roundHalfAway (value : ℚ) = value := by
  have half : ∀ number : Int, ⌊(number : ℚ) + 1 / 2⌋ = number := by
    intro number
    rw [Int.floor_eq_iff]
    constructor
    · linarith
    · linarith
  unfold roundHalfAway
  split
  · exact half value
  · have negated := half (-value)
    push_cast at negated
    rw [negated, neg_neg]

section Speed

variable {stats : Statistics}

/-- The offered times divide a minute. -/
theorem Offered.factor {seconds : Int} (offered : Offered seconds) :
    ∃ factor : Int, factor * seconds = 60 ∧ 0 < seconds ∧ seconds ≤ 60 ∧ 1 ≤ factor ∧ factor ≤ 4 := by
  rcases offered with time | time | time
  · exact ⟨4, by omega, by omega, by omega, by omega, by omega⟩
  · exact ⟨2, by omega, by omega, by omega, by omega, by omega⟩
  · exact ⟨1, by omega, by omega, by omega, by omega, by omega⟩

/-- An offered time is a fraction of a minute that doubles hold exactly. -/
theorem nearest_minutes {seconds : Int} (offered : Offered seconds) :
    nearest ((seconds : ℚ) / 60) = (seconds : ℚ) / 60 := by
  have small : |(1 : ℤ)| < 2 ^ 53 := by norm_num
  rcases offered with time | time | time
  · exact @nearest_of_fits _ 1 (-2) small (by rw [time]; norm_num)
  · exact @nearest_of_fits _ 1 (-1) small (by rw [time]; norm_num)
  · exact @nearest_of_fits _ 1 0 small (by rw [time]; norm_num)

/-- Words a minute, for an offered time. -/
theorem perMinute_eq {factor : Int} (product : factor * stats.time = 60) (positive : 0 < stats.time) :
    (stats.typedWords : ℚ) / ((stats.time : ℚ) / 60) = ((stats.typedWords * factor : Int) : ℚ) := by
  have nonzero : (stats.time : ℚ) ≠ 0 := by exact_mod_cast positive.ne'
  have productRat : (factor : ℚ) * stats.time = 60 := by exact_mod_cast product
  push_cast
  rw [← productRat]
  field_simp

/-- The screen shows the exact speed, as long as doubles hold it. -/
theorem shownSpeed_eq {factor : Int} (offered : Offered stats.time)
    (product : factor * stats.time = 60) (small : |stats.typedWords * factor| < 2 ^ 53) :
    shownSpeed stats = stats.typedWords * factor := by
  obtain ⟨-, -, positive, -⟩ := offered.factor
  rw [shownSpeed, nearest_minutes offered, perMinute_eq product positive, nearest_intCast small,
    roundHalfAway_intCast]

/-- The product is taken modulo 2³² before it is divided. -/
theorem gameSpeed_toInt (offered : Offered stats.time) :
    (gameSpeed stats).toInt = ((stats.typedWords * 60).bmod (2 ^ 32)).tdiv stats.time := by
  have time : (Int32.ofInt stats.time).toInt = stats.time := by
    obtain ⟨-, -, positive, small, -⟩ := offered.factor
    exact Int32.toInt_ofInt_of_le (by omega) (by omega)
  have product : (Int32.ofInt stats.typedWords * 60).toInt = (stats.typedWords * 60).bmod (2 ^ 32) := by
    rw [Int32.toInt_mul, Int32.toInt_ofInt]
    exact Int.bmod_mul_bmod
  rw [gameSpeed, Int32.toInt_div, time, product]
  generalize (stats.typedWords * 60).bmod (2 ^ 32) = wrapped at product
  have least := Int32.le_toInt (Int32.ofInt stats.typedWords * 60)
  have most := Int32.toInt_lt (Int32.ofInt stats.typedWords * 60)
  rw [product] at least most
  have shrinks : (wrapped.tdiv stats.time).natAbs ≤ wrapped.natAbs / 2 := by
    have two : 2 ≤ stats.time.natAbs := by
      rcases offered with time | time | time <;> omega
    rw [Int.natAbs_tdiv]
    exact Nat.div_le_div_left two two_pos
  exact Int.bmod_eq_of_le (by omega) (by omega)

/-- The integer quotient is exact, and agrees with the other two, if and only if the product is an
`int`. -/
theorem exactSpeed_iff (offered : Offered stats.time) (counted : 0 ≤ stats.typedWords) :
    ExactSpeed stats (gameSpeed stats).toInt ↔ stats.typedWords ≤ mostWords := by
  rw [gameSpeed_toInt offered]
  constructor
  · intro speed
    have quotient := congrArg Int.natAbs speed.quotient
    have bounded : ((stats.typedWords * 60).bmod (2 ^ 32)).natAbs ≤ 2 ^ 31 := by
      have least := @Int.le_bmod (stats.typedWords * 60) (2 ^ 32) (by decide)
      have most := @Int.bmod_lt (stats.typedWords * 60) (2 ^ 32) (by decide)
      omega
    have division : ∀ n d : ℕ, n.div d = n / d := fun _ _ => rfl
    rw [Int.natAbs_mul, Int.natAbs_tdiv, division] at quotient
    rw [mostWords]
    rcases offered with time | time | time
    · rw [time, show (15 : ℤ).natAbs = 15 from rfl] at quotient
      omega
    · rw [time, show (30 : ℤ).natAbs = 30 from rfl] at quotient
      omega
    · rw [time, show (60 : ℤ).natAbs = 60 from rfl] at quotient
      omega
  · intro few
    rw [mostWords] at few
    obtain ⟨factor, product, positive, -, one, four⟩ := offered.factor
    have small : |stats.typedWords * factor| < 2 ^ 53 := by
      rw [abs_of_nonneg (by positivity)]
      nlinarith
    have quotient : ((stats.typedWords * 60).bmod (2 ^ 32)).tdiv stats.time =
        stats.typedWords * factor := by
      rw [Int.bmod_eq_of_le (by omega) (by omega), ← product, ← mul_assoc]
      exact Int.mul_tdiv_cancel _ positive.ne'
    rw [quotient]
    refine ⟨by rw [mul_assoc, product], ?_, (shownSpeed_eq offered product small).symm⟩
    rw [perMinute_eq product positive, roundHalfAway_intCast]

end Speed

/-! ### A game of spaces -/

/-- The test after the space bar, when every word drawn is the first of the pool. -/
def afterSpace (test : TypingTest) : TypingTest :=
  ((edit everySprite (.space default) { test := test, stats := default }).toOption.map
    (·.test)).getD test

/-- From the thirty-sixth space on, the words on the screen repeat. -/
theorem afterSpace_currentWord (count : ℕ) :
    ∃ word, (afterSpace^[count] (freshTest default)).currentWord = .ok word := by
  have checked : afterSpace^[36] (freshTest default) = afterSpace^[9] (freshTest default) ∧
      ((List.iterate afterSpace (freshTest default) 36).all fun test =>
        test.currentWord.toOption.any fun _ => true) = true := by
    decide +kernel
  obtain ⟨m, small, same⟩ := iterate_eq_of_return (by decide) checked.1 count
  have found := List.all_eq_true.mp checked.2 _ (List.mem_iterate.mpr ⟨m, small, rfl⟩)
  obtain ⟨word, reading, -⟩ := exists_ok_of_any found
  rw [same]
  exact ⟨word, reading⟩

theorem edit_afterSpace {game : Game} {word : Word} (reading : game.test.currentWord = .ok word) :
    edit everySprite (.space default) game =
      .ok { test := afterSpace game.test, stats := (judgeWord word game.test game.stats).2 } := by
  have judged : ∀ stats,
      (judgeWord word game.test stats).1 = (judgeWord word game.test game.stats).1 := by
    intro stats
    unfold judgeWord
    split
    · rfl
    · rfl
  have next : afterSpace game.test =
      layout everySprite (advanceWord default (judgeWord word game.test game.stats).1) := by
    rw [← judged default]
    simp only [afterSpace, edit, reading]
    rfl
  rw [next]
  simp only [edit, reading]
  rfl

theorem judgeWord_counts (word : Word) (test : TypingTest) (stats : Statistics) :
    (judgeWord word test stats).2.typedWords = stats.typedWords + 1 ∧
      (judgeWord word test stats).2.time = stats.time := by
  unfold judgeWord
  split
  · exact ⟨rfl, rfl⟩
  · exact ⟨rfl, rfl⟩

/-- A game of fifteen seconds, before its first tick, in which the space bar has been pressed so
often. -/
structure Spaced (count : ℕ) (s : State) : Prop where
  playing : s.currentState = .game
  awake : s.currentKey ≠ .esc
  clock : s.timer = 15 ∧ s.counter = 0
  game : ∃ testToken statsToken game, s.core.Holds testToken statsToken game ∧
    game.test = afterSpace^[count] (freshTest default) ∧ game.stats.typedWords = count ∧
      game.stats.time = 15

theorem Spaced.press {count : ℕ} {s : State} (spaced : Spaced count s) :
    ∃ next, mainLoopStep everySprite s (keyPress keySpace) = .ok next ∧ Spaced (count + 1) next := by
  have code : bit 7 keySpace = false ∧ charMap keySpace = none := by decide
  obtain ⟨testToken, statsToken, game, holds, test, words, time⟩ := spaced.game
  have playing := spaced.playing
  obtain ⟨word, reading⟩ := afterSpace_currentWord count
  rw [← test] at reading
  have dispatched : dispatchScancode everySprite default { s with data := keySpace } =
      handleSpaceKey everySprite default { s with data := keySpace } := by
    simp [dispatchScancode, code, playing]
  have applied := @handleSpaceKey_applies everySprite { s with data := keySpace } _ _ _ default holds
  rw [edit_afterSpace reading, ← dispatched] at applied
  rcases applies_iff.mp applied with ⟨edited, next, returned, pressed, core⟩ | ⟨fault, failed, -⟩
  · cases returned
    have key := dispatchScancode_currentKey pressed
    have noEscape : next.currentKey ≠ .esc := by
      rw [key]
      simpa [rememberedKey, code] using spaced.awake
    have counts := judgeWord_counts word game.test game.stats
    refine ⟨next, mainLoopStep_stays playing pressed noEscape, ?_, noEscape, ?_, ?_⟩
    · exact (congrArg Core.currentState core).trans playing
    · obtain ⟨_, _, _, _, _, _, rfl⟩ := dispatchScancode_typedFrom pressed
      exact spaced.clock
    · refine ⟨testToken, statsToken, _, by rw [core]; exact ⟨rfl, rfl⟩, ?_, ?_, ?_⟩
      · rw [Function.iterate_succ_apply', ← test]
      · rw [counts.1, words]
        rfl
      · rw [counts.2, time]
  · cases failed

theorem Spaced.press_all {before : ℕ} {s : State} (spaced : Spaced before s) (count : ℕ) :
    ∃ next, (List.replicate count (keyPress keySpace)).foldlM (mainLoopStep everySprite) s = .ok next ∧
      Spaced (before + count) next := by
  induction count generalizing before s with
  | zero => exact ⟨s, rfl, spaced⟩
  | succ count inductionHypothesis =>
      obtain ⟨middle, pressed, more⟩ := spaced.press
      obtain ⟨next, ran, most⟩ := inductionHypothesis more
      refine ⟨next, ?_, ?_⟩
      · rw [List.replicate_succ, List.foldlM_cons, pressed]
        exact ran
      · rw [show before + (count + 1) = before + 1 + count by omega]
        exact most

/-- A game of fifteen seconds, in which the space bar is pressed so often before the first tick. -/
def onlySpaces (count : ℕ) : List Notification :=
  mousePacket 0x29 0 236 ++ mousePacket 0x09 0 110 ++ List.replicate count (keyPress keySpace) ++
    List.replicate 901 tickMessage

/-- Each of the spaces is a typed word of the game that is scored. -/
theorem onlySpaces_scored (count : ℕ) :
    ∃ s token stats, run everySprite [] (onlySpaces count) = .ok s ∧
      (scoreCalls s.log).head? = some (token, stats, (gameSpeed stats).toInt) ∧
      stats.typedWords = count ∧ stats.time = 15 := by
  have checked : (run everySprite [] (mousePacket 0x29 0 236 ++ mousePacket 0x09 0 110)).toOption.any
      (fun s => s.currentState == .game && s.currentKey != .esc && s.timer == 15 && s.counter == 0 &&
        s.test.deref.toOption.any (fun test => test == freshTest default) &&
        s.stats.deref.toOption.any fun stats => stats == initializeStats 15) = true := by
    decide +kernel
  obtain ⟨start, began, shown⟩ := exists_ok_of_any checked
  simp only [Bool.and_eq_true, beq_iff_eq, bne_iff_ne] at shown
  obtain ⟨⟨⟨⟨⟨playing, awake⟩, timer⟩, counter⟩, fresh⟩, none⟩ := shown
  obtain ⟨test, readTest, sameTest⟩ := exists_ok_of_any fresh
  obtain ⟨stats, readStats, sameStats⟩ := exists_ok_of_any none
  obtain ⟨testToken, hasTest⟩ := Ptr.deref_eq_ok readTest
  obtain ⟨statsToken, hasStats⟩ := Ptr.deref_eq_ok readStats
  rw [beq_iff_eq] at sameTest sameStats
  have spaced : Spaced 0 start :=
    { playing := playing
      awake := awake
      clock := ⟨timer, counter⟩
      game := ⟨testToken, statsToken, ⟨test, stats⟩, ⟨hasTest, hasStats⟩, sameTest,
        by rw [sameStats]; rfl, by rw [sameStats]; rfl⟩ }
  obtain ⟨last, pressing, all⟩ := spaced.press_all count
  rw [Nat.zero_add] at all
  have reached : run everySprite []
      (mousePacket 0x29 0 236 ++ mousePacket 0x09 0 110 ++ List.replicate count (keyPress keySpace)) =
        .ok last := by
    rw [run, List.foldlM_append]
    change (run everySprite [] _ >>= _) = _
    rw [began]
    exact pressing
  have ledger := run_ledger everySprite []
    (mousePacket 0x29 0 236 ++ mousePacket 0x09 0 110 ++ List.replicate count (keyPress keySpace))
  rw [reached] at ledger
  obtain ⟨_, token, game, holds, -, words, time⟩ := all.game
  obtain ⟨next, ticking, ended⟩ := @timeRunsOut everySprite last ledger all.awake all.playing
    (by rw [all.clock.1]; decide)
  rw [all.clock.1, all.clock.2] at ticking
  refine ⟨next, token, game.stats, ?_, ended.scored token game.stats holds.stats, words, time⟩
  rw [onlySpaces, run, List.foldlM_append]
  change (run everySprite [] _ >>= _) = _
  rw [reached]
  exact ticking

/-! ### The games of a run -/

/-- Every game that was scored lasted one of the offered times, and its words were counted from 0. -/
theorem scored_games {loaded : LoadedSprites} {file : List Char} {messages : List Notification}
    {s : State}
    (ran : run loaded file messages = .ok s) {token : Nat} {stats : Statistics} {wpm : Int}
    (scored : (token, stats, wpm) ∈ scoreCalls s.log) :
    wpm = (gameSpeed stats).toInt ∧ Offered stats.time ∧ 0 ≤ stats.typedWords := by
  have ledger := run_ledger loaded file messages
  rw [ran] at ledger
  change GameLedger s.core at ledger
  rw [show scoreCalls s.log = _ from ledger.scored] at scored
  obtain ⟨played, member, mine⟩ := List.mem_flatMap.mp scored
  have offered := ledger.offered played member
  have outcome : RanOut played ∨ played.scored = [] := by
    by_cases playing : s.currentState = .game
    · obtain ⟨testToken, statsToken, game, holds⟩ := ledger.live.game playing
      obtain ⟨newest, older, games, still, done, -⟩ := ledger.newest playing holds
      rw [games] at member
      rcases List.mem_cons.mp member with rfl | finished
      · exact .inr still.2.1
      · exact (done played finished).imp_right And.right
    · exact (ledger.idle playing played member).imp_right And.right
  rcases outcome with ⟨-, own, only, time, counted⟩ | none
  · rw [only, List.mem_singleton] at mine
    cases mine
    exact ⟨rfl, by rw [time]; exact offered, counted⟩
  · rw [none] at mine
    cases mine

/-- No run divides by zero, and in every run the statistics screen is entered only when the time of a
game is up.  Each game that ran out was scored exactly once, from the statistics object of its own
start; no other call of `update_high_scores` was made, so none for a game left with ESC.  The speed of a
score is exact, and the one that the statistics screen shows, if and only if no more than 35791394 words
were typed. -/
theorem statistics_only_after_time_up (loaded : LoadedSprites) (file : List Char)
    (messages : List Notification) :
    run loaded file messages ≠ .error .divideByZero ∧
      ∀ s, run loaded file messages = .ok s →
        (∀ caller before timer gesture,
          .setGameState caller before .statistics timer gesture ∈ s.log →
            caller = .updateTimer ∧ before = .game ∧ timer = 0) ∧
        (∀ played ∈ playedGames s.log, Offered played.duration ∧
          (RanOut played ∨ Escaped played ∨
            s.currentState = .game ∧ played.ending = none ∧ played.scored = [])) ∧
        scoreCalls s.log = (playedGames s.log).flatMap (·.scored) ∧
        ∀ token stats wpm, (token, stats, wpm) ∈ scoreCalls s.log →
          (ExactSpeed stats wpm ↔ stats.typedWords ≤ mostWords) := by
  have ledger := run_ledger loaded file messages
  constructor
  · intro divided
    rw [divided] at ledger
    cases ledger
  · intro s ran
    rw [ran] at ledger
    change GameLedger s.core at ledger
    refine ⟨ledger.statistics, fun played member => ⟨ledger.offered played member, ?_⟩,
      ledger.scored, fun token stats wpm scored => ?_⟩
    · by_cases playing : s.currentState = .game
      · obtain ⟨testToken, statsToken, game, holds⟩ := ledger.live.game playing
        obtain ⟨newest, older, games, still, done, -⟩ := ledger.newest playing holds
        rw [show s.log = s.core.log from rfl, games] at member
        rcases List.mem_cons.mp member with rfl | finished
        · exact .inr (.inr ⟨playing, still.1, still.2.1⟩)
        · exact (done played finished).imp_right .inl
      · exact (ledger.idle playing played member).imp_right .inl
    · obtain ⟨rfl, offered, counted⟩ := scored_games ran scored
      exact exactSpeed_iff offered counted

/-- Fifteen seconds and 35791395 spaces: the score records a negative speed, and the statistics
screen shows 143165580 words a minute. -/
theorem speed_of_score_overflows :
    ∃ s token stats, run everySprite [] (onlySpaces 35791395) = .ok s ∧
      (token, stats, -143165573) ∈ scoreCalls s.log ∧ stats.typedWords = 35791395 ∧ stats.time = 15 ∧
      shownSpeed stats = 143165580 ∧ ¬ ExactSpeed stats (-143165573) := by
  obtain ⟨s, token, stats, ran, scored, words, time⟩ := onlySpaces_scored 35791395
  have offered : Offered stats.time := .inl time
  have wrapped : (gameSpeed stats).toInt = -143165573 := by
    rw [gameSpeed_toInt offered, words, time]
    decide
  have shown : shownSpeed stats = 143165580 := by
    rw [@shownSpeed_eq stats 4 offered (by rw [time]; rfl) (by rw [words]; decide), words]
    rfl
  rw [wrapped] at scored
  refine ⟨s, token, stats, ran, List.mem_of_head? scored, words, time, shown, fun speed => ?_⟩
  have same := speed.shown
  rw [shown] at same
  exact absurd same (by decide)

end TypingTutor
