/-
Module: TypingTutor.Proofs.ScanPrograms
Layer: Proofs
Purpose: The test programs of the keyboard print the scancodes of the bytes that they read, up to
  the release of ESC, whether they are woken by interrupts or poll the status; and the timed one
  gives up after enough ticks in a row without a scancode.
Trusted boundary: none
Main exports: scancodesOf, Scans, heard, deviceBytes, polledBytes, uptoEsc, scan_and_poll_agree,
  timed_scan_ends_iff
-/
import TypingTutor.Core.TestPrograms
import TypingTutor.Lib.Escape
import TypingTutor.Lib.Stopwatch
import TypingTutor.Proofs.KeyboardPolling

namespace TypingTutor

open Loop Escape Stopwatch

/-! ### Scancodes -/

/-- A code as `kbd_print_scancode` is given it. -/
def printedCode (code : Code UInt8) : Scancode where
  make := !bit 7 code.byte
  bytes := code.bytes 0xE0

/-- The scancodes of a stream of bytes. -/
def scancodesOf (bytes : List UInt8) : List Scancode := (codesFrom 0xE0 false bytes).map printedCode

/-- The scanner has been given the bytes. -/
structure Scans (bytes : List UInt8) (s : Scanner) : Prop where
  printed : s.printed = scancodesOf bytes
  pending : s.is2bytes = pending 0xE0 false bytes

/-- The first byte of two is kept. -/
def KeepsFirst (s : Scanner) : Prop := s.is2bytes = true → s.temp = 0xE0

section Bytes

variable {bytes : List UInt8} {s : Scanner}

theorem scancodesOf_escape (bytes : List UInt8) :
    scancodesOf (bytes ++ [0xE0]) = scancodesOf bytes := by
  rw [scancodesOf, codesFrom_append, codesFrom, if_pos rfl, codesFrom, List.append_nil]
  rfl

theorem scancodesOf_concat {byte : UInt8} (plain : byte ≠ 0xE0) :
    scancodesOf (bytes ++ [byte]) =
      scancodesOf bytes ++ [printedCode { escaped := pending 0xE0 false bytes, byte := byte }] := by
  rw [scancodesOf, codesFrom_append, codesFrom, if_neg plain, codesFrom, List.map_append]
  rfl

theorem pollData_scans (scans : Scans bytes s) : Scans (bytes ++ [s.data]) (pollData s) := by
  obtain ⟨printed, pends⟩ := scans
  rw [pollData]
  by_cases escape : s.data = 0xE0
  · rw [if_pos escape, escape]
    exact ⟨printed.trans (scancodesOf_escape bytes).symm, by rw [pending_append]; rfl⟩
  · have after : pending 0xE0 false (bytes ++ [s.data]) = false := by
      rw [pending_append]
      exact decide_eq_false escape
    rw [if_neg escape]
    cases two : s.is2bytes with
    | true =>
        rw [if_pos rfl]
        refine ⟨?_, after.symm⟩
        rw [scancodesOf_concat escape, ← pends, two, ← printed]
        rfl
    | false =>
        rw [if_neg Bool.false_ne_true]
        refine ⟨?_, after.symm⟩
        rw [scancodesOf_concat escape, ← pends, two, ← printed]
        rfl

/-- Where the first byte has been kept, the two programs print the same. -/
theorem scanData_eq (keeps : KeepsFirst s) :
    scanData s = { pollData s with temp := if s.data = 0xE0 then 0xE0 else s.temp } := by
  rw [scanData, pollData]
  by_cases escape : s.data = 0xE0
  · rw [if_pos escape, if_pos escape, if_pos escape, escape]
  · rw [if_neg escape, if_neg escape, if_neg escape]
    cases two : s.is2bytes with
    | true => rw [if_pos rfl, if_pos rfl, keeps two]
    | false => rw [if_neg Bool.false_ne_true, if_neg Bool.false_ne_true]

theorem scanData_scans (scans : Scans bytes s) (keeps : KeepsFirst s) :
    Scans (bytes ++ [s.data]) (scanData s) ∧ KeepsFirst (scanData s) := by
  have scanned := pollData_scans scans
  rw [scanData_eq keeps]
  refine ⟨⟨scanned.printed, scanned.pending⟩, fun two => ?_⟩
  have escape : s.data = 0xE0 := by
    by_contra plain
    have after := scanned.pending.symm.trans two
    rw [pending_append] at after
    exact plain (of_decide_eq_true after)
  exact if_pos escape

end Bytes

/-! ### Interrupts -/

/-- The bytes that the device's handler has after each of its interrupts among the first messages.  An
interrupt that reads nothing finds the last one again. -/
def heard (read : PortReads → Option UInt8) (inputs : ℕ → Message) (data : UInt8) : ℕ → List UInt8
  | 0 => []
  | n + 1 =>
      heard read inputs data n ++
        (inputs n).device.toList.map fun ports =>
          (read ports).getD ((heard read inputs data n).getLastD data)

section Heard

variable {read : PortReads → Option UInt8} {inputs : ℕ → Message} {data : UInt8} {n : ℕ}

theorem heard_grows {m : ℕ} (before : n ≤ m) :
    heard read inputs data n <+: heard read inputs data m := by
  induction before with
  | refl => exact List.prefix_refl _
  | step _ inductionHypothesis => exact inductionHypothesis.trans (List.prefix_append _ _)

/-- The bytes that the interrupts of the device among the first messages read. -/
def deviceBytes (read : PortReads → Option UInt8) (inputs : ℕ → Message) (n : ℕ) : List UInt8 :=
  (List.range n).filterMap fun i => (inputs i).device.bind read

theorem heard_eq
    (reads : ∀ i < n, ∀ ports, (inputs i).device = some ports → (read ports).isSome = true) :
    heard read inputs data n = deviceBytes read inputs n := by
  induction n with
  | zero => rfl
  | succ n inductionHypothesis =>
      have earlier := inductionHypothesis fun i before => reads i (Nat.lt_succ_of_lt before)
      have now := reads n (Nat.lt_succ_self n)
      rw [heard, deviceBytes, List.range_succ, List.filterMap_append, ← deviceBytes, earlier]
      congr 1
      cases device : (inputs n).device with
      | none => simp [device]
      | some ports =>
          obtain ⟨byte, found⟩ := Option.isSome_iff_exists.mp (now ports device)
          simp [device, found]

end Heard

/-- The scanner has heard the bytes. -/
structure Hears (data : UInt8) (bytes : List UInt8) (s : Scanner) : Prop where
  scans : Scans bytes s
  keeps : KeepsFirst s
  data : s.data = bytes.getLastD data

section Interrupts

variable {inputs : ℕ → Message} {data : UInt8} {s : Scanner} {n : ℕ}

theorem scanInterrupt_hears (hears : Hears data (heard kbcRead inputs data n) s) :
    Hears data (heard kbcRead inputs data (n + 1)) (scanInterrupt (inputs n).device s) := by
  obtain ⟨scans, keeps, last⟩ := hears
  rw [heard]
  cases (inputs n).device with
  | none =>
      rw [Option.toList_none, List.map_nil, List.append_nil]
      exact ⟨scans, keeps, last⟩
  | some ports =>
      have given : Scans (heard kbcRead inputs data n) { s with data := kbcIh ports s.data } :=
        ⟨scans.printed, scans.pending⟩
      obtain ⟨scanned, kept⟩ := scanData_scans given keeps
      rw [Option.toList_some, List.map_singleton, ← last]
      refine ⟨scanned, kept, ?_⟩
      rw [List.getLastD_concat]
      have unchanged : ∀ s : Scanner, (scanData s).data = s.data := by
        intro s
        rw [scanData]
        split_ifs
        · rfl
        · rfl
        · rfl
      exact unchanged _

theorem scan_hears {start : Scanner} (fresh : Hears data [] start) :
    Hears data (heard kbcRead inputs data n)
      (While.stateAt (fun message : Message => scanInterrupt message.device) inputs start n) := by
  induction n with
  | zero => exact fresh
  | succ n inductionHypothesis => exact scanInterrupt_hears inductionHypothesis

end Interrupts

/-! ### The release of ESC -/

/-- The bytes up to the first release of ESC. -/
def uptoEsc (bytes : List UInt8) : List UInt8 := bytes.takeWhile (· != 0x81) ++ [0x81]

/-- The bytes end with the first release of ESC among them. -/
def EndsWithEsc (bytes : List UInt8) : Prop := ∃ before, bytes = before ++ [0x81] ∧ 0x81 ∉ before

theorem EndsWithEsc.eq_upto {bytes all : List UInt8} (ends : EndsWithEsc bytes) (part : bytes <+: all) :
    bytes = uptoEsc all := by
  obtain ⟨before, rfl, clean⟩ := ends
  obtain ⟨later, rfl⟩ := part
  have goes : ∀ byte ∈ before, (byte != 0x81) = true := fun byte member =>
    bne_iff_ne.mpr fun same => clean (same ▸ member)
  rw [uptoEsc, List.append_assoc, List.takeWhile_append_of_pos goes, List.singleton_append,
    List.takeWhile_cons_of_neg (by decide), List.append_nil]

section Escapes

variable {inputs : ℕ → Message} {data : UInt8} {n : ℕ}

/-- The last byte is always that of the last interrupt. -/
theorem heard_clean (running : ∀ i ≤ n, (heard kbcRead inputs data i).getLastD data ≠ 0x81) :
    0x81 ∉ heard kbcRead inputs data n := by
  induction n with
  | zero => exact List.not_mem_nil
  | succ n inductionHypothesis =>
      have before := inductionHypothesis fun i early => running i (Nat.le_succ_of_le early)
      have last := running (n + 1) (Nat.le_refl _)
      rw [heard] at last ⊢
      cases device : (inputs n).device with
      | none => simpa using before
      | some ports =>
          rw [device, Option.toList_some, List.map_singleton, List.getLastD_concat] at last
          rw [Option.toList_some, List.map_singleton, List.mem_append, List.mem_singleton]
          exact not_or.mpr ⟨before, last.symm⟩

theorem heard_first (fresh : data ≠ 0x81) (stops : (heard kbcRead inputs data n).getLastD data = 0x81)
    (running : ∀ i < n, (heard kbcRead inputs data i).getLastD data ≠ 0x81) :
    EndsWithEsc (heard kbcRead inputs data n) := by
  cases n with
  | zero => exact absurd stops fresh
  | succ n =>
      have before := heard_clean fun i early => running i (Nat.lt_succ_of_le early)
      have earlier := running n (Nat.lt_succ_self n)
      rw [heard] at stops ⊢
      cases device : (inputs n).device with
      | none =>
          rw [device, Option.toList_none, List.map_nil, List.append_nil] at stops
          exact absurd stops earlier
      | some ports =>
          rw [device, Option.toList_some, List.map_singleton, List.getLastD_concat] at stops
          rw [Option.toList_some, List.map_singleton, stops]
          exact ⟨_, rfl, before⟩

end Escapes

/-- What a test program returns after its loop. -/
def cleanupResult (closing : List Int) : Int := if closing.any (· != 0) then 1 else 0

section TestPrograms

variable {ι σ : Type} {opening : List Int} {condition : σ → Bool} {step : ι → σ → σ}
  {inputs : ℕ → ι} {start : σ}

/-- A test program whose first calls succeed returns what its loop leads to. -/
theorem testProgram_iff {loop : While ι σ σ} {closing : List Int} {fuel : ℕ} {answer : Int × σ × ℕ}
    (opened : opening.any (· != 0) = false) :
    testProgram opening closing loop inputs fuel start = some answer ↔
      ∃ ran, loop.run inputs fuel 0 start = some ran ∧ answer = (cleanupResult closing, ran) := by
  rw [testProgram, opened, if_neg Bool.false_ne_true, Option.map_eq_some_iff]
  exact exists_congr fun ran => and_congr_right fun _ => eq_comm

/-- When a test program has ended after so many messages. -/
theorem testProgram_ends_iff (closing : List Int) (opened : opening.any (· != 0) = false) (m : ℕ) :
    (∃ fuel s n, testProgram opening closing (.steps condition step) inputs fuel start =
        some (cleanupResult closing, s, n) ∧ n ≤ m) ↔
      ∃ i ≤ m, condition (While.stateAt step inputs start i) = false := by
  rw [← While.run_steps_ends_iff]
  constructor
  · rintro ⟨fuel, s, n, returned, early⟩
    obtain ⟨ran, found, same⟩ := (testProgram_iff opened).mp returned
    obtain rfl : (s, n) = ran := congrArg Prod.snd same
    exact ⟨fuel, _, found, early⟩
  · rintro ⟨fuel, ⟨s, n⟩, ran, early⟩
    exact ⟨fuel, s, n, (testProgram_iff opened).mpr ⟨_, ran, rfl⟩, early⟩

/-- What a test program has returned. -/
theorem testProgram_returned {closing : List Int} {fuel n : ℕ} {value : Int} {s : σ}
    (opened : opening.any (· != 0) = false)
    (returned : testProgram opening closing (.steps condition step) inputs fuel start =
      some (value, s, n)) :
    value = cleanupResult closing ∧ s = While.stateAt step inputs start n ∧
      condition (While.stateAt step inputs start n) = false ∧
        ∀ i < n, condition (While.stateAt step inputs start i) = true := by
  obtain ⟨ran, found, same⟩ := (testProgram_iff opened).mp returned
  obtain ⟨rfl, rfl⟩ := Prod.mk.inj same
  exact ⟨rfl, While.run_steps_iff.mp ⟨fuel, found⟩⟩

end TestPrograms

/-- `kbd_test_scan` ends with the first release of ESC, and has printed the scancodes up to it. -/
theorem kbdTestScan_returns {opening closing : List Int} (opened : opening.any (· != 0) = false)
    {inputs : ℕ → Message} {start : Scanner} {m : ℕ} (fresh : Hears start.data [] start)
    (running : start.data ≠ 0x81) (escape : 0x81 ∈ heard kbcRead inputs start.data m) :
    ∃ fuel s n, kbdTestScan opening closing inputs fuel start = some (cleanupResult closing, s, n) ∧
      n ≤ m ∧ s.printed = scancodesOf (uptoEsc (heard kbcRead inputs start.data m)) := by
  let state := While.stateAt (fun message : Message => scanInterrupt message.device) inputs start
  have hears : ∀ n, Hears start.data (heard kbcRead inputs start.data n) (state n) :=
    fun n => scan_hears fresh
  have ended : ∃ i ≤ m, ((state i).data != 0x81) = false := by
    by_contra never
    refine heard_clean (n := m) (fun i early last => never ⟨i, early, ?_⟩) escape
    rw [(hears i).data, last]
    rfl
  have returns : ∃ fuel s n, kbdTestScan opening closing inputs fuel start =
      some (cleanupResult closing, s, n) ∧ n ≤ m := (testProgram_ends_iff closing opened m).mpr ended
  obtain ⟨fuel, s, n, returned, early⟩ := returns
  obtain ⟨-, rfl, stops, goes⟩ := testProgram_returned opened returned
  have last : EndsWithEsc (heard kbcRead inputs start.data n) := by
    refine heard_first running ?_ fun i before same => ?_
    · rw [← (hears n).data]
      simpa using stops
    · have on := goes i before
      rw [(hears i).data, same] at on
      exact absurd on (by decide)
  refine ⟨fuel, state n, n, returned, early, ?_⟩
  rw [← last.eq_upto (heard_grows early)]
  exact (hears n).scans.printed

/-! ### Polling -/

/-- The bytes that can be read at the first status reads. -/
def polledBytes (outcomes : ℕ → PortReads) (n : ℕ) : List UInt8 :=
  (List.range n).filterMap fun i => kbcRead (outcomes i)

section Polling

variable {outcomes : ℕ → PortReads} {s : Scanner} {reads n : ℕ}

theorem polledBytes_succ (n : ℕ) :
    polledBytes outcomes (n + 1) = polledBytes outcomes n ++ (kbcRead (outcomes n)).toList := by
  rw [polledBytes, List.range_succ, List.filterMap_append]
  cases read : kbcRead (outcomes n) with
  | none => simp [polledBytes, read]
  | some byte => simp [polledBytes, read]

/-- Status reads that find nothing. -/
theorem polledBytes_quiet (quiet : ∀ i < n, kbcRead (outcomes (reads + i)) = none) :
    polledBytes outcomes (reads + n) = polledBytes outcomes reads := by
  induction n with
  | zero => rfl
  | succ n inductionHypothesis =>
      have now := quiet n (Nat.lt_succ_self n)
      rw [← Nat.add_assoc, polledBytes_succ, now, Option.toList_none, List.append_nil]
      exact inductionHypothesis fun i before => quiet i (Nat.lt_succ_of_lt before)

theorem polledBytes_grows {m : ℕ} (before : n ≤ m) :
    polledBytes outcomes n <+: polledBytes outcomes m := by
  induction before with
  | refl => exact List.prefix_refl _
  | step _ inductionHypothesis =>
      rw [polledBytes_succ]
      exact inductionHypothesis.trans (List.prefix_append _ _)

theorem polled_scans {answer : PollReturn} {bytes : List UInt8} (scans : Scans bytes s) :
    Scans (bytes ++ if answer.value = 0 then [answer.data] else []) (s.polled answer) := by
  rw [Scanner.polled]
  split_ifs
  · have given : Scans bytes { s with data := answer.data } := ⟨scans.printed, scans.pending⟩
    exact pollData_scans given
  · rw [List.append_nil]
    exact ⟨scans.printed, scans.pending⟩

theorem polled_data (answer : PollReturn) : (s.polled answer).data = answer.data := by
  have unchanged : ∀ s : Scanner, (pollData s).data = s.data := by
    intro s
    rw [pollData]
    split_ifs
    · rfl
    · rfl
    · rfl
  rw [Scanner.polled]
  split_ifs
  · exact unchanged _
  · rfl

/-- A call of `kbc_polling` that has a byte before it reads what can be read next, or gives up
before. -/
theorem kbcPolling_next {m fuel : ℕ} (data : UInt8) (within : m ≤ fuel)
    (escape : ∃ i < m, (kbcRead (outcomes (reads + i))).isSome = true) :
    ∃ answer more, kbcPolling (fun i => outcomes (reads + i)) fuel data = some (answer, more) ∧
      0 < more ∧ more ≤ m ∧
      polledBytes outcomes (reads + more) =
        polledBytes outcomes reads ++ (if answer.value = 0 then [answer.data] else []) ∧
      (answer.value ≠ 0 → answer.data = data) := by
  obtain ⟨i, inside, readable⟩ := escape
  have stop : StopsAt (fun i => outcomes (reads + i)) i := .inl readable
  obtain ⟨first, early, stops, running⟩ := exists_first stop
  have answered : kbcPolling (fun i => outcomes (reads + i)) (first + 1) data = some (_, first + 1) :=
    kbcPolling_of_first stops running
  have longer := While.run_add_fuel (fuel - (first + 1)) answered
  rw [Nat.add_sub_cancel' (by omega)] at longer
  have quiet := unread running
  refine ⟨_, first + 1, longer, Nat.succ_pos _, by omega, ?_, ?_⟩
  · rw [← Nat.add_assoc, polledBytes_succ, polledBytes_quiet quiet, pollAnswer]
    cases kbcRead (outcomes (reads + first)) with
    | none => rfl
    | some byte => rfl
  · rw [pollAnswer]
    cases kbcRead (outcomes (reads + first)) with
    | none => exact fun _ => rfl
    | some byte => exact fun nonzero => absurd rfl nonzero

theorem pollScan_stop (fuel : ℕ) (stop : s.data = 0x81) :
    pollScan outcomes fuel reads s = some (s, reads) := by
  have still : ¬ (s.data != 0x81) = true := by
    rw [stop]
    decide
  cases fuel with
  | zero => rw [pollScan, if_neg still]
  | succ fuel => rw [pollScan, if_neg still]

/-- The loop goes on to the first release of ESC. -/
theorem pollScan_returns {m : ℕ} (escape : 0x81 ∈ polledBytes outcomes m) (fuel : ℕ)
    (enough : m ≤ reads + fuel)
    (scans : Scans (polledBytes outcomes reads) s) (running : s.data ≠ 0x81)
    (clean : 0x81 ∉ polledBytes outcomes reads) :
    ∃ last n, pollScan outcomes fuel reads s = some (last, n) ∧ n ≤ m ∧
      Scans (polledBytes outcomes n) last ∧ EndsWithEsc (polledBytes outcomes n) := by
  have before : reads < m := by
    by_contra late
    exact clean ((polledBytes_grows (Nat.le_of_not_lt late)).subset escape)
  induction fuel generalizing reads s with
  | zero => omega
  | succ fuel inductionHypothesis =>
      have waiting : ∃ i < m - reads, (kbcRead (outcomes (reads + i))).isSome = true := by
        by_contra never
        have quiet : ∀ i < m - reads, kbcRead (outcomes (reads + i)) = none := by
          intro i inside
          by_contra some
          exact never ⟨i, inside, Option.isSome_iff_ne_none.mpr some⟩
        rw [← Nat.add_sub_cancel' before.le, polledBytes_quiet quiet] at escape
        exact clean escape
      have enoughFuel : m - reads ≤ fuel + 1 := by omega
      obtain ⟨answer, more, polled, positive, inside, grown, kept⟩ :=
        kbcPolling_next s.data enoughFuel waiting
      have scanned : Scans (polledBytes outcomes (reads + more)) (s.polled answer) :=
        grown ▸ polled_scans scans
      have on : (s.data != 0x81) = true := bne_iff_ne.mpr running
      rw [pollScan, if_pos on, polled]
      dsimp only
      by_cases ended : (s.polled answer).data = 0x81
      · rw [pollScan_stop fuel ended]
        refine ⟨_, _, rfl, by omega, scanned, polledBytes outcomes reads, ?_, clean⟩
        have success : answer.value = 0 := by
          by_contra failure
          exact running ((kept failure).symm.trans ((polled_data answer).symm.trans ended))
        rw [grown, if_pos success, ← polled_data answer, ended]
      · have fresh : 0x81 ∉ polledBytes outcomes (reads + more) := by
          rw [grown, List.mem_append]
          refine not_or.mpr ⟨clean, ?_⟩
          split_ifs
          · rw [List.mem_singleton, ← polled_data answer]
            exact fun same => ended same.symm
          · exact List.not_mem_nil
        refine inductionHypothesis (by omega) scanned ended fresh ?_
        by_contra late
        exact fresh ((polledBytes_grows (Nat.le_of_not_lt late)).subset escape)

end Polling

/-- `kbd_test_poll` ends with the first release of ESC, and has printed the scancodes up to it. -/
theorem kbdTestPoll_returns {closing : List Int} {outcomes : ℕ → PortReads} {start : Scanner} {m : ℕ}
    (fresh : Scans [] start) (running : start.data ≠ 0x81) (escape : 0x81 ∈ polledBytes outcomes m) :
    ∃ fuel s n, kbdTestPoll closing outcomes fuel start = some (cleanupResult closing, s, n) ∧ n ≤ m ∧
      s.printed = scancodesOf (uptoEsc (polledBytes outcomes m)) := by
  have begun : Scans (polledBytes outcomes 0) start := fresh
  have clean : 0x81 ∉ polledBytes outcomes 0 := List.not_mem_nil
  obtain ⟨s, n, ran, early, scans, ends⟩ :=
    pollScan_returns escape m (Nat.le_add_left m 0) begun running clean
  refine ⟨m, s, n, ?_, early, ?_⟩
  · rw [kbdTestPoll, ran]
    rfl
  · rw [← ends.eq_upto (polledBytes_grows early)]
    exact scans.printed

/-! ### Both programs -/

/-- A scanner before the first byte. -/
def freshScanner : Scanner := { data := 0, is2bytes := false, temp := 0, printed := [] }

/-- Where interrupts deliver the bytes that can be polled, with a release of ESC among them, both
programs end with the first one, and print the same: the codes of which these bytes are made. -/
theorem scan_and_poll_agree {opening : List Int} (closing cleanup : List Int)
    (opened : opening.any (· != 0) = false)
    {inputs : ℕ → Message} {outcomes : ℕ → PortReads} {bytes : List UInt8} {m k : ℕ}
    (reads : ∀ i < m, ∀ ports, (inputs i).device = some ports → (kbcRead ports).isSome = true)
    (delivered : deviceBytes kbcRead inputs m = bytes) (polled : polledBytes outcomes k = bytes)
    (escape : 0x81 ∈ bytes) :
    ∃ scanned listened n reads,
      (∃ fuel, kbdTestScan opening closing inputs fuel freshScanner =
        some (cleanupResult closing, scanned, n)) ∧ n ≤ m ∧
      (∃ fuel, kbdTestPoll cleanup outcomes fuel freshScanner =
        some (cleanupResult cleanup, listened, reads)) ∧ reads ≤ k ∧
      scanned.printed = scancodesOf (uptoEsc bytes) ∧ listened.printed = scancodesOf (uptoEsc bytes) ∧
      ∀ codes : List (Code UInt8), (∀ code ∈ codes, code.byte ≠ 0xE0) →
        uptoEsc bytes = codes.flatMap (Code.bytes 0xE0) → scanned.printed = codes.map printedCode := by
  have heardAll : heard kbcRead inputs freshScanner.data m = bytes := (heard_eq reads).trans delivered
  have hears : Hears freshScanner.data [] freshScanner := ⟨⟨rfl, rfl⟩, nofun, rfl⟩
  have running : freshScanner.data ≠ 0x81 := by decide
  have escapes : 0x81 ∈ heard kbcRead inputs freshScanner.data m := heardAll.symm ▸ escape
  have found : 0x81 ∈ polledBytes outcomes k := polled.symm ▸ escape
  obtain ⟨fuel, scanned, n, ran, early, printed⟩ := kbdTestScan_returns opened hears running escapes
  obtain ⟨fuel', listened, reads, ran', early', printed'⟩ :=
    kbdTestPoll_returns hears.scans running found
  rw [heardAll] at printed
  rw [polled] at printed'
  refine ⟨scanned, listened, n, reads, ⟨fuel, ran⟩, early, ⟨fuel', ran'⟩, early', printed,
    printed', ?_⟩
  intro codes proper made
  rw [printed, made, scancodesOf, codesFrom_bytes proper]

/-- The left arrow is pressed, and ESC is released. -/
def arrowAndEscape : List UInt8 := [0xE0, 0x4B, 0x81]

/-- The ports of a controller that gives these bytes one by one. -/
def arrowPorts (i : ℕ) : PortReads := { status := some 0x01, output := some (arrowAndEscape.getD i 0) }

/-- An interrupt for each byte. -/
def arrowMessages (i : ℕ) : Message := { device := some (arrowPorts i), timer := false }

theorem arrow_is_printed : ∃ fuel scanned n,
    kbdTestScan [0] [0, 0] arrowMessages fuel freshScanner = some (0, scanned, n) ∧
      scanned.printed = [{ make := true, bytes := [0xE0, 0x4B] },
        { make := false, bytes := [0x81] }] := by
  have opened : ([0] : List Int).any (· != 0) = false := rfl
  have reads : ∀ i < 3, ∀ ports,
      (arrowMessages i).device = some ports → (kbcRead ports).isSome = true := by
    rintro i - ports same
    cases same
    rfl
  have delivered : deviceBytes kbcRead arrowMessages 3 = arrowAndEscape := by decide
  have polled : polledBytes arrowPorts 3 = arrowAndEscape := by decide
  obtain ⟨scanned, -, n, -, ⟨fuel, ran⟩, -, ⟨-, -⟩, -, -, -, printed⟩ :=
    scan_and_poll_agree [0, 0] [] opened reads delivered polled (by decide)
  exact ⟨fuel, scanned, n, ran, printed [⟨true, 0x4B⟩, ⟨false, 0x81⟩] (by decide) (by decide)⟩

/-! ### The timed program -/

/-- What a message is to the idle counter: a scancode starts it again, and ticks count unless they
come with the first byte of two. -/
def idleTurns (inputs : ℕ → Message) (data : UInt8) (i : ℕ) : Turn :=
  let first := (inputs i).device.isSome && (heard kbcRead inputs data (i + 1)).getLastD data == 0xE0
  { start := (inputs i).device.isSome && !first, tick := (inputs i).timer && !first }

/-- The timed scanner has heard the bytes, and counts the ticks since the last scancode. -/
structure Idles (inputs : ℕ → Message) (data : UInt8) (n : ℕ) (s : TimedScanner) : Prop where
  hears : Hears data (heard kbcRead inputs data n) s.scanner
  counter : s.counter = elapsed (eventsOf (idleTurns inputs data) n)

section Timed

variable {inputs : ℕ → Message} {data : UInt8} {n : ℕ}

theorem timedScanStep_idles {s : TimedScanner} (idles : Idles inputs data n s) :
    Idles inputs data (n + 1) (timedScanStep (inputs n) s) := by
  obtain ⟨hears, counter⟩ := idles
  have heardNext := scanInterrupt_hears hears
  have counted := elapsed_turn (eventsOf (idleTurns inputs data) n) (idleTurns inputs data n)
  rw [← eventsOf_succ, ← counter, idleTurns, ← heardNext.data] at counted
  rw [timedScanStep]
  cases first : (inputs n).device.isSome &&
    (scanInterrupt (inputs n).device s.scanner).data == 0xE0 with
  | true =>
      rw [first, Bool.not_true, Bool.and_false, Bool.and_false, if_neg Bool.false_ne_true,
        if_neg Bool.false_ne_true] at counted
      exact ⟨heardNext, counted.symm⟩
  | false =>
      rw [first, Bool.not_false, Bool.and_true, Bool.and_true] at counted
      cases tick : (inputs n).timer with
      | true =>
          rw [tick, if_pos rfl] at counted
          exact ⟨heardNext, counted.symm⟩
      | false =>
          rw [tick, if_neg Bool.false_ne_true] at counted
          exact ⟨heardNext, counted.symm⟩

theorem timed_idles {start : TimedScanner} (fresh : Idles inputs data 0 start) :
    Idles inputs data n (While.stateAt timedScanStep inputs start n) := by
  induction n with
  | zero => exact fresh
  | succ n inductionHypothesis => exact timedScanStep_idles inductionHypothesis

/-- ESC has been released by some message if it is among the bytes heard. -/
theorem heard_escape_iff (fresh : data ≠ 0x81) :
    (∃ i ≤ n, (heard kbcRead inputs data i).getLastD data = 0x81) ↔
      0x81 ∈ heard kbcRead inputs data n := by
  constructor
  · rintro ⟨i, early, last⟩
    refine (heard_grows early).subset ?_
    rcases List.eq_nil_or_concat (heard kbcRead inputs data i) with nothing | ⟨before, byte, same⟩
    · rw [nothing] at last
      exact absurd last fresh
    · rw [same, List.concat_eq_append, List.getLastD_concat] at last
      rw [same, List.concat_eq_append, last]
      exact List.mem_append_right before List.mem_cons_self
  · intro escape
    by_contra never
    exact heard_clean (fun i early last => never ⟨i, early, last⟩) escape

end Timed

/-- `kbd_test_timed_scan` before the first message. -/
def freshTimedScanner : TimedScanner := { scanner := freshScanner, counter := 0, elapsed := 0 }

/-- `kbd_test_timed_scan` has ended after so many messages if and only if ESC has been released, or
60 ticks for each second of `idle` have come in a row without a scancode in between; what it has
printed are the scancodes of the bytes it has heard. -/
theorem timed_scan_ends_iff {opening closing : List Int} (opened : opening.any (· != 0) = false)
    (idle : UInt8) (inputs : ℕ → Message) (m : ℕ) :
    ((∃ fuel s n, kbdTestTimedScan opening closing idle inputs fuel freshTimedScanner =
        some (cleanupResult closing, s, n) ∧ n ≤ m) ↔
      0x81 ∈ heard kbcRead inputs 0 m ∨
        List.replicate (idle.toNat * 60) .tick <:+: eventsOf (idleTurns inputs 0) m) ∧
    ∀ fuel value s n, kbdTestTimedScan opening closing idle inputs fuel freshTimedScanner =
      some (value, s, n) →
      value = cleanupResult closing ∧ s.scanner.printed = scancodesOf (heard kbcRead inputs 0 n) := by
  let condition : TimedScanner → Bool := fun s =>
    decide (s.counter < idle.toNat * 60) && s.scanner.data != 0x81
  let state := While.stateAt timedScanStep inputs freshTimedScanner
  have idles : ∀ n, Idles inputs 0 n (state n) :=
    fun n => timed_idles ⟨⟨⟨rfl, rfl⟩, nofun, rfl⟩, rfl⟩
  have stops : ∀ i, condition (state i) = false ↔
      idle.toNat * 60 ≤ elapsed (eventsOf (idleTurns inputs 0) i) ∨
        (heard kbcRead inputs 0 i).getLastD 0 = 0x81 := by
    intro i
    rw [← (idles i).counter, ← (idles i).hears.data, Bool.and_eq_false_iff, decide_eq_false_iff_not,
      Nat.not_lt, bne_eq_false_iff_eq]
  constructor
  · have ends : (∃ fuel s n, kbdTestTimedScan opening closing idle inputs fuel freshTimedScanner =
        some (cleanupResult closing, s, n) ∧ n ≤ m) ↔ ∃ i ≤ m, condition (state i) = false :=
      testProgram_ends_iff closing opened m
    rw [← timeout_iff, ← heard_escape_iff (by decide)]
    refine ends.trans ⟨?_, ?_⟩
    · rintro ⟨i, before, stopped⟩
      rcases (stops i).mp stopped with late | escape
      · exact .inr ⟨i, before, late⟩
      · exact .inl ⟨i, before, escape⟩
    · rintro (⟨i, before, escape⟩ | ⟨i, before, late⟩)
      · exact ⟨i, before, (stops i).mpr (.inr escape)⟩
      · exact ⟨i, before, (stops i).mpr (.inl late)⟩
  · intro fuel value s n returned
    obtain ⟨same, reached, -, -⟩ := testProgram_returned opened returned
    rw [reached]
    exact ⟨same, (idles n).hears.scans.printed⟩

/-- Ticks all the time, an arrow key after ten of them, and later the first byte of another one. -/
def arrowThenQuiet (i : ℕ) : Message where
  device :=
    if i = 10 ∨ i = 40 then some (arrowPorts 0)
    else if i = 11 then some (arrowPorts 1)
    else none
  timer := decide (i ≠ 11)

/-- The arrow key has the test wait sixty ticks again, and the tick of the later first byte is lost. -/
theorem idle_second_ends :
    (∃ fuel s n, kbdTestTimedScan [0, 0] [] 1 arrowThenQuiet fuel freshTimedScanner = some (0, s, n) ∧
      n ≤ 73) ∧
    ¬ ∃ fuel s n, kbdTestTimedScan [0, 0] [] 1 arrowThenQuiet fuel freshTimedScanner = some (0, s, n) ∧
      n ≤ 72 := by
  have opened : ([0, 0] : List Int).any (· != 0) = false := rfl
  have ends := fun m => (@timed_scan_ends_iff [0, 0] [] opened 1 arrowThenQuiet m).1
  refine ⟨(ends 73).mpr (.inr ?_), fun early => ?_⟩
  · decide +kernel
  · have never : ¬ (0x81 ∈ heard kbcRead arrowThenQuiet 0 72 ∨
        List.replicate (1 * 60) .tick <:+: eventsOf (idleTurns arrowThenQuiet 0) 72) := by
      decide +kernel
    exact never ((ends 72).mp early)

end TypingTutor
