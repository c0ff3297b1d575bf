/-
Module: TypingTutor.Proofs.StaleBytes
Layer: Proofs
Purpose: Interrupts that deliver no byte.  Both interrupt handlers leave the byte of the last interrupt
  in place when a read fails, and both callers go on with it.  Such an interrupt goes unnoticed exactly
  at the states described here; at every other state it acts on a stale byte.
Trusted boundary: none
Main exports: mouseStep, mouse_omission_iff, stale_mouse_byte_shifts_packets, keyStep, StaleInert,
  key_omission_iff, stale_letter_is_typed_again
-/
import TypingTutor.Proofs.Actions

namespace TypingTutor

open Runs

/-- One interrupt: what the ports answer, and the rest of the world. -/
abbrev Interrupt := PortReads × Env

/-! ### The mouse -/

def mouseStep (loaded : LoadedSprites) (s : State) (interrupt : Interrupt) : Except Fault State :=
  updateMouse loaded interrupt.1 interrupt.2 s

/-- `mouse_ih` reads a byte. -/
def readsMouse (interrupt : Interrupt) : Bool := (mouseRead interrupt.1).isSome

/-- The packets handed to `parse()`, newest first. -/
def parsedPackets (log : List Call) : List Packet :=
  log.filterMap fun call =>
    match call with
    | .parse packet => some packet
    | _ => none

/-- What is compared: the packets, the cursor and the assembly counter. -/
def observeMouse (s : State) : List Packet × Sprite × Nat :=
  (parsedPackets s.log, s.cursor, s.mouse.bytesRead)

/-- No packet is under assembly, and `sync` would skip the byte it was last given. -/
def BetweenPackets (s : State) (_ : Interrupt) : Prop :=
  s.mouse.bytesRead = 0 ∧ bit 3 s.mouse.byteReceived = false

instance (s : State) (interrupt : Interrupt) : Decidable (BetweenPackets s interrupt) :=
  inferInstanceAs (Decidable (_ ∧ _))

/-- Without a byte, `mouse_ih` changes nothing. -/
theorem mouseIh_unread {ports : PortReads} (unread : (mouseRead ports).isSome = false)
    (mouse : Mouse) : mouseIh ports mouse = mouse := by
  have none : mouseRead ports = none := by simpa using unread
  rw [mouseIh, none]
  rfl

/-- A complete packet resets the counter. -/
theorem handlePacket_bytesRead {loaded : LoadedSprites} {env : Env} {s next : State}
    (handled : handlePacket loaded env s = .ok next) : next.mouse.bytesRead = 0 := by
  rw [handlePacket_eq, bind_eq_ok] at handled
  obtain ⟨middle, -, returned⟩ := handled
  cases returned
  rfl

/-- The counter of `sync`: a first byte without bit 3 is skipped, every other byte is stored. -/
theorem sync_bytesRead {mouse : Mouse} (valid : mouse.bytesRead ≤ 2) :
    (sync mouse).bytesRead =
      if mouse.bytesRead = 0 ∧ bit 3 mouse.byteReceived = false then 0
      else mouse.bytesRead + 1 := by
  unfold sync
  by_cases empty : mouse.bytesRead = 0
  · rw [if_pos empty]
    cases first : bit 3 mouse.byteReceived with
    | true => simp
    | false => simp [empty]
  · have stored : ¬ (mouse.bytesRead = 0 ∧ bit 3 mouse.byteReceived = false) :=
      fun both => empty both.1
    rw [if_neg empty, if_neg stored]
    by_cases one : mouse.bytesRead = 1
    · rw [if_pos one]
    · have two : mouse.bytesRead = 2 := by omega
      rw [if_neg one, if_pos two]

/-- The counter stays below three between interrupts. -/
theorem mouseStep_valid {loaded : LoadedSprites} {s next : State} {interrupt : Interrupt}
    (valid : s.mouse.bytesRead ≤ 2) (stepped : mouseStep loaded s interrupt = .ok next) :
    next.mouse.bytesRead ≤ 2 := by
  rw [mouseStep, updateMouse_eq] at stepped
  split at stepped
  · rw [handlePacket_bytesRead stepped]
    decide
  · rename_i incomplete
    cases stepped
    have received : (mouseIh interrupt.1 s.mouse).bytesRead ≤ 2 := valid
    have count := sync_bytesRead received
    change (sync (mouseIh interrupt.1 s.mouse)).bytesRead ≤ 2
    split at count
    · omega
    · omega

/-- Between packets an interrupt without a byte does nothing at all. -/
theorem mouseStep_quiet {loaded : LoadedSprites} {s : State} {interrupt : Interrupt}
    (unread : readsMouse interrupt = false) (between : BetweenPackets s interrupt) :
    mouseStep loaded s interrupt = .ok s := by
  obtain ⟨empty, skipped⟩ := between
  have kept : sync s.mouse = s.mouse := by
    rw [sync, if_pos empty, if_neg (by rw [skipped]; decide)]
  rw [mouseStep, updateMouse_eq, mouseIh_unread unread, kept, if_neg (by omega)]

/-- Everywhere else it moves the assembly on. -/
theorem mouseStep_loud {loaded : LoadedSprites} {s : State} {interrupt : Interrupt}
    (valid : s.mouse.bytesRead ≤ 2) (unread : readsMouse interrupt = false)
    (unseen : (mouseStep loaded s interrupt).map observeMouse = .ok (observeMouse s)) :
    BetweenPackets s interrupt := by
  by_contra assembling
  have count := sync_bytesRead valid
  rw [BetweenPackets] at assembling
  rw [if_neg assembling] at count
  cases stepped : mouseStep loaded s interrupt with
  | error fault =>
      rw [stepped] at unseen
      cases unseen
  | ok next =>
      rw [stepped] at unseen
      -- The counter is part of what is observed, so it may not have moved.
      have still : next.mouse.bytesRead = s.mouse.bytesRead :=
        congrArg (fun seen => seen.2.2) (Except.ok.inj unseen)
      rw [mouseStep, updateMouse_eq, mouseIh_unread unread] at stepped
      split at stepped
      · have reset := handlePacket_bytesRead stepped
        omega
      · cases stepped
        change (sync s.mouse).bytesRead = s.mouse.bytesRead at still
        omega

/-- Leaving out the mouse interrupts that deliver no byte is invisible, after every prefix of the
interrupts, if and only if each of them comes between packets and after a byte that `sync` would
skip. -/
theorem mouse_omission_iff (loaded : LoadedSprites) (s : State) (assembly : s.mouse.bytesRead ≤ 2)
    (interrupts : List Interrupt) :
    PrefixesAgree (mouseStep loaded) readsMouse observeMouse s s interrupts ↔
      Quiet (mouseStep loaded) readsMouse BetweenPackets s interrupts := by
  have transitive : ∀ first second third : State,
      first = second → second = third → first = third := fun _ _ _ => Eq.trans
  have keptSteps : ∀ (first second : State) (interrupt : Interrupt), readsMouse interrupt = true →
      first = second →
        SameOutcome Eq (mouseStep loaded first interrupt) (mouseStep loaded second interrupt) := by
    rintro first _ interrupt - rfl
    exact SameOutcome.refl (fun _ => rfl) _
  have validSteps : ∀ (state : State) (interrupt : Interrupt) (next : State),
      state.mouse.bytesRead ≤ 2 → mouseStep loaded state interrupt = .ok next →
        next.mouse.bytesRead ≤ 2 := fun _ _ _ => mouseStep_valid
  exact prefixesAgree_iff_quiet transitive (fun _ _ same => congrArg observeMouse same) keptSteps
    validSteps (fun state _ unread between => ⟨state, mouseStep_quiet unread between, rfl⟩)
    (fun _ _ => mouseStep_loud) (fun _ => rfl) interrupts s assembly

/-- An interrupt that delivers a byte, and one whose status read fails. -/
def delivered (byte : UInt8) : Interrupt := ({ status := some 0x21, output := some byte }, default)
def undelivered : Interrupt := ({ status := none, output := none }, default)

/-- Two packets, with interrupts without a byte before the first and between the two, where the
stale byte 6 would not begin a packet. -/
def emptyBetween : List Interrupt :=
  [undelivered, delivered 0x08, delivered 5, delivered 6, undelivered, undelivered, delivered 0x09,
    delivered 1, delivered 2, undelivered]

theorem empty_between_packets_unnoticed :
    (setup []).mouse.bytesRead ≤ 2 ∧
      PrefixesAgree (mouseStep everySprite) readsMouse observeMouse (setup []) (setup [])
        emptyBetween := by
  have quiet : Quiet (mouseStep everySprite) readsMouse BetweenPackets (setup []) emptyBetween := by
    decide +kernel
  exact ⟨by decide, (mouse_omission_iff everySprite (setup []) (by decide) emptyBetween).mpr quiet⟩

/-- One bad interrupt in the middle of a packet shifts the framing: the stale first byte is stored a
second time. -/
theorem stale_mouse_byte_shifts_packets :
    ([delivered 0x08, undelivered, delivered 5, delivered 6].foldlM (mouseStep everySprite)
        (setup [])).map observeMouse ≠
      (([delivered 0x08, undelivered, delivered 5, delivered 6].filter readsMouse).foldlM
        (mouseStep everySprite) (setup [])).map observeMouse := by
  decide +kernel

/-! ### The keyboard -/

def keyStep (loaded : LoadedSprites) (s : State) (interrupt : Interrupt) : Except Fault State :=
  keyHandler loaded interrupt.1 interrupt.2 s

/-- `kbc_ih` reads a byte. -/
def readsKey (interrupt : Interrupt) : Bool := (kbcRead interrupt.1).isSome

/-- What is compared. -/
structure Observed where
  currentState : GameState
  currentKey : Key
  test : Ptr TypingTest
  stats : Ptr Statistics
  stars : Int
  timer : Int
deriving DecidableEq

def observeGame (s : State) : Observed :=
  { currentState := s.currentState
    currentKey := s.currentKey
    test := s.test
    stats := s.stats
    stars := s.stars
    timer := s.timer }

/-- The word under the cursor is complete: a letter does nothing. -/
def WordComplete (s : State) : Prop :=
  ∃ token test word, s.test = .live token test ∧ test.currentWord = .ok word ∧
    word.length ≤ test.currentInputIndex

/-- Nothing of the word has been typed and the test is laid out: a backspace does nothing. -/
def WordBlank (loaded : LoadedSprites) (s : State) : Prop :=
  ∃ token test word, s.test = .live token test ∧ test.currentWord = .ok word ∧
    test.currentInputIndex = 0 ∧ layout loaded test = test

/-- Dispatching the byte in `data` once more changes nothing that is compared. -/
def ScancodeInert (loaded : LoadedSprites) (s : State) : Prop :=
  bit 7 s.data = true ∨
    match charMap s.data with
    | some _ => s.currentKey = keyMap s.data ∧ (s.currentState = .game → WordComplete s)
    | none =>
        if s.data = keySpace then s.currentState ≠ .game
        else if s.data = keyEnter then s.currentKey = .enter
        else if s.data = keyDelete then
          s.currentKey = .back ∧ (s.currentState = .game → WordBlank loaded s)
        else if s.data = keyEsc then s.currentKey = .esc
        else True

/-- An interrupt without a byte is not noticed: the scancode is inert, and the remembered key does not
change the screen again. -/
def StaleInert (loaded : LoadedSprites) (s : State) (_ : Interrupt) : Prop :=
  ScancodeInert loaded s ∧ (s.currentState = .menu → s.currentKey ≠ .enter) ∧
    (s.currentState ≠ .menu → s.currentKey ≠ .esc)

/-- States that differ in what is on the screen only. -/
def SameButView (s other : State) : Prop := { other with view := s.view } = s

theorem SameButView.refl (s : State) : SameButView s s := rfl

theorem SameButView.exists_view {s other : State} (same : SameButView s other) :
    ∃ view, other = { s with view := view } := by
  refine ⟨other.view, ?_⟩
  rw [← same]

theorem SameButView.trans {first second third : State} (one : SameButView first second)
    (two : SameButView second third) : SameButView first third := by
  obtain ⟨view, rfl⟩ := one.exists_view
  obtain ⟨last, rfl⟩ := two.exists_view
  rfl

theorem SameButView.observed {s other : State} (same : SameButView s other) :
    observeGame s = observeGame other := by
  obtain ⟨view, rfl⟩ := same.exists_view
  rfl

section ViewIndependence

variable {loaded : LoadedSprites} {s other : State}

theorem processKey_sameButView (c : Char) (key : Key) (same : SameButView s other) :
    SameOutcome SameButView (processKey loaded c key s) (processKey loaded c key other) := by
  obtain ⟨view, rfl⟩ := same.exists_view
  simp only [processKey]
  split
  · cases s.test.deref with
    | error fault => exact rfl
    | ok test =>
        cases reading : test.currentWord with
        | error fault =>
            simp only [bind, Except.bind, reading]
            exact rfl
        | ok word =>
            simp only [bind, Except.bind, reading]
            by_cases last : test.currentInputIndex + 1 = word.length
            · simp only [if_pos last]
              split
              · cases s.stats.deref with
                | error fault => exact rfl
                | ok stats => simp only [redrawWords, drawWords_fst, SameOutcome, pure, Except.pure,
                    SameButView]
              · exact rfl
            · simp only [if_neg last]
              split
              · cases s.stats.deref with
                | error fault => exact rfl
                | ok stats => simp only [redrawWords, drawWords_fst, SameOutcome, pure, Except.pure,
                    SameButView]
              · exact rfl
  · exact rfl

theorem handleSpaceKey_sameButView (env : Env) (same : SameButView s other) :
    SameOutcome SameButView (handleSpaceKey loaded env s) (handleSpaceKey loaded env other) := by
  obtain ⟨view, rfl⟩ := same.exists_view
  simp only [handleSpaceKey]
  cases s.test.deref with
  | error fault => exact rfl
  | ok test =>
      cases reading : test.currentWord with
      | error fault =>
          simp only [bind, Except.bind, reading]
          exact rfl
      | ok word =>
          cases s.stats.deref with
          | error fault =>
              simp only [bind, Except.bind, reading]
              exact rfl
          | ok stats =>
              simp only [bind, Except.bind, reading]
              by_cases correct : isCorrect word = true
              · simp only [if_pos correct]
                split
                · simp only [redrawWords, drawWords_fst, SameOutcome, pure, Except.pure, SameButView]
                · simp only [redrawWords, drawWords_fst, SameOutcome, pure, Except.pure, SameButView]
              · simp only [if_neg correct]
                split
                · simp only [redrawWords, drawWords_fst, SameOutcome, pure, Except.pure, SameButView]
                · simp only [redrawWords, drawWords_fst, SameOutcome, pure, Except.pure, SameButView]

theorem handleDeleteKey_sameButView (same : SameButView s other) :
    SameOutcome SameButView (handleDeleteKey loaded s) (handleDeleteKey loaded other) := by
  obtain ⟨view, rfl⟩ := same.exists_view
  simp only [handleDeleteKey]
  cases s.test.deref with
  | error fault => exact rfl
  | ok test =>
      cases reading : test.currentWord with
      | error fault =>
          simp only [bind, Except.bind, reading]
          exact rfl
      | ok word =>
          simp only [bind, Except.bind, reading]
          simp only [redrawWords, drawWords_fst, SameOutcome, pure, Except.pure, SameButView]

theorem dispatchScancode_sameButView (env : Env) (same : SameButView s other) :
    SameOutcome SameButView (dispatchScancode loaded env s) (dispatchScancode loaded env other) := by
  obtain ⟨view, rfl⟩ := same.exists_view
  simp only [dispatchScancode]
  split
  · exact rfl
  · split
    · exact processKey_sameButView _ _ rfl
    · split_ifs
      · exact handleSpaceKey_sameButView env rfl
      · exact rfl
      · exact rfl
      · exact handleDeleteKey_sameButView rfl
      · exact rfl
      · exact rfl
      · exact rfl

theorem keyStep_sameButView (interrupt : Interrupt) (same : SameButView s other) :
    SameOutcome SameButView (keyStep loaded s interrupt) (keyStep loaded other interrupt) := by
  obtain ⟨view, rfl⟩ := same.exists_view
  rw [keyStep, keyStep, keyHandler_eq, keyHandler_eq]
  refine SameOutcome.bind (dispatchScancode_sameButView interrupt.2 rfl) ?_
  intro next otherNext sameNext
  obtain ⟨drawn, rfl⟩ := sameNext.exists_view
  simp only [leaveByKey]
  split_ifs
  · exact rfl
  · exact rfl
  · exact rfl
  · exact rfl

end ViewIndependence

section StaleScancode

variable {loaded : LoadedSprites} {s : State}

/-- Without a byte, `kbc_ih` leaves the last scancode in `data`. -/
theorem keyStep_unread {interrupt : Interrupt} (unread : readsKey interrupt = false) :
    keyStep loaded s interrupt =
      dispatchScancode loaded interrupt.2 s >>= leaveByKey interrupt.2 s.currentState := by
  have none : kbcRead interrupt.1 = none := by simpa [readsKey] using unread
  have kept : ({ s with data := kbcIh interrupt.1 s.data } : State) = s := by
    rw [kbcIh, none]
    rfl
  rw [keyStep, keyHandler_eq, updateKeyboard, kept]

/-- The key is remembered already, and the word takes no more letters. -/
theorem processKey_inert (c : Char) {key : Key} (remembered : s.currentKey = key)
    (complete : s.currentState = .game → WordComplete s) : processKey loaded c key s = .ok s := by
  subst remembered
  by_cases playing : s.currentState = .game
  · obtain ⟨token, test, word, hasTest, reading, full⟩ := complete playing
    have derefTest : s.test.deref = .ok test := by rw [hasTest, Ptr.deref_live]
    have notLast : ¬ test.currentInputIndex + 1 = word.length := by omega
    have noRoom : ¬ test.currentInputIndex < word.length := by omega
    simp only [processKey, if_pos playing, derefTest, bind, Except.bind, reading, if_neg notLast,
      if_neg noRoom]
    rfl
  · simp only [processKey, if_neg playing]
    rfl

/-- There is nothing to delete, and the layout stays as it is. -/
theorem handleDeleteKey_inert (blank : WordBlank loaded s) :
    ∃ next, handleDeleteKey loaded s = .ok next ∧ SameButView next s := by
  obtain ⟨token, test, word, hasTest, reading, untyped, laidOut⟩ := blank
  have derefTest : s.test.deref = .ok test := by rw [hasTest, Ptr.deref_live]
  have undeleted : deleteLetter test = test := by simp [deleteLetter, untyped]
  simp only [handleDeleteKey, derefTest, bind, Except.bind, reading, undeleted]
  refine ⟨_, rfl, ?_⟩
  simp only [SameButView, redrawWords, drawWords_fst, laidOut, hasTest, Ptr.store_live]

/-- Dispatching an inert scancode redraws at most. -/
theorem dispatchScancode_inert (env : Env) (inert : ScancodeInert loaded s) :
    ∃ next, dispatchScancode loaded env s = .ok next ∧ SameButView next s := by
  unfold dispatchScancode
  by_cases released : bit 7 s.data = true
  · rw [if_pos released]
    exact ⟨s, rfl, rfl⟩
  rw [if_neg released]
  have inertCode := inert.resolve_left released
  cases typed : charMap s.data with
  | some c =>
      simp only [typed] at inertCode
      exact ⟨s, processKey_inert c inertCode.1 inertCode.2, rfl⟩
  | none =>
      simp only [typed] at inertCode
      by_cases space : s.data = keySpace
      · rw [if_pos space] at inertCode
        simp only [if_pos space, if_neg inertCode]
        exact ⟨s, rfl, rfl⟩
      simp only [if_neg space] at inertCode ⊢
      by_cases enter : s.data = keyEnter
      · rw [if_pos enter] at inertCode
        rw [if_pos enter, ← inertCode]
        exact ⟨s, rfl, rfl⟩
      simp only [if_neg enter] at inertCode ⊢
      by_cases delete : s.data = keyDelete
      · rw [if_pos delete] at inertCode
        obtain ⟨key, blank⟩ := inertCode
        have remembered : ({ s with currentKey := .back } : State) = s := by rw [← key]
        simp only [if_pos delete, remembered]
        by_cases playing : s.currentState = .game
        · rw [if_pos playing]
          exact handleDeleteKey_inert (blank playing)
        · rw [if_neg playing]
          exact ⟨s, rfl, rfl⟩
      simp only [if_neg delete] at inertCode ⊢
      by_cases escape : s.data = keyEsc
      · rw [if_pos escape] at inertCode
        rw [if_pos escape, ← inertCode]
        exact ⟨s, rfl, rfl⟩
      · rw [if_neg escape]
        exact ⟨s, rfl, rfl⟩

/-- An interrupt that meets the condition redraws at most. -/
theorem keyStep_quiet {interrupt : Interrupt} (unread : readsKey interrupt = false)
    (inert : StaleInert loaded s interrupt) :
    ∃ next, keyStep loaded s interrupt = .ok next ∧ SameButView next s := by
  obtain ⟨code, noEnter, noEscape⟩ := inert
  obtain ⟨next, dispatched, same⟩ := dispatchScancode_inert interrupt.2 code
  obtain ⟨view, viewed⟩ := same.exists_view
  refine ⟨next, ?_, same⟩
  have key : next.currentKey = s.currentKey := by rw [viewed]
  rw [keyStep_unread unread, dispatched]
  change leaveByKey interrupt.2 s.currentState next = .ok next
  unfold leaveByKey
  split_ifs with inMenu pressed pressed
  · exact absurd (key ▸ pressed) (noEnter inMenu)
  · rfl
  · exact absurd (key ▸ pressed) (noEscape inMenu)
  · rfl

/-- A letter that changes nothing meets a complete word. -/
theorem processKey_unseen {c : Char} {key : Key} {next : State} (playing : s.currentState = .game)
    (typed : processKey loaded c key s = .ok next) (unseen : next.test = s.test) :
    WordComplete s := by
  simp only [processKey, if_pos playing, bind_eq_ok] at typed
  obtain ⟨test, read, word, reading, typed⟩ := typed
  obtain ⟨token, hasTest⟩ := Ptr.deref_eq_ok read
  refine ⟨token, test, word, hasTest, reading, ?_⟩
  by_contra room
  rw [if_pos (not_le.mp room), bind_eq_ok] at typed
  obtain ⟨stats, -, returned⟩ := typed
  cases returned
  -- The stored test has moved on by one letter.
  have stored : Ptr.live token (layout loaded (typeLetter c word test stats).1) = s.test := by
    rw [← unseen]
    split
    · simp only [redrawWords, drawWords_fst, hasTest, Ptr.store_live]
    · simp only [redrawWords, drawWords_fst, hasTest, Ptr.store_live]
  rw [hasTest, Ptr.live.injEq] at stored
  have moved := typeLetter_currentInputIndex c word test stats
  have still := congrArg TypingTest.currentInputIndex stored.2
  rw [layout_currentInputIndex] at still
  omega

/-- A space always counts a word. -/
theorem handleSpaceKey_seen {env : Env} {next : State}
    (typed : handleSpaceKey loaded env s = .ok next) : next.stats ≠ s.stats := by
  have reads := typed
  simp only [handleSpaceKey, bind_eq_ok] at reads
  obtain ⟨test, readTest, word, reading, stats, readStats, -⟩ := reads
  obtain ⟨testToken, hasTest⟩ := Ptr.deref_eq_ok readTest
  obtain ⟨statsToken, hasStats⟩ := Ptr.deref_eq_ok readStats
  have holds : s.core.Holds testToken statsToken { test := test, stats := stats } :=
    ⟨hasTest, hasStats⟩
  have applied := @handleSpaceKey_applies loaded s testToken statsToken _ env holds
  rw [typed] at applied
  simp only [edit, reading, bind, Except.bind] at applied
  have counted : next.stats = .live statsToken (judgeWord word test stats).2 :=
    congrArg Core.stats applied
  intro unseen
  rw [counted, hasStats, Ptr.live.injEq] at unseen
  have more := judgeWord_typedWords word test stats
  rw [unseen.2] at more
  omega

/-- A backspace that changes nothing meets a blank word. -/
theorem handleDeleteKey_unseen {next : State} (typed : handleDeleteKey loaded s = .ok next)
    (unseen : next.test = s.test) : WordBlank loaded s := by
  simp only [handleDeleteKey, bind_eq_ok] at typed
  obtain ⟨test, read, word, reading, returned⟩ := typed
  obtain ⟨token, hasTest⟩ := Ptr.deref_eq_ok read
  cases returned
  have stored : Ptr.live token (layout loaded (deleteLetter test)) = s.test := by
    rw [← unseen]
    simp only [redrawWords, drawWords_fst, hasTest, Ptr.store_live]
  rw [hasTest, Ptr.live.injEq] at stored
  have still := congrArg TypingTest.currentInputIndex stored.2
  rw [layout_currentInputIndex] at still
  have untyped : test.currentInputIndex = 0 := by
    by_contra typed
    rw [deleteLetter, if_pos (Nat.pos_of_ne_zero typed)] at still
    change test.currentInputIndex - 1 = test.currentInputIndex at still
    omega
  refine ⟨token, test, word, hasTest, reading, untyped, ?_⟩
  have undeleted : deleteLetter test = test := by simp [deleteLetter, untyped]
  rw [undeleted] at stored
  exact stored.2

/-- A scancode whose dispatch changes nothing that is compared is inert. -/
theorem dispatchScancode_unseen {env : Env} {next : State}
    (dispatched : dispatchScancode loaded env s = .ok next)
    (unseen : observeGame next = observeGame s) : ScancodeInert loaded s := by
  simp only [observeGame, Observed.mk.injEq] at unseen
  obtain ⟨-, key, test, stats, -⟩ := unseen
  unfold dispatchScancode at dispatched
  by_cases released : bit 7 s.data = true
  · exact .inl released
  rw [if_neg released] at dispatched
  right
  cases typed : charMap s.data with
  | some c =>
      simp only [typed] at dispatched
      have remembered : next.currentKey = keyMap s.data := processKey_currentKey dispatched
      exact ⟨key.symm.trans remembered, fun playing => processKey_unseen playing dispatched test⟩
  | none =>
      simp only [typed] at dispatched
      by_cases space : s.data = keySpace
      · simp only [if_pos space] at dispatched ⊢
        intro playing
        rw [if_pos playing] at dispatched
        exact handleSpaceKey_seen dispatched stats
      simp only [if_neg space] at dispatched ⊢
      by_cases enter : s.data = keyEnter
      · rw [if_pos enter] at dispatched ⊢
        cases dispatched
        exact key.symm
      simp only [if_neg enter] at dispatched ⊢
      by_cases delete : s.data = keyDelete
      · simp only [if_pos delete] at dispatched ⊢
        by_cases playing : s.currentState = .game
        · rw [if_pos playing] at dispatched
          have remembered : next.currentKey = .back := handleDeleteKey_currentKey dispatched
          have blank := handleDeleteKey_unseen dispatched test
          exact ⟨key.symm.trans remembered, fun _ => blank⟩
        · rw [if_neg playing] at dispatched
          cases dispatched
          exact ⟨key.symm, fun impossible => absurd impossible playing⟩
      simp only [if_neg delete] at dispatched ⊢
      by_cases escape : s.data = keyEsc
      · rw [if_pos escape] at dispatched ⊢
        cases dispatched
        exact key.symm
      · rw [if_neg escape]
        trivial

/-- An interrupt without a byte that changes nothing that is compared meets the condition. -/
theorem keyStep_loud {interrupt : Interrupt} (unread : readsKey interrupt = false)
    (unseen : (keyStep loaded s interrupt).map observeGame = .ok (observeGame s)) :
    StaleInert loaded s interrupt := by
  rw [keyStep_unread unread] at unseen
  cases dispatched : dispatchScancode loaded interrupt.2 s with
  | error fault =>
      rw [dispatched] at unseen
      cases unseen
  | ok middle =>
      rw [dispatched] at unseen
      change (leaveByKey interrupt.2 s.currentState middle).map observeGame = _ at unseen
      unfold leaveByKey at unseen
      -- A change of screen would be seen, so the key does not ask for one.
      split_ifs at unseen with inMenu pressed pressed
      · have screen := congrArg Observed.currentState (Except.ok.inj unseen)
        change GameState.timers = s.currentState at screen
        rw [inMenu] at screen
        cases screen
      · have same := Except.ok.inj unseen
        have key : middle.currentKey = s.currentKey := congrArg Observed.currentKey same
        exact ⟨dispatchScancode_unseen dispatched same, fun _ => key ▸ pressed,
          fun outside => absurd inMenu outside⟩
      · have screen := congrArg Observed.currentState (Except.ok.inj unseen)
        exact absurd screen.symm inMenu
      · have same := Except.ok.inj unseen
        have key : middle.currentKey = s.currentKey := congrArg Observed.currentKey same
        exact ⟨dispatchScancode_unseen dispatched same, fun inside => absurd inside inMenu,
          fun _ => key ▸ pressed⟩

end StaleScancode

/-- Leaving out the keyboard interrupts that deliver no byte is invisible, after every prefix of the
interrupts, if and only if each of them comes at a state where the last scancode is inert. -/
theorem key_omission_iff (loaded : LoadedSprites) (s : State) (interrupts : List Interrupt) :
    PrefixesAgree (keyStep loaded) readsKey observeGame s s interrupts ↔
      Quiet (keyStep loaded) readsKey (StaleInert loaded) s interrupts := by
  have transitive : ∀ first second third : State,
      SameButView first second → SameButView second third → SameButView first third :=
    fun _ _ _ => SameButView.trans
  have validSteps : ∀ (state : State) (interrupt : Interrupt) (next : State), True →
      keyStep loaded state interrupt = .ok next → True := fun _ _ _ _ _ => trivial
  exact prefixesAgree_iff_quiet transitive (fun _ _ => SameButView.observed)
    (fun _ _ interrupt _ => keyStep_sameButView interrupt) validSteps
    (fun _ _ => keyStep_quiet) (fun _ _ _ => keyStep_loud) SameButView.refl interrupts s trivial

/-- A keyboard interrupt that delivers a scancode. -/
def pressed (code : UInt8) : Interrupt := ({ status := some 0x01, output := some code }, default)

/-- In a game, the letter A typed once and then one interrupt whose status read fails. -/
theorem stale_letter_is_typed_again :
    ∃ s, run everySprite [] intoGame = .ok s ∧
      ([pressed 0x1E, undelivered].foldlM (keyStep everySprite) s).map observeGame ≠
        (([pressed 0x1E, undelivered].filter readsKey).foldlM (keyStep everySprite) s).map
          observeGame := by
  have checked : (run everySprite [] intoGame).toOption.any (fun s =>
      decide (([pressed 0x1E, undelivered].foldlM (keyStep everySprite) s).map observeGame ≠
        (([pressed 0x1E, undelivered].filter readsKey).foldlM (keyStep everySprite) s).map
          observeGame)) = true := by
    decide +kernel
  obtain ⟨s, ran, differs⟩ := exists_ok_of_any checked
  exact ⟨s, ran, of_decide_eq_true differs⟩

end TypingTutor
