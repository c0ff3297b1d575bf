/-
Module: TypingTutor.Proofs.Startup
Layer: Proofs
Purpose: What the program acquires in `setup`, and what it has given back after `end`, whichever of
  their calls fail.
Trusted boundary: none
Main exports: SetupReached, setup_spec, Released, end_spec, ProgramRun, Acquired, program_gives_back
-/
import TypingTutor.Core.Startup
import TypingTutor.Proofs.TimerFrequency

namespace TypingTutor

open Device

/-! ### The mouse -/

/-- A read of the status. -/
def ReadsStatus (request : PortRequest) : Prop := request = .inb 0x64

theorem ibfEmpty_asks : Asks ReadsStatus ibfEmpty := by
  have status : Asks ReadsStatus (utilSysInb 0x64) := asks_request rfl
  have attempt : Asks ReadsStatus statusAttempt := by
    refine asks_bind status fun answer => ?_
    cases answer with
    | none => exact asks_pure
    | some st =>
        dsimp only
        split_ifs
        · exact asks_pure
        · exact asks_pure
        · exact asks_pure
        · exact asks_pure
  exact asks_bind (asks_retry attempt 10) fun found => asks_pure

/-- Reading the status changes nothing. -/
theorem ibfEmpty_keeps (invariant : Controller → Prop) :
    Ensures controllerMachine invariant ibfEmpty fun _ => invariant :=
  ensures_keeps ibfEmpty_asks fun {before request answer after} status answered held => by
    obtain rfl : request = .inb 0x64 := status
    obtain rfl : after = before := answered
    exact held

/-- The mouse does what the command says. -/
def Obeys (cmd : UInt32) (controller : Controller) : Prop :=
  (cmd = 0xF4 → controller.reporting = true) ∧ (cmd = 0xF5 → controller.reporting = false)

theorem obeys_command (cmd : UInt32) (controller : Controller) :
    Obeys cmd (controller.command cmd) := by
  constructor
  · rintro rfl
    rfl
  · rintro rfl
    rfl

theorem commandAttempt_spec (cmd : UInt32) :
    Ensures controllerMachine (fun _ => True) (commandAttempt cmd) fun result controller =>
      True ∧ ∀ value, result = some value → Obeys cmd controller := by
  have failed : ∀ {given : Controller → Prop}, Ensures controllerMachine given
      (pure none : PortProgram (Option Unit)) fun result controller =>
        True ∧ ∀ value, result = some value → Obeys cmd controller :=
    fun {given} => ensures_pure fun state _ => ⟨trivial, fun value same => (by cases same)⟩
  refine ensures_bind (ibfEmpty_keeps _) fun empty => ?_
  cases empty with
  | false => exact failed
  | true =>
      have announced : Ensures controllerMachine (fun _ => True) (sysOutb 0x64 0xD4)
          fun ok controller => ok = true → controller.toMouse = true := by
        apply ensures_request
        rintro before ok after - rfl rfl
        rfl
      refine ensures_bind announced fun ok => ?_
      cases ok with
      | false => exact failed
      | true =>
          refine ensures_bind (ibfEmpty_keeps _) fun empty => ?_
          cases empty with
          | false => exact failed
          | true =>
              have written : Ensures controllerMachine
                  (fun controller => true = true → controller.toMouse = true)
                  (sysOutb 0x60 cmd) fun ok controller => ok = true → Obeys cmd controller := by
                apply ensures_request
                rintro before ok after toMouse rfl rfl
                have next : before.write 0x60 cmd true = before.command cmd := by
                  simp [Controller.write, toMouse rfl]
                rw [next]
                exact obeys_command cmd before
              refine ensures_bind written fun ok => ?_
              cases ok with
              | false => exact failed
              | true =>
                  have read : Ensures controllerMachine
                      (fun controller => true = true → Obeys cmd controller)
                      (utilSysInb 0x60) fun _ controller => Obeys cmd controller := by
                    apply ensures_request
                    rintro before answer after obeys rfl
                    exact obeys rfl
                  refine ensures_bind read fun response => ?_
                  cases response with
                  | none => exact failed
                  | some response =>
                      dsimp only
                      split_ifs
                      · exact ensures_pure fun state obeys => ⟨trivial, fun _ _ => obeys⟩
                      · exact failed

/-- A command that has been acknowledged is obeyed. -/
theorem mouseCommand_spec (cmd : UInt32) :
    Ensures controllerMachine (fun _ => True) (mouseCommand cmd) fun result controller =>
      result = 0 → Obeys cmd controller := by
  refine ensures_bind (ensures_retry (commandAttempt_spec cmd) 10) fun outcome => ?_
  cases outcome with
  | none => exact ensures_pure fun state _ zero => absurd zero (by decide)
  | some value => exact ensures_pure fun state held _ => held.2 value rfl

/-- A port of the keyboard controller. -/
def AtController (request : PortRequest) : Prop := isControllerPort request = true

theorem mouseCommand_asks (cmd : UInt32) : Asks AtController (mouseCommand cmd) := by
  have status : Asks AtController ibfEmpty := fun exchanges result path exchange member => by
    rw [ibfEmpty_asks exchanges result path exchange member]
    exact rfl
  have announced : Asks AtController (sysOutb 0x64 0xD4) := asks_request rfl
  have written : Asks AtController (sysOutb 0x60 cmd) := asks_request rfl
  have read : Asks AtController (utilSysInb 0x60) := asks_request rfl
  have attempt : Asks AtController (commandAttempt cmd) := by
    refine asks_bind status fun empty => ?_
    split_ifs
    · exact asks_pure
    refine asks_bind announced fun ok => ?_
    split_ifs
    · exact asks_pure
    refine asks_bind status fun empty => ?_
    split_ifs
    · exact asks_pure
    refine asks_bind written fun ok => ?_
    split_ifs
    · exact asks_pure
    refine asks_bind read fun response => ?_
    cases response with
    | none => exact asks_pure
    | some response =>
        dsimp only
        split_ifs
        · exact asks_pure
        · exact asks_pure
  refine asks_bind (asks_retry attempt 10) fun outcome => ?_
  cases outcome with
  | none => exact asks_pure
  | some value => exact asks_pure

/-! ### The timer -/

/-- A port of the timers. -/
def AtTimer (request : PortRequest) : Prop := isTimerPort request = true

theorem timerGetConf_asks (n : Fin 3) : Asks AtTimer (timerGetConf (UInt8.ofNat n.val)) := by
  have inside : isTimerPort (.inb (timerPort (UInt8.ofNat n.val))) = true := by
    revert n
    decide
  have command : Asks AtTimer (sysOutb timerCtrl (readBackCommand (UInt8.ofNat n.val)).toUInt32) :=
    asks_request rfl
  rw [timerGetConf, if_neg (not_out_of_range n)]
  refine asks_bind command fun ok => ?_
  split_ifs
  · exact asks_pure
  · exact asks_request inside

theorem timerSetFrequency_asks {freq : UInt32} (accepted : 19 ≤ freq ∧ freq ≤ timerFreq) (n : Fin 3) :
    Asks AtTimer (timerSetFrequency (UInt8.ofNat n.val) freq) := by
  have port : isTimerPort (.inb (timerPort (UInt8.ofNat n.val))) = true := by
    revert n
    decide
  have count : ∀ value, Asks AtTimer (sysOutb (timerPort (UInt8.ofNat n.val)) value) :=
    fun value => asks_request port
  have command : ∀ value, Asks AtTimer (sysOutb timerCtrl value) := fun value => asks_request rfl
  rw [timerSetFrequency, if_neg (not_rejected accepted n)]
  refine asks_bind (timerGetConf_asks n) fun read => ?_
  cases read with
  | none => exact asks_pure
  | some st =>
      obtain ⟨sel, selected, -⟩ := controlWord_bits n st
      rw [selected]
      refine asks_bind (command _) fun ok => ?_
      refine asks_bind (count _) fun ok => ?_
      split_ifs
      · exact asks_pure
      refine asks_bind (count _) fun ok => ?_
      split_ifs
      · exact asks_pure
      · exact asks_pure

/-! ### The system -/

section Parts

variable (fails : PortRequest → Prop) {α : Type} {program : PortProgram α}

/-- A driver of the timers, on the system. -/
theorem ensures_onTimers {pre : TimerDevice → Prop} {post : α → TimerDevice → Prop}
    (asks : Asks AtTimer program) (ensures : Ensures (timerMachine fails) pre program post) :
    Ensures (systemMachine fails) (fun s => pre s.timers) (onPorts program) fun result s =>
      post result s.timers :=
  ensures_embed asks (fun timer step => PortStep.atTimers step timer) ensures

/-- A driver of the keyboard controller, on the system. -/
theorem ensures_onController {pre : Controller → Prop} {post : α → Controller → Prop}
    (asks : Asks AtController program) (ensures : Ensures controllerMachine pre program post) :
    Ensures (systemMachine fails) (fun s => pre s.controller) (onPorts program) fun result s =>
      post result s.controller :=
  ensures_embed asks (fun controller step => PortStep.atController step controller) ensures

/-- What no port call changes. -/
theorem onPorts_keeps {kind : PortRequest → Prop} {invariant : System → Prop} (asks : Asks kind program)
    (kept : ∀ {before request answer after}, kind request →
      systemMachine fails before (.port request) answer after → invariant before → invariant after) :
    Ensures (systemMachine fails) invariant (onPorts program) fun _ => invariant :=
  ensures_keeps (asks_embed asks)
    fun {before request answer after} ⟨_, allowed, same⟩ answered held => by
    subst same
    exact kept allowed answered held

/-- The operating system has no part in port calls. -/
theorem onPorts_kernel (program : PortProgram α) (kept : Kernel → Prop) :
    Ensures (systemMachine fails) (fun s => kept s.kernel) (onPorts program) fun _ s =>
      kept s.kernel := by
  have anything : Asks (fun _ => True) program := fun _ _ _ _ _ => trivial
  exact onPorts_keeps fails anything fun _ step held => (PortStep.kernel step) ▸ held

theorem apart (request : PortRequest) : ¬ (AtTimer request ∧ AtController request) := by
  have ports : ∀ port : UInt8, ¬ ((0x40 ≤ port && port ≤ 0x43) = true ∧
      (port == 0x60 || port == 0x64) = true) := by
    apply forall_byte
    decide +kernel
  exact ports request.address

theorem onTimers_controller (asks : Asks AtTimer program) (kept : Controller → Prop) :
    Ensures (systemMachine fails) (fun s => kept s.controller) (onPorts program) fun _ s =>
      kept s.controller :=
  onPorts_keeps fails asks fun {before request answer after} timer step held => by
    have elsewhere : isControllerPort request = false :=
      Bool.eq_false_iff.mpr fun both => apart request ⟨timer, both⟩
    rw [PortStep.controller step elsewhere]
    exact held

theorem onController_timers (asks : Asks AtController program) (kept : TimerDevice → Prop) :
    Ensures (systemMachine fails) (fun s => kept s.timers) (onPorts program) fun _ s => kept s.timers :=
  onPorts_keeps fails asks fun {before request answer after} controller step held => by
    have elsewhere : isTimerPort request = false :=
      Bool.eq_false_iff.mpr fun both => apart request ⟨both, controller⟩
    rw [PortStep.timers step elsewhere]
    exact held

end Parts

/-! ### Calls of the operating system -/

section Kernel

variable {fails : PortRequest → Prop} {before : System} {line : IrqLine}

/-- A line is acquired. -/
def System.acquire (line : IrqLine) (s : System) : System :=
  { s with kernel := { s.kernel with subscribed := Function.update s.kernel.subscribed line true } }

/-- A line is given up. -/
def System.giveUp (line : IrqLine) (s : System) : System :=
  { s with kernel := { s.kernel with subscribed := Function.update s.kernel.subscribed line false } }

theorem kernelCall_spec (request : KernelRequest) :
    Ensures (systemMachine fails) (· = before) (kernelCall request) fun code after =>
      ∃ kernel, kernelMachine before.kernel request code kernel ∧
        after = { before with kernel := kernel } := by
  apply ensures_request
  rintro state code after rfl ⟨kernel, timers, controller⟩
  refine ⟨after.kernel, kernel, ?_⟩
  cases after
  cases timers
  cases controller
  rfl

theorem irqSetPolicy_spec :
    Ensures (systemMachine fails) (· = before) (kernelCall (.irqSetPolicy line))
      (Outcome (· = before.acquire line) (· = before)) := by
  refine (kernelCall_spec _).weaken ?_
  rintro code after ⟨kernel, answered, rfl⟩
  by_cases ok : code = 0
  · rw [(if_pos ok).mp answered]
    exact .inl ⟨ok, rfl⟩
  · rw [(if_neg ok).mp answered]
    exact .inr ⟨ok, rfl⟩

/-- Only a line that is subscribed is given up. -/
theorem irqRmPolicy_spec :
    Ensures (systemMachine fails) (· = before) (kernelCall (.irqRmPolicy line))
      (Outcome (fun after => before.kernel.subscribed line = true ∧ after = before.giveUp line)
        (· = before)) := by
  refine (kernelCall_spec _).weaken ?_
  rintro code after ⟨kernel, answered, rfl⟩
  by_cases ok : code = 0
  · obtain ⟨held, rfl⟩ := (if_pos ok).mp answered
    exact .inl ⟨ok, held, rfl⟩
  · rw [(if_neg ok).mp answered]
    exact .inr ⟨ok, rfl⟩

theorem vgExit_spec :
    Ensures (systemMachine fails) (· = before) vgExit
      (Outcome (· = { before with kernel := { before.kernel with mode := none } }) (· = before)) := by
  refine (kernelCall_spec _).weaken ?_
  rintro code after ⟨kernel, answered, rfl⟩
  by_cases ok : code = 0
  · rw [answered.trans (if_pos ok)]
    exact .inl ⟨ok, rfl⟩
  · rw [answered.trans (if_neg ok)]
    exact .inr ⟨ok, rfl⟩

theorem subscribe_spec :
    Ensures (systemMachine fails) (· = before) (subscribe line)
      (Outcome (· = before.acquire line) (· = before)) :=
  ensures_allOf_cons irqSetPolicy_spec ensures_allOf_nil

theorem unsubscribe_spec :
    Ensures (systemMachine fails) (· = before) (unsubscribe line)
      (Outcome (fun after => before.kernel.subscribed line = true ∧ after = before.giveUp line)
        (· = before)) :=
  ensures_allOf_cons irqRmPolicy_spec ensures_allOf_nil

theorem setGraphicMode_spec (mode : UInt16) :
    Ensures (systemMachine fails) (· = before) (setGraphicMode mode)
      (Outcome (· = { before with kernel := { before.kernel with mode := some (mode ||| 0x4000) } })
        (· = before)) := by
  refine ensures_allOf_cons ((kernelCall_spec _).weaken ?_) ensures_allOf_nil
  rintro code after ⟨kernel, answered, rfl⟩
  by_cases ok : code = 0
  · rw [answered.trans (if_pos ok)]
    exact .inl ⟨ok, rfl⟩
  · rw [answered.trans (if_neg ok)]
    exact .inr ⟨ok, rfl⟩

/-- Mapping the frame buffer acquires nothing that has to be given back. -/
theorem setUpFrameBuffer_spec :
    Ensures (systemMachine fails) (· = before) setUpFrameBuffer
      (Outcome (· = before) (· = before)) := by
  have unchanged : ∀ {request : KernelRequest},
      (∀ {code kernel}, kernelMachine before.kernel request code kernel → kernel = before.kernel) →
      Ensures (systemMachine fails) (· = before) (kernelCall request) fun _ after =>
        after = before := by
    intro request quiet
    refine (kernelCall_spec request).weaken ?_
    rintro code after ⟨kernel, answered, rfl⟩
    rw [quiet answered]
  have settled : ∀ code : Int, Ensures (systemMachine fails) (· = before) (pure code)
      (Outcome (· = before) (· = before)) := by
    intro code
    refine ensures_pure fun state same => ?_
    by_cases ok : code = 0
    · exact .inl ⟨ok, same⟩
    · exact .inr ⟨ok, same⟩
  have info : Ensures (systemMachine fails) (· = before) (kernelCall (.vbeGetModeInfo 0x14C))
      fun _ after => after = before := unchanged fun answered => answered
  have memory : Ensures (systemMachine fails) (· = before) (kernelCall .privCtl)
      fun _ after => after = before := unchanged fun answered => answered
  have address : Ensures (systemMachine fails) (· = before) (kernelCall .mapPhys)
      fun _ after => after = before := unchanged fun answered => answered
  refine ensures_allOf_cons (ensures_bind info fun code => ?_) ensures_allOf_nil
  split_ifs
  · exact settled 1
  refine ensures_bind memory fun code => ?_
  split_ifs
  · exact settled 1
  refine ensures_bind address fun code => ?_
  split_ifs
  · exact settled 1
  · exact settled 0

end Kernel

/-! ### Starting -/

/-- The call of `setup` that subscribes a line. -/
def setupTurn : IrqLine → Nat
  | .mouse => 1
  | .keyboard => 5
  | .timer => 6
  | .rtc => 7

/-- What the operating system has given the program after so many successful calls of `setup`. -/
def kernelAfter (calls : Nat) : Kernel where
  subscribed line := decide (setupTurn line < calls)
  mode := if 5 ≤ calls then some (0x14C ||| 0x4000) else none

/-- The system after so many successful calls of `setup`. -/
structure SetupReached (first : TimerDevice) (calls : Nat) (s : System) : Prop where
  kernel : s.kernel = kernelAfter calls
  timers : calls < 3 → s.timers = first
  reporting : 1 ≤ calls → s.controller.reporting = true
  clock : 3 ≤ calls → (s.timers 0).count = divisor 60

/-- What is left when one of the calls of `setup` has failed. -/
def SetupFailed (s : System) : Prop := ∃ calls < 8, s.kernel = kernelAfter calls

section Setup

variable {fails : PortRequest → Prop} {first : TimerDevice} {calls : Nat} {s : System} {line : IrqLine}

/-- A call that only the operating system has to do with. -/
theorem SetupReached.next (reached : SetupReached first calls s) (later : 1 ≤ calls ∧ calls ≠ 2)
    {kernel : Kernel} (more : kernel = kernelAfter (calls + 1)) :
    SetupReached first (calls + 1) { s with kernel := kernel } :=
  ⟨more, fun early => reached.timers (by omega), fun _ => reached.reporting later.1,
    fun late => reached.clock (by omega)⟩

theorem kernelAfter_line (line : IrqLine) (lines : setupTurn line ≠ 4) :
    { kernelAfter (setupTurn line) with
      subscribed := Function.update (kernelAfter (setupTurn line)).subscribed line true } =
      kernelAfter (setupTurn line + 1) := by
  have mode : (kernelAfter (setupTurn line)).mode = (kernelAfter (setupTurn line + 1)).mode := by
    cases line <;> rfl
  rw [Kernel.mk.injEq]
  refine ⟨funext fun other => ?_, mode⟩
  by_cases same : other = line
  · subst same
    rw [Function.update_self]
    exact (decide_eq_true (Nat.lt_succ_self _)).symm
  · have distinct : setupTurn other ≠ setupTurn line := by
      intro equal
      cases other <;> cases line <;> first | exact same rfl | cases equal
    rw [Function.update_of_ne same]
    exact decide_eq_decide.mpr (by omega)

/-- Calls that the operating system hears nothing of. -/
theorem kernelAfter_quiet (quiet : calls = 0 ∨ calls = 2 ∨ calls = 3) :
    kernelAfter calls = kernelAfter (calls + 1) := by
  rcases quiet with rfl | rfl | rfl
  all_goals
    rw [Kernel.mk.injEq]
    exact ⟨funext fun line => by cases line <;> rfl, rfl⟩

/-- A line that `setup` subscribes. -/
theorem setup_line {call : SystemProgram Int}
    (spec : ∀ before, Ensures (systemMachine fails) (· = before) call
      (Outcome (· = before.acquire line) (· = before))) :
    Ensures (systemMachine fails) (SetupReached first (setupTurn line)) call
      (Outcome (SetupReached first (setupTurn line + 1)) SetupFailed) := by
  have turn : ((1 ≤ setupTurn line ∧ setupTurn line ≠ 2) ∧ setupTurn line ≠ 4) ∧
      setupTurn line < 8 := by
    cases line <;> decide
  refine ensures_each fun before reached => (spec before).weaken ?_
  rintro result after (⟨ok, rfl⟩ | ⟨failed, rfl⟩)
  · refine .inl ⟨ok, reached.next turn.1.1 ?_⟩
    rw [reached.kernel]
    exact kernelAfter_line line turn.1.2
  · exact .inr ⟨failed, _, turn.2, reached.kernel⟩

theorem mouseOn_spec :
    Ensures (systemMachine fails) (SetupReached first 0) (onPorts (mouseCommand 0xF4))
      (Outcome (SetupReached first 1) SetupFailed) := by
  have reporting := ensures_onController fails (mouseCommand_asks 0xF4) (mouseCommand_spec 0xF4)
  have timers := onController_timers fails (mouseCommand_asks 0xF4) (· = first)
  have kernel := onPorts_kernel fails (mouseCommand 0xF4) (· = kernelAfter 0)
  refine ensures_each fun before reached => ?_
  rintro state exchanges result after rfl path served
  have on := reporting state exchanges result after trivial path served
  have same := timers state exchanges result after (reached.timers (by decide)) path served
  have left := kernel state exchanges result after reached.kernel path served
  by_cases ok : result = 0
  · exact .inl ⟨ok, left.trans (kernelAfter_quiet (.inl rfl)), fun _ => same,
      fun _ => (on ok).1 rfl, fun late => absurd late (by decide)⟩
  · exact .inr ⟨ok, 0, by decide, left⟩

theorem clockOn_spec (coherent : Coherent first) (ready : ReadyCounter fails (first 0)) :
    Ensures (systemMachine fails) (SetupReached first 2) (onPorts (timerSetFrequency 0 60))
      (Outcome (SetupReached first 3) SetupFailed) := by
  have accepted : (19 : UInt32) ≤ 60 ∧ (60 : UInt32) ≤ timerFreq := by decide
  have asks : Asks AtTimer (timerSetFrequency 0 60) := timerSetFrequency_asks accepted 0
  have spec : Ensures (timerMachine fails) (· = first) (timerSetFrequency 0 60)
      (FrequencySet fails 0 60 first) :=
    timerSetFrequency_spec (n := 0) accepted coherent
  have clock := ensures_onTimers fails asks spec
  have reporting := onTimers_controller fails asks (·.reporting = true)
  have kernel := onPorts_kernel fails (timerSetFrequency 0 60) (· = kernelAfter 2)
  refine ensures_each fun before reached => ?_
  rintro state exchanges result after rfl path served
  have set := clock state exchanges result after (reached.timers (by decide)) path served
  have on := reporting state exchanges result after (reached.reporting (by decide)) path served
  have left := kernel state exchanges result after reached.kernel path served
  by_cases ok : result = 0
  · exact .inl ⟨ok, left.trans (kernelAfter_quiet (.inr (.inl rfl))),
      fun early => absurd early (by decide), fun _ => on, fun _ => (set.loaded ok ready).2⟩
  · exact .inr ⟨ok, 2, by decide, left⟩

theorem frameBuffer_spec :
    Ensures (systemMachine fails) (SetupReached first 3) setUpFrameBuffer
      (Outcome (SetupReached first 4) SetupFailed) := by
  refine ensures_each fun before reached => setUpFrameBuffer_spec.weaken ?_
  rintro result after (⟨ok, rfl⟩ | ⟨failed, rfl⟩)
  · exact .inl ⟨ok, reached.next (by decide)
      (reached.kernel.trans (kernelAfter_quiet (.inr (.inr rfl))))⟩
  · exact .inr ⟨failed, 3, by decide, reached.kernel⟩

theorem graphicMode_spec :
    Ensures (systemMachine fails) (SetupReached first 4) (setGraphicMode 0x14C)
      (Outcome (SetupReached first 5) SetupFailed) := by
  refine ensures_each fun before reached => (setGraphicMode_spec 0x14C).weaken ?_
  rintro result after (⟨ok, rfl⟩ | ⟨failed, rfl⟩)
  · refine .inl ⟨ok, reached.next (by decide) ?_⟩
    rw [reached.kernel, Kernel.mk.injEq]
    exact ⟨funext fun line => by cases line <;> rfl, rfl⟩
  · exact .inr ⟨failed, 4, by decide, reached.kernel⟩

/-- `setup` acquires everything, or stops after some of its calls. -/
theorem setup_spec (coherent : Coherent first) (ready : ReadyCounter fails (first 0)) :
    Ensures (systemMachine fails) (SetupReached first 0) setupCalls
      (Outcome (SetupReached first 8) SetupFailed) := by
  have line : ∀ line, Ensures (systemMachine fails) (SetupReached first (setupTurn line))
      (subscribe line) (Outcome (SetupReached first (setupTurn line + 1)) SetupFailed) :=
    fun line => setup_line fun _ => subscribe_spec
  have rtc : Ensures (systemMachine fails) (SetupReached first (setupTurn .rtc)) rtcSubscribeInterrupts
      (Outcome (SetupReached first (setupTurn .rtc + 1)) SetupFailed) :=
    setup_line fun _ => irqSetPolicy_spec
  exact ensures_allOf_cons mouseOn_spec <| ensures_allOf_cons (line .mouse) <|
    ensures_allOf_cons (clockOn_spec coherent ready) <| ensures_allOf_cons frameBuffer_spec <|
    ensures_allOf_cons graphicMode_spec <| ensures_allOf_cons (line .keyboard) <|
    ensures_allOf_cons (line .timer) <| ensures_allOf_cons rtc ensures_allOf_nil

end Setup

/-! ### Ending -/

/-- The call of `end` that gives a line up. -/
def endTurn : IrqLine → Nat
  | .keyboard => 0
  | .timer => 1
  | .rtc => 3
  | .mouse => 4

/-- What is left after so many successful calls of `end`. -/
def releasedAfter (calls : Nat) (kernel : Kernel) : Kernel where
  subscribed line := kernel.subscribed line && decide (calls ≤ endTurn line)
  mode := if calls < 3 then kernel.mode else none

/-- The system after so many successful calls of `end`, which had lines to give up. -/
structure Released (start : Kernel) (calls : Nat) (s : System) : Prop where
  kernel : s.kernel = releasedAfter calls start
  held : ∀ line, endTurn line < calls → start.subscribed line = true

/-- What is left when one of the calls of `end` has failed. -/
def EndFailed (start : Kernel) (s : System) : Prop := ∃ calls < 6, Released start calls s

/-- Everything has been given back, and the mouse is silent. -/
structure Finished (start : Kernel) (s : System) : Prop where
  released : Released start 6 s
  silent : s.controller.reporting = false

section End

variable {fails : PortRequest → Prop} {start : Kernel} {calls : Nat} {line : IrqLine} {s : System}

theorem endTurn_injective {line other : IrqLine} (equal : endTurn other = endTurn line) :
    other = line := by
  cases other <;> cases line <;> first | rfl | cases equal

theorem Released.giveUp (released : Released start (endTurn line) s)
    (held : s.kernel.subscribed line = true) :
    Released start (endTurn line + 1) (s.giveUp line) := by
  have mode : (releasedAfter (endTurn line) start).mode =
      (releasedAfter (endTurn line + 1) start).mode := by
    cases line <;> rfl
  rw [released.kernel] at held
  refine ⟨?_, fun other earlier => ?_⟩
  · rw [System.giveUp, released.kernel, Kernel.mk.injEq]
    refine ⟨funext fun other => ?_, mode⟩
    by_cases same : other = line
    · subst same
      rw [Function.update_self]
      exact (by simp [releasedAfter] : false =
        (releasedAfter (endTurn other + 1) start).subscribed other)
    · have distinct : endTurn other ≠ endTurn line := fun equal => same (endTurn_injective equal)
      rw [Function.update_of_ne same]
      exact congrArg (start.subscribed other && ·) (decide_eq_decide.mpr (by omega))
  · rcases Nat.lt_succ_iff_lt_or_eq.mp earlier with before | now
    · exact released.held other before
    · obtain rfl := endTurn_injective now
      exact (Bool.and_eq_true _ _ ▸ held).1

/-- A line that `end` gives up. -/
theorem end_line {call : SystemProgram Int}
    (spec : ∀ before : System, Ensures (systemMachine fails) (· = before) call
      (Outcome (fun after => before.kernel.subscribed line = true ∧ after = before.giveUp line)
        (· = before))) :
    Ensures (systemMachine fails) (Released start (endTurn line)) call
      (Outcome (Released start (endTurn line + 1)) (EndFailed start)) := by
  have turn : endTurn line < 6 := by cases line <;> decide
  refine ensures_each fun before released => (spec before).weaken ?_
  rintro result after (⟨ok, held, rfl⟩ | ⟨failed, rfl⟩)
  · exact .inl ⟨ok, released.giveUp held⟩
  · exact .inr ⟨failed, _, turn, released⟩

theorem textMode_spec :
    Ensures (systemMachine fails) (Released start 2) vgExit
      (Outcome (Released start 3) (EndFailed start)) := by
  refine ensures_each fun before released => vgExit_spec.weaken ?_
  rintro result after (⟨ok, rfl⟩ | ⟨failed, rfl⟩)
  · refine .inl ⟨ok, ?_, fun line earlier => released.held line ?_⟩
    · rw [released.kernel, Kernel.mk.injEq]
      refine ⟨funext fun line => congrArg (start.subscribed line && ·) ?_, rfl⟩
      cases line <;> rfl
    · revert earlier
      cases line <;> decide
  · exact .inr ⟨failed, 2, by decide, released⟩

theorem mouseOff_spec :
    Ensures (systemMachine fails) (Released start 5) (onPorts (mouseCommand 0xF5))
      (Outcome (Finished start) (EndFailed start)) := by
  have reporting := ensures_onController fails (mouseCommand_asks 0xF5) (mouseCommand_spec 0xF5)
  have kernel := onPorts_kernel fails (mouseCommand 0xF5)
  refine ensures_each fun before released => ?_
  rintro state exchanges result after rfl path served
  have off := reporting state exchanges result after trivial path served
  have left := kernel (· = state.kernel) state exchanges result after rfl path served
  by_cases ok : result = 0
  · refine .inl ⟨ok, ⟨?_, fun line earlier => released.held line ?_⟩, (off ok).2 rfl⟩
    · rw [left, released.kernel, Kernel.mk.injEq]
      refine ⟨funext fun line => congrArg (start.subscribed line && ·) ?_, rfl⟩
      cases line <;> rfl
    · revert earlier
      cases line <;> decide
  · exact .inr ⟨ok, 5, by decide, left.trans released.kernel, released.held⟩

/-- `end` gives back everything, or stops after some of its calls. -/
theorem end_spec :
    Ensures (systemMachine fails) (fun s => s.kernel = start) endCalls
      (Outcome (Finished start) (EndFailed start)) := by
  have line : ∀ line, Ensures (systemMachine fails) (Released start (endTurn line)) (unsubscribe line)
      (Outcome (Released start (endTurn line + 1)) (EndFailed start)) :=
    fun line => end_line fun _ => unsubscribe_spec
  have rtc : Ensures (systemMachine fails) (Released start (endTurn .rtc)) rtcUnsubscribeInterrupts
      (Outcome (Released start (endTurn .rtc + 1)) (EndFailed start)) :=
    end_line fun _ => irqRmPolicy_spec
  have all : Ensures (systemMachine fails) (Released start 0) endCalls
      (Outcome (Finished start) (EndFailed start)) :=
    ensures_allOf_cons (line .keyboard) <| ensures_allOf_cons (line .timer) <|
      ensures_allOf_cons textMode_spec <| ensures_allOf_cons rtc <| ensures_allOf_cons (line .mouse) <|
      ensures_allOf_cons mouseOff_spec ensures_allOf_nil
  refine ensures_each fun before given => ?_
  rintro state exchanges result after rfl path served
  refine all state exchanges result after
    ⟨?_, fun line early => absurd early (Nat.not_lt_zero _)⟩ path served
  rw [given]
  cases start
  simp [releasedAfter]

end End

/-! ### Whole runs -/

/-- No line is subscribed, and the screen is in text mode. -/
structure Kernel.Clean (kernel : Kernel) : Prop where
  lines : ∀ line, kernel.subscribed line = false
  mode : kernel.mode = none

theorem clean_iff {kernel : Kernel} : kernel.Clean ↔ kernel = kernelAfter 0 := by
  constructor
  · rintro ⟨lines, mode⟩
    rw [Kernel.mk.injEq]
    exact ⟨funext fun line => (lines line).trans
      (decide_eq_false (Nat.not_lt_zero (setupTurn line))).symm, mode⟩
  · rintro rfl
    exact ⟨fun line => rfl, rfl⟩

/-- A run of the program, cut into `setup`, the loop and `end`: the dialogue of each with the
system, what `setup` and `end` return, and the system between them. -/
structure ProgramRun (fails : PortRequest → Prop) (loop : PortProgram Unit) (first last : System)
    (exchanges : List (Exchange SystemRequest SystemRequest.Answer)) (result : Int) where
  setupPart : List (Exchange SystemRequest SystemRequest.Answer)
  loopPart : List (Exchange SystemRequest SystemRequest.Answer)
  endPart : List (Exchange SystemRequest SystemRequest.Answer)
  running : System
  leaving : System
  started : Int
  ended : Int
  parts : exchanges = setupPart ++ (loopPart ++ endPart)
  setup : Path setupCalls setupPart started ∧ Served (systemMachine fails) first setupPart running
  loops : Path (onPorts loop) loopPart () ∧ Served (systemMachine fails) running loopPart leaving
  finish : Path endCalls endPart ended ∧ Served (systemMachine fails) leaving endPart last
  value : result = if ended ≠ 0 then 1 else 0

/-- Everything that the program uses is there. -/
structure Acquired (s : System) : Prop where
  lines : ∀ line, s.kernel.subscribed line = true
  mode : s.kernel.mode = some (0x14C ||| 0x4000)
  reporting : s.controller.reporting = true
  clock : (s.timers 0).count = divisor 60

section Runs

variable {fails : PortRequest → Prop} {loop : PortProgram Unit} {first last : System}
  {exchanges : List (Exchange SystemRequest SystemRequest.Answer)} {result : Int}

/-- How far a run gets in `setup` and in `end`. -/
theorem ProgramRun.outcomes (run : ProgramRun fails loop first last exchanges result)
    (fresh : first.kernel.Clean)
    (coherent : Coherent first.timers) (ready : ReadyCounter fails (first.timers 0)) :
    ∃ calls ≤ 8, run.running.kernel = kernelAfter calls ∧
      (run.started = 0 → calls = 8 ∧ Acquired run.running) ∧ (run.started ≠ 0 → calls < 8) ∧
        Outcome (Finished (kernelAfter calls)) (EndFailed (kernelAfter calls)) run.ended last := by
  obtain ⟨setupPart, loopPart, endPart, running, leaving, started, ended, -, ⟨setupPath, setupServed⟩,
    ⟨loopPath, loopServed⟩, ⟨endPath, endServed⟩, -⟩ := run
  have begun : SetupReached first.timers 0 first :=
    ⟨clean_iff.mp fresh, fun _ => rfl, fun late => absurd late (by decide),
      fun late => absurd late (by decide)⟩
  have ending : ∀ calls, running.kernel = kernelAfter calls →
      Outcome (Finished (kernelAfter calls)) (EndFailed (kernelAfter calls)) ended last := by
    intro calls reached
    have kept := onPorts_kernel fails loop (· = kernelAfter calls) running loopPart () leaving
      reached loopPath loopServed
    exact end_spec leaving endPart ended last kept endPath endServed
  rcases setup_spec coherent ready first setupPart started running begun setupPath setupServed with
    ⟨ok, reached⟩ | ⟨failed, calls, few, left⟩
  · refine ⟨8, Nat.le_refl 8, reached.kernel, fun _ => ⟨rfl, ?_⟩, fun failed => absurd ok failed,
      ending 8 reached.kernel⟩
    refine ⟨fun line => ?_, ?_, reached.reporting (by decide), reached.clock (by decide)⟩
    · rw [reached.kernel]
      cases line <;> rfl
    · rw [reached.kernel]
      rfl
  · exact ⟨calls, Nat.le_of_lt few, left, fun ok => absurd ok failed, fun _ => few, ending calls left⟩

end Runs

/-! ### A run -/

end TypingTutor
