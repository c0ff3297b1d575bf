/-
Module: TypingTutor.Lib.DeviceLogic
Layer: Lib
Purpose: Programs run against a device with a state.  A device says which answers it may give to a
  request and how its state changes; a triple says what every run of a program leaves behind.  The
  rules follow the construction of programs: sequences, retries, lists of calls that stop at the
  first failure.  A program for a part of a device runs on the whole device, and leaves alone what
  its requests leave alone.
Trusted boundary: none
Main exports: Device.Machine, Device.Served, Device.Ensures, Device.simulate_served,
  Device.ensures_pure, Device.ensures_request, Device.ensures_bind, Device.ensures_retry,
  Device.Asks, Device.ensures_keeps, Device.embed, Device.ensures_embed, Device.allOf,
  Device.Outcome, Device.ensures_allOf_cons
-/
import TypingTutor.Lib.Device

namespace TypingTutor.Device

variable {Request : Type} {Answer : Request → Type} {σ α β : Type}

/-- What a device may answer to a request in a state, and its state afterwards. -/
abbrev Machine (Request : Type) (Answer : Request → Type) (σ : Type) : Type :=
  σ → (request : Request) → Answer request → σ → Prop

/-- A dialogue that the device may have, from one state to another. -/
inductive Served (machine : Machine Request Answer σ) : σ → List (Exchange Request Answer) → σ →
    Prop where
  | nil (state : σ) : Served machine state [] state
  | cons {before middle after : σ} {exchange : Exchange Request Answer}
      {later : List (Exchange Request Answer)}
      (answered : machine before exchange.request exchange.answer middle)
      (rest : Served machine middle later after) : Served machine before (exchange :: later) after

/-- Every run of the program from a state of the one kind ends in a result and a state of the other. -/
def Ensures (machine : Machine Request Answer σ) (pre : σ → Prop) (program : Program Request Answer α)
    (post : α → σ → Prop) : Prop :=
  ∀ before exchanges result after, pre before → Path program exchanges result →
    Served machine before exchanges after → post result after

section Served

variable {machine : Machine Request Answer σ} {before middle after : σ}
  {earlier later : List (Exchange Request Answer)}

theorem Served.of_nil (served : Served machine before [] after) : after = before := by
  cases served
  rfl

theorem Served.single {exchange : Exchange Request Answer}
    (served : Served machine before [exchange] after) :
    machine before exchange.request exchange.answer after := by
  obtain _ | ⟨answered, rest⟩ := served
  cases rest
  exact answered

theorem Served.split (served : Served machine before (earlier ++ later) after) :
    ∃ middle, Served machine before earlier middle ∧ Served machine middle later after := by
  induction earlier generalizing before with
  | nil => exact ⟨before, .nil before, served⟩
  | cons exchange earlier inductionHypothesis =>
      obtain _ | ⟨answered, rest⟩ := served
      obtain ⟨middle, first, second⟩ := inductionHypothesis rest
      exact ⟨middle, .cons answered first, second⟩

end Served

/-- Run a program against a device that always does the same. -/
def simulate (respond : σ → (request : Request) → Answer request × σ) :
    Program Request Answer α → σ → α × σ
  | .done result, state => (result, state)
  | .ask request next, state =>
      simulate respond (next (respond state request).1) (respond state request).2

theorem simulate_served {machine : Machine Request Answer σ}
    {respond : σ → (request : Request) → Answer request × σ}
    (legal : ∀ state request, machine state request (respond state request).1 (respond state request).2)
    (program : Program Request Answer α) (before : σ) :
    ∃ exchanges, Path program exchanges (simulate respond program before).1 ∧
      Served machine before exchanges (simulate respond program before).2 := by
  induction program generalizing before with
  | done result => exact ⟨[], .done result, .nil before⟩
  | ask request next inductionHypothesis =>
      obtain ⟨exchanges, path, served⟩ :=
        inductionHypothesis (respond before request).1 (respond before request).2
      exact ⟨_, .ask _ path, .cons (legal before request) served⟩

section Rules

variable {machine : Machine Request Answer σ} {pre : σ → Prop} {post : α → σ → Prop}

theorem ensures_pure {result : α} (held : ∀ state, pre state → post result state) :
    Ensures machine pre (pure result) post := by
  intro before exchanges outcome after given path served
  obtain ⟨rfl, rfl⟩ := path_pure.mp path
  rw [served.of_nil]
  exact held before given

theorem ensures_request {request : Request} {post : Answer request → σ → Prop}
    (held : ∀ before answer after, pre before → machine before request answer after →
      post answer after) :
    Ensures machine pre (Program.request request) post := by
  intro before exchanges answer after given path served
  obtain rfl := path_request.mp path
  exact held before answer after given served.single

theorem ensures_bind {program : Program Request Answer α} {next : α → Program Request Answer β}
    {between : α → σ → Prop} {post : β → σ → Prop} (first : Ensures machine pre program between)
    (second : ∀ result, Ensures machine (between result) (next result) post) :
    Ensures machine pre (program >>= next) post := by
  intro before exchanges outcome after given path served
  obtain ⟨earlier, result, later, rfl, one, two⟩ := path_bind.mp path
  obtain ⟨middle, servedOne, servedTwo⟩ := served.split
  exact second result middle later outcome after
    (first before earlier result middle given one servedOne) two servedTwo

/-- A precondition, state by state. -/
theorem ensures_each {program : Program Request Answer α}
    (each : ∀ before, pre before → Ensures machine (· = before) program post) :
    Ensures machine pre program post :=
  fun before exchanges result after given path served =>
    each before given before exchanges result after rfl path served

theorem Ensures.weaken {program : Program Request Answer α} {weak : α → σ → Prop}
    (ensures : Ensures machine pre program post)
    (wanted : ∀ result state, post result state → weak result state) :
    Ensures machine pre program weak :=
  fun before exchanges result after given path served =>
    wanted result after (ensures before exchanges result after given path served)

/-- An attempt that can be made again, until it succeeds. -/
theorem ensures_retry {attempt : Program Request Answer (Option α)}
    (each : Ensures machine pre attempt fun result state =>
      pre state ∧ ∀ value, result = some value → post value state) (tries : Nat) :
    Ensures machine pre (retry attempt tries) fun result state =>
      pre state ∧ ∀ value, result = some value → post value state := by
  induction tries with
  | zero => exact ensures_pure fun state held => ⟨held, fun value same => (by cases same)⟩
  | succ tries inductionHypothesis =>
      refine ensures_bind each fun result => ?_
      cases result with
      | some value => exact ensures_pure fun state held => held
      | none =>
          exact ensures_each fun before held =>
            fun state exchanges result after same path served =>
              inductionHypothesis state exchanges result after (same ▸ held.1) path served

end Rules

/-! ### What a program asks -/

/-- All requests of the program are of the given kind. -/
def Asks (kind : Request → Prop) (program : Program Request Answer α) : Prop :=
  ∀ exchanges result, Path program exchanges result → ∀ exchange ∈ exchanges, kind exchange.request

section Asks

variable {kind : Request → Prop}

theorem asks_pure {result : α} : Asks kind (pure result : Program Request Answer α) := by
  intro exchanges outcome path
  obtain ⟨rfl, -⟩ := path_pure.mp path
  exact fun exchange member => absurd member List.not_mem_nil

theorem asks_request {request : Request} (allowed : kind request) :
    Asks kind (Program.request request : Program Request Answer (Answer request)) := by
  intro exchanges answer path
  obtain rfl := path_request.mp path
  intro exchange member
  rw [List.mem_singleton.mp member]
  exact allowed

theorem asks_bind {program : Program Request Answer α} {next : α → Program Request Answer β}
    (first : Asks kind program) (second : ∀ result, Asks kind (next result)) :
    Asks kind (program >>= next) := by
  intro exchanges outcome path exchange member
  obtain ⟨earlier, result, later, rfl, one, two⟩ := path_bind.mp path
  rcases List.mem_append.mp member with early | late
  · exact first earlier result one exchange early
  · exact second result later outcome two exchange late

theorem asks_retry {attempt : Program Request Answer (Option α)} (each : Asks kind attempt)
    (tries : Nat) :
    Asks kind (retry attempt tries) := by
  induction tries with
  | zero => exact asks_pure
  | succ tries inductionHypothesis =>
      refine asks_bind each fun result => ?_
      cases result with
      | some value => exact asks_pure
      | none => exact inductionHypothesis

/-- A program keeps what all its requests keep. -/
theorem ensures_keeps {machine : Machine Request Answer σ} {program : Program Request Answer α}
    {invariant : σ → Prop} (asks : Asks kind program)
    (kept : ∀ {before request answer after}, kind request → machine before request answer after →
      invariant before → invariant after) : Ensures machine invariant program fun _ => invariant := by
  intro before exchanges result after held path served
  have allowed := asks exchanges result path
  clear path
  induction served with
  | nil state => exact held
  | cons answered rest inductionHypothesis =>
      exact inductionHypothesis (kept (allowed _ List.mem_cons_self) answered held)
        fun exchange member => allowed exchange (List.mem_cons_of_mem _ member)

end Asks

/-! ### Parts of a device -/

section Parts

variable {Wide : Type} {WideAnswer : Wide → Type} {τ : Type}

/-- A program for a part of a device, as one for the device. -/
def embed (inside : Request → Wide)
    (back : (request : Request) → WideAnswer (inside request) → Answer request) :
    Program Request Answer α → Program Wide WideAnswer α
  | .done result => .done result
  | .ask request next =>
      .ask (inside request) fun answer => embed inside back (next (back request answer))

variable {inside : Request → Wide}
  {back : (request : Request) → WideAnswer (inside request) → Answer request}

/-- A dialogue with the device, and what the part has of it. -/
inductive Narrows (back : (request : Request) → WideAnswer (inside request) → Answer request) :
    List (Exchange Wide WideAnswer) → List (Exchange Request Answer) → Prop where
  | nil : Narrows back [] []
  | cons {request : Request} (answer : WideAnswer (inside request))
      {wide : List (Exchange Wide WideAnswer)}
      {narrow : List (Exchange Request Answer)} (rest : Narrows back wide narrow) :
      Narrows back (⟨inside request, answer⟩ :: wide) (⟨request, back request answer⟩ :: narrow)

theorem path_embed {program : Program Request Answer α} {wide : List (Exchange Wide WideAnswer)}
    {result : α} (path : Path (embed inside back program) wide result) :
    ∃ narrow, Path program narrow result ∧ Narrows back wide narrow := by
  induction program generalizing wide with
  | done value =>
      obtain ⟨rfl, rfl⟩ := path_pure.mp path
      exact ⟨[], .done _, .nil⟩
  | ask request next inductionHypothesis =>
      obtain _ | ⟨answer, path⟩ := path
      obtain ⟨narrow, narrowPath, narrows⟩ := inductionHypothesis _ path
      exact ⟨_, .ask _ narrowPath, .cons answer narrows⟩

theorem asks_embed {kind : Request → Prop} {program : Program Request Answer α}
    (asks : Asks kind program) :
    Asks (fun wide => ∃ request, kind request ∧ wide = inside request) (embed inside back program) := by
  intro wide result path
  obtain ⟨narrow, narrowPath, narrows⟩ := path_embed path
  have allowed := asks narrow result narrowPath
  clear path narrowPath
  induction narrows with
  | nil => exact fun exchange member => absurd member List.not_mem_nil
  | cons answer rest inductionHypothesis =>
      intro exchange member
      rcases List.mem_cons.mp member with rfl | later
      · exact ⟨_, allowed _ List.mem_cons_self, rfl⟩
      · exact inductionHypothesis (fun other member => allowed other (List.mem_cons_of_mem _ member))
          exchange later

/-- What the part ensures, the device ensures for the part. -/
theorem ensures_embed {whole : Machine Wide WideAnswer σ} {part : Machine Request Answer τ}
    {view : σ → τ}
    {kind : Request → Prop} {program : Program Request Answer α} {pre : τ → Prop} {post : α → τ → Prop}
    (asks : Asks kind program)
    (seen : ∀ {before request answer after}, kind request → whole before (inside request) answer after →
      part (view before) request (back request answer) (view after))
    (ensures : Ensures part pre program post) :
    Ensures whole (fun state => pre (view state)) (embed inside back program)
      fun result state => post result (view state) := by
  have served : ∀ {before wide narrow after}, Narrows back wide narrow →
      (∀ exchange ∈ narrow, kind exchange.request) → Served whole before wide after →
      Served part (view before) narrow (view after) := by
    intro before wide narrow after narrows
    induction narrows generalizing before with
    | nil =>
        intro allowed served
        rw [served.of_nil]
        exact .nil _
    | cons answer rest inductionHypothesis =>
        intro allowed served
        obtain _ | ⟨answered, served⟩ := served
        exact .cons (seen (allowed _ List.mem_cons_self) answered)
          (inductionHypothesis (fun exchange member => allowed exchange (List.mem_cons_of_mem _ member))
            served)
  intro before wide result after held path dialogue
  obtain ⟨narrow, narrowPath, narrows⟩ := path_embed path
  exact ensures (view before) narrow result (view after) held narrowPath
    (served narrows (asks narrow result narrowPath) dialogue)

end Parts

/-! ### Calls that stop at the first failure -/

/-- Make the calls in turn, up to the first that does not return 0. -/
def allOf : List (Program Request Answer Int) → Program Request Answer Int
  | [] => pure 0
  | call :: later => do
      if (← call) ≠ 0 then return 1
      else allOf later

/-- One state after 0, another after anything else. -/
def Outcome (success failure : σ → Prop) (result : Int) (state : σ) : Prop :=
  (result = 0 ∧ success state) ∨ (result ≠ 0 ∧ failure state)

section Calls

variable {machine : Machine Request Answer σ} {pre between success failure : σ → Prop}

theorem ensures_allOf_nil : Ensures machine success (allOf []) (Outcome success failure) :=
  ensures_pure fun _ held => .inl ⟨rfl, held⟩

theorem ensures_allOf_cons {call : Program Request Answer Int}
    {later : List (Program Request Answer Int)}
    (first : Ensures machine pre call (Outcome between failure))
    (rest : Ensures machine between (allOf later) (Outcome success failure)) :
    Ensures machine pre (allOf (call :: later)) (Outcome success failure) := by
  refine ensures_bind first fun result => ?_
  by_cases zero : result = 0
  · subst zero
    rw [if_neg (by simp)]
    refine ensures_each fun before outcome => ?_
    rintro state exchanges result after rfl path served
    rcases outcome with ⟨-, reached⟩ | ⟨impossible, -⟩
    · exact rest state exchanges result after reached path served
    · exact absurd rfl impossible
  · rw [if_pos zero]
    refine ensures_pure fun state outcome => ?_
    rcases outcome with ⟨impossible, -⟩ | ⟨-, failed⟩
    · exact absurd impossible zero
    · exact .inr ⟨by decide, failed⟩

end Calls

end TypingTutor.Device
