/-
Module: TypingTutor.Proofs.Sessions
Layer: Proofs
Purpose: Program sessions as sessions of the high-score store.  The log of a run records when the
  scores were updated and when they were loaded; replaying these events on the zero table gives the
  table and the file that the run leaves, as long as `fopen` succeeds.
Trusted boundary: none
Main exports: sessionOf, Accounted, run_accounted, ProgramSessions, programSessions_file
-/
import TypingTutor.Proofs.Actions
import TypingTutor.Proofs.ScorePersistence

namespace TypingTutor

open Runs

/-! ### The session in a log -/

/-- The calls that touch the high scores. -/
def Call.scoreEvent : Call → Option ScoreEvent
  | .updateHighScores _ _ wpm time => some (.gameOver (Int32.ofInt wpm) time)
  | .loadHighScores => some .highscores
  | _ => none

/-- The score events of a log, oldest first. -/
def sessionOf (log : List Call) : List ScoreEvent := (log.filterMap Call.scoreEvent).reverse

theorem sessionOf_cons (call : Call) (log : List Call) :
    sessionOf (call :: log) = sessionOf log ++ call.scoreEvent.toList := by
  cases event : call.scoreEvent with
  | none => simp [sessionOf, event]
  | some happened => simp [sessionOf, event]

/-- The high scores are what the logged events make of the zero table and the file at program
start. -/
def Accounted (file : List Char) (s : State) : Prop :=
  s.scores = (sessionOf s.log).foldl scoreStep { highScores := .zero, file := file }

/-- The action accounts for what it does to the high scores. -/
def KeepsAccounts (action : State → Except Fault State) : Prop :=
  ∀ file s, Accounted file s → Outcome (Accounted file) (fun _ => True) (action s)

theorem keepsAccounts_iff {action : State → Except Fault State} :
    KeepsAccounts action ↔
      ∀ file s next, Accounted file s → action s = .ok next → Accounted file next := by
  constructor
  · intro keeps file s next accounted acted
    have ends := keeps file s accounted
    rw [acted] at ends
    exact ends
  · intro keeps file s accounted
    cases acted : action s with
    | error fault => trivial
    | ok next => exact keeps file s next accounted acted

theorem KeepsAccounts.bind {first second : State → Except Fault State}
    (keepsFirst : KeepsAccounts first)
    (keepsSecond : KeepsAccounts second) : KeepsAccounts fun s => first s >>= second :=
  fun file s accounted => (keepsFirst file s accounted).bind (keepsSecond file)

/-- One logged event. -/
theorem Accounted.event {file : List Char} {s next : State} {event : ScoreEvent}
    (accounted : Accounted file s) (logged : sessionOf next.log = sessionOf s.log ++ [event])
    (scored : next.scores = scoreStep s.scores event) : Accounted file next := by
  rw [Accounted, logged, List.foldl_append, ← accounted]
  exact scored

/-! ### Screen changes -/

section Handlers

variable {loaded : LoadedSprites} {env : Env}

theorem setGameState_keepsAccounts (opened : env.fopen = true) (caller : Caller) (state : GameState) :
    KeepsAccounts (setGameState env caller state) := by
  rw [keepsAccounts_iff]
  intro file s next accounted changed
  cases state with
  | menu | timers | instructions =>
      cases changed
      simpa [Accounted, sessionOf_cons, Call.scoreEvent] using accounted
  | highscores =>
      cases changed
      apply @Accounted.event file s _ .highscores accounted
      · simp [sessionOf_cons, Call.scoreEvent]
      · change loadHighScores env.fopen s.scores = loadHighScores true s.scores
        rw [opened]
  | game =>
      rw [setGameState_game] at changed
      cases changed
      simpa [Accounted, sessionOf_cons, Call.scoreEvent] using accounted
  | statistics =>
      obtain ⟨testToken, token, stats, rfl⟩ := setGameState_statistics_inv changed
      apply @Accounted.event file s _
        (.gameOver (gameSpeed stats) (env.rtc 0)) accounted
      · simp [gameFinished, sessionOf_cons, Call.scoreEvent]
      · change updateHighScores env.fopen _ _ s.scores = updateHighScores true _ _ s.scores
        rw [opened]

theorem destroyStats_keepsAccounts : KeepsAccounts destroyStats := by
  rw [keepsAccounts_iff]
  intro file s next accounted destroyed
  simp only [destroyStats, bind_eq_ok] at destroyed
  obtain ⟨stats, -, returned⟩ := destroyed
  cases returned
  simpa [Accounted, sessionOf_cons, Call.scoreEvent] using accounted

theorem screenButtons_keepAccounts (opened : env.fopen = true) (s : State) :
    ∀ button ∈ screenButtons env s, KeepsAccounts button.2 := by
  have change := fun state => setGameState_keepsAccounts opened .checkActions state
  apply forall_screenButtons change
  · intro seconds file s accounted
    exact change .game file { s with timer := seconds } accounted
  · exact (change .menu).bind destroyStats_keepsAccounts

/-! ### Handlers -/

theorem checkActions_keepsAccounts (opened : env.fopen = true) :
    KeepsAccounts (checkActions loaded env) := by
  rw [keepsAccounts_iff]
  intro file s next accounted acted
  rcases checkActions_cases env acted with gestured | rfl | ⟨button, member, pressed⟩
  · obtain ⟨_, _, _, _, _, _, _, rfl⟩ := gestured
    simpa [Accounted, sessionOf_cons, Call.scoreEvent] using accounted
  · exact accounted
  · exact keepsAccounts_iff.mp (screenButtons_keepAccounts opened s button member) file s next accounted
      pressed

theorem updateMouse_keepsAccounts (opened : env.fopen = true) (ports : PortReads) :
    KeepsAccounts (updateMouse loaded ports env) := by
  intro file s accounted
  rw [updateMouse_eq]
  split
  · rw [handlePacket_eq]
    apply Outcome.bind (checkActions_keepsAccounts opened file _ ?_)
    · intro next accountedNext
      exact accountedNext
    · simpa [Accounted, sessionOf_cons, State.record, parsePacket, Call.scoreEvent] using accounted
  · exact accounted

theorem leaveByKey_keepsAccounts (opened : env.fopen = true) (before : GameState) :
    KeepsAccounts (leaveByKey env before) := by
  intro file s accounted
  unfold leaveByKey
  split_ifs
  · exact setGameState_keepsAccounts opened .keyHandler .timers file s accounted
  · exact accounted
  · apply Outcome.bind (setGameState_keepsAccounts opened .keyHandler .menu file s accounted)
    intro next accountedNext
    exact accountedNext
  · exact accounted

theorem keyHandler_keepsAccounts (opened : env.fopen = true) (ports : PortReads) :
    KeepsAccounts (keyHandler loaded ports env) := by
  intro file s accounted
  rw [keyHandler_eq]
  cases typed : updateKeyboard loaded ports env s with
  | error fault => trivial
  | ok next =>
      obtain ⟨_, _, _, _, _, _, rfl⟩ := updateKeyboard_typedFrom typed
      exact leaveByKey_keepsAccounts opened s.currentState file _ accounted

theorem updateTimer_keepsAccounts (opened : env.fopen = true) : KeepsAccounts (updateTimer env) := by
  intro file s accounted
  rw [updateTimer_eq]
  split_ifs
  · exact setGameState_keepsAccounts opened .updateTimer .statistics file (tick s) accounted
  · exact accounted
  · exact accounted
  · exact accounted

theorem gameDrawer_keepsAccounts : KeepsAccounts (gameDrawer loaded env) := by
  rw [keepsAccounts_iff]
  intro file s next accounted drawn
  obtain ⟨_, _, _, _, _, rfl⟩ := gameDrawer_drawnFrom drawn
  exact accounted

/-! ### Runs -/

/-- The file can be opened whenever a handler of the notification tries to. -/
def Notification.Opens (message : Notification) : Prop :=
  (∀ call, message.keyboard = some call → call.2.fopen = true) ∧
    (∀ env, message.timer = some env → env.fopen = true) ∧
    ∀ call, message.mouse = some call → call.2.fopen = true

theorem mainLoopStep_keepsAccounts {message : Notification} (opens : message.Opens) :
    KeepsAccounts fun s => mainLoopStep loaded s message := by
  obtain ⟨keyboardOpens, timerOpens, mouseOpens⟩ := opens
  intro file s accounted
  apply mainLoopStep_outcome accounted
  · intro call key
    exact keyHandler_keepsAccounts (keyboardOpens call key) call.1 file s accounted
  · intro env tick typed afterKey
    have timed := updateTimer_keepsAccounts (timerOpens env tick)
    exact timed.bind gameDrawer_keepsAccounts file typed afterKey
  · intro call click ticked afterTick
    exact updateMouse_keepsAccounts (mouseOpens call click) call.1 file ticked afterTick

/-- The high scores after a run are those of its session. -/
theorem run_accounted {file : List Char} {messages : List Notification} {s : State}
    (opens : ∀ message ∈ messages, message.Opens) (ran : run loaded file messages = .ok s) :
    Accounted file s := by
  have guarded : Along (mainLoopStep loaded) (fun _ message => message.Opens) (setup file) messages :=
    along_of_forall (fun message member _ => opens message member) (setup file)
  have initially : Accounted file (setup file) := rfl
  have ends := foldlM_outcome_along
    (fun s message accounted opened => mainLoopStep_keepsAccounts opened file s accounted)
    initially guarded
  rw [run] at ran
  rw [ran] at ends
  exact ends

end Handlers

/-- Program sessions one after the other: each starts from `setup()` with the file that the last one
left. -/
inductive ProgramSessions (loaded : LoadedSprites) :
    List Char → List (List ScoreEvent) → List Char → Prop where
  | done (file : List Char) : ProgramSessions loaded file [] file
  | session {file last : List Char} {messages : List Notification} {s : State}
      {sessions : List (List ScoreEvent)} (opens : ∀ message ∈ messages, message.Opens)
      (ran : run loaded file messages = .ok s)
      (rest : ProgramSessions loaded s.scores.file sessions last) :
      ProgramSessions loaded file (sessionOf s.log :: sessions) last

/-- The program's sessions are sessions of the high-score store. -/
theorem programSessions_file {loaded : LoadedSprites} {file last : List Char}
    {sessions : List (List ScoreEvent)} (ran : ProgramSessions loaded file sessions last) :
    last = runSessions file sessions := by
  induction ran with
  | done file => rfl
  | session opens ran rest inductionHypothesis =>
      rw [inductionHypothesis, run_accounted opens ran]
      rfl

end TypingTutor
