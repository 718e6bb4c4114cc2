import OefCore.Server.Lifetime
import OefCore.Server.Registration

/-! # Interleaved handlers and whole handlers

`OefCore.ServerState` runs the handlers of handshakes and read loops in one step each.
`OefCore.NodeState` takes them apart, and other handlers come between. For the directory
this makes no difference: what a handler does to it, it does in its first step.

`OefCore.NodeState.run_refines` shows that every run of the interleaved handlers has
the directory of a run of whole handlers, so what holds of the directory there holds
here (`OefCore.NodeState.run_directory`).
-/

namespace OefCore

variable {Double : Type}

/-- No read loop runs. -/
def ReadLoop.isIdle : ReadLoop Double → Bool
  | .idle => true
  | .reading => false
  | .answering _ => false
  | .forwarding _ _ _ => false

/-- What a connection waits for once its handler has gone through. -/
def HandshakeStage.phase (stage : HandshakeStage) (idle : Bool) : ConnectionPhase :=
  match stage with
  | .awaitId => .awaitId
  | .replying publicKey (.phrase _) => .awaitAnswer publicKey
  | .replying _ .failure => .closed
  | .awaitAnswer publicKey => .awaitAnswer publicKey
  | .added publicKey _ => .reading publicKey
  | .confirming publicKey true _ => if idle then .closed else .reading publicKey
  | .confirming _ false _ => .closed
  | .confirmed publicKey => if idle then .closed else .reading publicKey
  | .closed => .closed

/-- The step of a whole handler that an event stands for, if it is its first one. -/
def NodeEvent.image : NodeEvent Double → Option ServerEvent
  | .accept connection => some (.accept connection)
  | .receiveId connection ec buffer => some (.receiveId connection ec buffer)
  | .receiveAnswer connection ec buffer => some (.receiveAnswer connection ec buffer)
  | .handshake _ => none
  | .read session ec buffer => some (.read session ec buffer)
  | .deliver _ => none
  | .written _ _ _ _ => none
  | .answer _ _ _ _ => none

namespace NodeState

def phase (state : NodeState Double) (connection : SessionId) : Option ConnectionPhase :=
  (state.stage connection).map fun stage => stage.phase (state.readLoop connection).isIdle

/-- The same directory, and every connection waits for the same. -/
structure Represents (state : NodeState Double) (server : ServerState) : Prop where
  directory : server.directory = state.directory
  phase : ∀ connection, server.phase connection = state.phase connection

variable {parsers : NodeParsers Double} {state next : NodeState Double} {event : NodeEvent Double}
  {server : ServerState}

theorem phase_of_stage {connection : SessionId} {stage : HandshakeStage}
    (there : state.stage connection = some stage) :
    state.phase connection = some (stage.phase (state.readLoop connection).isIdle) := by
  rw [phase, there, Option.map_some]

theorem phase_setStage (connection other : SessionId) (stage : HandshakeStage) :
    (state.setStage connection stage).phase other =
      if other = connection then some (stage.phase (state.readLoop other).isIdle)
      else state.phase other := by
  unfold phase
  rw [setStage_stage]
  split
  · rfl
  · rfl

theorem phase_setReadLoop (session other : SessionId) (readLoop : ReadLoop Double) :
    (state.setReadLoop session readLoop).phase other =
      if other = session then (state.stage other).map fun stage => stage.phase readLoop.isIdle
      else state.phase other := by
  unfold phase
  rw [setReadLoop_readLoop]
  split
  · rfl
  · rfl

/-- A read loop that goes on does not change what its connection waits for. -/
theorem phase_setReadLoop_of_busy {session : SessionId} {readLoop : ReadLoop Double}
    (same : readLoop.isIdle = (state.readLoop session).isIdle) :
    (state.setReadLoop session readLoop).phase = state.phase := by
  funext other
  rw [phase_setReadLoop]
  split
  · rename_i here
    rw [here, same, phase]
  · rfl

/-- A stage that counts as the one before it changes nothing. -/
theorem phase_setStage_of_same {connection : SessionId} {old stage : HandshakeStage}
    (there : state.stage connection = some old)
    (same : ∀ idle, stage.phase idle = old.phase idle) :
    (state.setStage connection stage).phase = state.phase := by
  funext other
  rw [phase_setStage]
  split
  · rename_i here
    rw [here, same, phase_of_stage there]
  · rfl

/-- The handshake of one connection goes on, and the directory may have changed. -/
theorem Represents.setStage (represents : state.Represents server) {connection : SessionId}
    {stage : HandshakeStage} {directory : AgentDirectory} (same : directory = next.directory)
    (moved : next.phase = (state.setStage connection stage).phase) :
    next.Represents ({ server with directory }.setPhase connection
      (stage.phase (state.readLoop connection).isIdle)) where
  directory := same
  phase other := by
    rw [ServerState.setPhase_phase, moved, phase_setStage]
    split
    · rename_i here
      rw [here]
    · exact represents.phase other

theorem Represents.record (represents : state.Represents server) (entry : ServerEntry) :
    state.Represents (server.record entry) :=
  ⟨represents.directory, represents.phase⟩

/-- Handlers that go on after their first step change nothing for the whole handlers. -/
theorem Represents.stutter (represents : state.Represents server)
    (stepped : Stepped parsers state event next) (hidden : event.image = none) :
    next.Represents server := by
  have unchanged : next.directory = state.directory → next.phase = state.phase →
      next.Represents server := fun directory phase =>
    ⟨represents.directory.trans directory.symm, fun connection =>
      (represents.phase connection).trans (congrFun phase connection).symm⟩
  cases stepped with
  | accepted | unidentified | identified | unanswered | added | rejected | ended | processed
    | requested | answering | forwarding => cases hidden
  | phraseSent there | failureSent there =>
      exact unchanged rfl (phase_setStage_of_same there fun _ => rfl)
  | @started connection publicKey reply there =>
      apply unchanged rfl
      funext other
      rw [phase_setStage, phase_setReadLoop]
      split
      · rename_i here
        rw [here, phase_of_stage there, setReadLoop_readLoop, if_pos rfl]
        rfl
      · rfl
  | @statusSent connection publicKey added reply there =>
      refine unchanged rfl (phase_setStage_of_same there fun idle => ?_)
      cases added with
      | true => rfl
      | false => rfl
  | answerSent answering =>
      exact unchanged rfl (phase_setReadLoop_of_busy (answering ▸ rfl))
  | forwarded forwarding =>
      exact unchanged rfl (phase_setReadLoop_of_busy (forwarding ▸ rfl))
  | written => exact unchanged rfl rfl
  | searchAnswered => exact unchanged rfl rfl

/-- A session that reads counts as reading, under the key it is registered under. -/
theorem Sessions.phase_of_busy (sessions : state.Sessions) {session : SessionId} {key : String}
    (busy : state.readLoop session ≠ .idle)
    (registered : state.directory.lookup key = some session) :
    ∃ stage, state.stage session = some stage ∧
      ∀ idle, stage.phase idle = if idle then .closed else .reading key := by
  obtain ⟨stage, there, admitted⟩ := sessions.admitted key session registered
  refine ⟨stage, there, fun idle => ?_⟩
  cases admitted with
  | added => exact absurd (sessions.added _ _ _ there).2 busy
  | confirming => rfl
  | confirmed => rfl

theorem isIdle_eq_false {readLoop : ReadLoop Double} (busy : readLoop ≠ .idle) :
    readLoop.isIdle = false := by
  cases readLoop with
  | idle => exact absurd rfl busy
  | reading | answering | forwarding => rfl

/-- A session that can read an envelope counts as reading. -/
theorem Represents.reading (represents : state.Represents server) (sessions : state.Sessions)
    {session : SessionId} {self : AgentSession Double}
    (reading : state.readLoop session = .reading)
    (there : state.session session = some self) :
    server.phase session = some (.reading self.publicKey) := by
  have busy : state.readLoop session ≠ .idle := reading ▸ nofun
  obtain ⟨stage, here, phase⟩ :=
    sessions.phase_of_busy busy (sessions.registered_of_busy busy there)
  rw [represents.phase, phase_of_stage here, isIdle_eq_false busy, phase]
  rfl

/-- An envelope that is read changes nothing for the whole handlers. -/
theorem Represents.read (represents : state.Represents server) (sessions : state.Sessions)
    {session : SessionId} {self : AgentSession Double} {ec : ErrorCode} (buffer : Buffer)
    (reading : state.readLoop session = .reading) (there : state.session session = some self)
    (read : ec.failed = false) (directory : next.directory = state.directory)
    (phase : next.phase = state.phase) :
    ∃ after, ServerState.step parsers.toHandshakeParsers server (.read session ec buffer) =
      some after ∧ next.Represents after := by
  refine ⟨server, ?_, ⟨represents.directory.trans directory.symm, fun connection =>
    (represents.phase connection).trans (congrFun phase connection).symm⟩⟩
  simp only [ServerState.step, ServerState.stepRead, represents.reading sessions reading there,
    read, Bool.false_eq_true, ↓reduceIte]

/-- A read that fails ends the session for the whole handlers. -/
theorem Represents.ended (represents : state.Represents server) (sessions : state.Sessions)
    {session : SessionId} {self : AgentSession Double} {ec : ErrorCode} (buffer : Buffer)
    (reading : state.readLoop session = .reading) (there : state.session session = some self)
    (failed : ec.failed = true) :
    ∃ after, ServerState.step parsers.toHandshakeParsers server (.read session ec buffer) =
      some after ∧
        ({ state with directory := state.directory.erase self.publicKey }.setReadLoop session
          .idle).Represents after := by
  have busy : state.readLoop session ≠ .idle := reading ▸ nofun
  obtain ⟨stage, here, phase⟩ :=
    sessions.phase_of_busy busy (sessions.registered_of_busy busy there)
  refine ⟨({ server with directory := server.directory.erase self.publicKey }.setPhase session
    .closed).record (.ended session self.publicKey (server.directory.exist self.publicKey)), ?_, ?_⟩
  · simp only [ServerState.step, ServerState.stepRead, represents.reading sessions reading there,
      failed, ↓reduceIte]
    rfl
  · apply Represents.record
    refine ⟨congrArg (fun directory => directory.erase self.publicKey) represents.directory,
      fun other => ?_⟩
    rw [ServerState.setPhase_phase, phase_setReadLoop]
    split
    · rename_i same
      subst same
      change _ = (state.stage other).map _
      rw [here, Option.map_some, phase]
      rfl
    · exact represents.phase other

/-- The first step of a handler is the step of the whole handler. -/
theorem Represents.step (represents : state.Represents server) (sessions : state.Sessions)
    (stepped : Stepped parsers state event next) {image : ServerEvent}
    (imaged : event.image = some image) :
    ∃ after, ServerState.step parsers.toHandshakeParsers server image = some after ∧
      next.Represents after := by
  have waits : ∀ {connection : SessionId} {stage : HandshakeStage},
      state.stage connection = some stage →
        server.phase connection = some (stage.phase (state.readLoop connection).isIdle) :=
    fun there => (represents.phase _).trans (phase_of_stage there)
  have moves := @Represents.setStage _ state next server represents
  cases stepped with
  | phraseSent | failureSent | started | statusSent | answerSent | forwarded | written
    | searchAnswered => cases imaged
  | @accepted connection fresh =>
      cases imaged
      have absent : server.phase connection = none := by
        rw [represents.phase, NodeState.phase, fresh, Option.map_none]
      refine ⟨_, ?_, moves represents.directory rfl⟩
      simp only [ServerState.step, absent]
      rfl
  | @unidentified connection ec buffer there result =>
      cases imaged
      have waiting : server.phase connection = some .awaitId := waits there
      rw [← represents.directory] at result
      refine ⟨_, ?_, moves represents.directory rfl⟩
      simp only [ServerState.step, ServerState.stepReceiveId, waiting, result]
      rfl
  | @identified connection ec buffer publicKey reply there result =>
      cases imaged
      have waiting : server.phase connection = some .awaitId := waits there
      rw [← represents.directory] at result
      refine ⟨_, ?_, (moves represents.directory rfl).record
        (.identified connection publicKey reply)⟩
      simp only [ServerState.step, ServerState.stepReceiveId, waiting, result]
      cases reply with
      | phrase phrase => rfl
      | failure => rfl
  | @unanswered connection publicKey ec buffer there failed =>
      cases imaged
      have waiting : server.phase connection = some (.awaitAnswer publicKey) := waits there
      refine ⟨_, ?_, moves represents.directory rfl⟩
      simp only [ServerState.step, ServerState.stepReceiveAnswer, waiting,
        CoreServer.secretHandshake, failed, ↓reduceIte]
      rfl
  | @added connection publicKey ec buffer there read free =>
      cases imaged
      have waiting : server.phase connection = some (.awaitAnswer publicKey) := waits there
      rw [← represents.directory] at free
      have directory : server.directory.insert publicKey connection =
          state.directory.insert publicKey connection := by
        rw [represents.directory]
      refine ⟨_, ?_, (moves directory rfl).record
        (.answered connection publicKey true { status := true })⟩
      simp only [ServerState.step, ServerState.stepReceiveAnswer, waiting,
        CoreServer.secretHandshake_of_read read, AgentDirectory.add_of_free free]
      rfl
  | @rejected connection publicKey ec buffer there read taken =>
      cases imaged
      have waiting : server.phase connection = some (.awaitAnswer publicKey) := waits there
      rw [← represents.directory] at taken
      refine ⟨_, ?_, (moves represents.directory rfl).record
        (.answered connection publicKey false { status := false })⟩
      simp only [ServerState.step, ServerState.stepReceiveAnswer, waiting,
        CoreServer.secretHandshake_of_read read, AgentDirectory.add_of_taken taken]
      rfl
  | ended reading there failed =>
      cases imaged
      exact represents.ended sessions _ reading there failed
  | processed reading there read =>
      cases imaged
      exact represents.read sessions _ reading there read rfl rfl
  | requested reading there read =>
      cases imaged
      exact represents.read sessions _ reading there read rfl rfl
  | answering reading there read =>
      cases imaged
      exact represents.read sessions _ reading there read rfl
        (phase_setReadLoop_of_busy (reading ▸ rfl))
  | forwarding reading there read =>
      cases imaged
      exact represents.read sessions _ reading there read rfl
        (phase_setReadLoop_of_busy (reading ▸ rfl))

theorem represents_initial : (initial : NodeState Double).Represents ServerState.initial :=
  ⟨rfl, fun _ => rfl⟩

/-- **Interleaved handlers do what whole handlers do** to the directory: the first steps
of the handlers, in their order, are a run of the whole handlers that leads to the same
directory. -/
theorem run_refines {events : List (NodeEvent Double)}
    (run : Run (NodeState.step parsers) initial events state) :
    ∃ server, Run (ServerState.step parsers.toHandshakeParsers) ServerState.initial
      (events.filterMap NodeEvent.image) server ∧ state.Represents server := by
  apply run.refines NodeEvent.image Represents represents_initial
  · intro events state event next server _ taken represents hidden
    exact represents.stutter (stepped_of_step taken) hidden
  · intro events state event next server image before taken represents imaged
    exact represents.step (run_sessions before) (stepped_of_step taken) imaged

/-- The directory has the sessions that were added and whose read loops did not end. -/
theorem run_directory {events : List (NodeEvent Double)}
    (run : Run (NodeState.step parsers) initial events state) (key : String)
    (session : SessionId) :
    state.directory.lookup key = some session ↔ state.phase session = some (.reading key) := by
  obtain ⟨server, whole, represents⟩ := run_refines run
  have lifetimes := ServerState.run_together whole
  rw [← represents.directory, ← represents.phase]
  exact lifetimes.directory key session

end NodeState

end OefCore
