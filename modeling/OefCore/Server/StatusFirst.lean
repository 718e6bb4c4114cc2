import OefCore.Server.Lifetime
import OefCore.Server.Registration

/-! # The connection status comes first

What a connection is sent first is a phrase, and after it the status of the
connection, before any message of an agent. The handler of the answer adds the session
to the directory, then starts it, and only then sends the status, so another session
can find it and send to it in between.

`OefCore.NodeState.run_statusFirst` says when the status is first: when no envelope is
read that leads to a message for a session before its status is sent. The next step
after any other envelope can send the message ahead of the status
(`OefCore.NodeState.earlyMessage_beforeStatus`).
-/

namespace OefCore

variable {Double : Type}

/-- The messages of a connection up to its status, or with its status after the
phrase. -/
inductive StatusFirst : List (ServerMessage Double) → Prop where
  | nothing : StatusFirst []
  | phrase {phrase : Server.Phrase} : StatusFirst [.phrase phrase]
  | status {phrase : Server.Phrase} {status : Server.Connected}
      {rest : List (ServerMessage Double)} :
      StatusFirst (.phrase phrase :: .connected status :: rest)

/-- The session that messages are sent to for an envelope, at once or when a request is
answered. -/
def addressee (directory : AgentDirectory) (session : SessionId) (self : AgentSession Double)
    (envelope : Envelope Double) : Option SessionId :=
  match envelope.payload with
  | .sendMessage message => some ((directory.session message.destination).getD session)
  | .unregisterDescription => self.description.map fun _ => session
  | .payloadNotSet => none
  | _ => some session

/-- The session that an action of a session has messages sent to. -/
def SessionAction.recipient (session : SessionId) : SessionAction Double → Option SessionId
  | .nothing => none
  | .request _ _ => some session
  | .send _ => some session
  | .forward target _ _ => some target

theorem addressee_eq_recipient (directory : AgentDirectory) (session : SessionId)
    (self : AgentSession Double) (envelope : Envelope Double) :
    addressee directory session self envelope =
      (AgentSession.processEnvelope directory self envelope).2.recipient session := by
  obtain ⟨msgId, payload⟩ := envelope
  cases payload with
  | sendMessage message =>
      dsimp only [addressee, AgentDirectory.session]
      cases there : directory.lookup message.destination with
      | none =>
          rw [AgentSession.processEnvelope_unregistered directory self msgId message there]
          rfl
      | some target =>
          rw [AgentSession.processEnvelope_registered directory self msgId message there]
          rfl
  | unregisterDescription =>
      dsimp only [addressee, AgentSession.processEnvelope,
        AgentSession.processUnregisterDescription]
      cases self.description with
      | none => rfl
      | some description => rfl
  | registerService | unregisterService | registerDescription | searchServices
    | searchServicesWide | searchAgents | payloadNotSet => rfl

namespace NodeState

/-- What a connection was sent, in order. -/
def messagesTo (state : NodeState Double) (connection : SessionId) : List (ServerMessage Double) :=
  (state.sent.filter fun sent => sent.connection = connection).map fun sent => sent.message

/-- The status of a session was sent, and it is that it is connected. -/
def Confirmed (state : NodeState Double) (session : SessionId) : Prop :=
  ∃ publicKey, state.stage session = some (.confirmed publicKey)

/-- An envelope is read that the recipient is sent messages for. -/
inductive ReadFor (parsers : NodeParsers Double) (state : NodeState Double) :
    NodeEvent Double → SessionId → Prop where
  | intro {session recipient : SessionId} {self : AgentSession Double} {ec : ErrorCode}
      {buffer : Buffer} (read : ec.failed = false) (there : state.session session = some self)
      (addressed : addressee state.directory session self
        (Pbs.deserialize parsers.envelope buffer) = some recipient) :
      ReadFor parsers state (.read session ec buffer) recipient

/-- If an envelope is read, whoever is sent messages for it is confirmed. -/
def ConfirmedFirst (parsers : NodeParsers Double) (state : NodeState Double)
    (event : NodeEvent Double) : Prop :=
  ∀ recipient, ReadFor parsers state event recipient → state.Confirmed recipient

/-- What a connection has been sent when its handshake has got so far. -/
def Progress (messages : List (ServerMessage Double)) : Option HandshakeStage → Prop
  | none => messages = []
  | some .awaitId => messages = []
  | some (.replying _ _) => messages = []
  | some (.awaitAnswer _) => ∃ phrase, messages = [.phrase phrase]
  | some (.added _ _) => ∃ phrase, messages = [.phrase phrase]
  | some (.confirming _ _ _) => ∃ phrase, messages = [.phrase phrase]
  | some (.confirmed _) =>
      ∃ phrase status rest, messages = .phrase phrase :: .connected status :: rest
  | some .closed => StatusFirst messages

theorem Progress.statusFirst {messages : List (ServerMessage Double)}
    {stage : Option HandshakeStage} (progress : Progress messages stage) :
    StatusFirst messages := by
  rcases stage with _ | stage
  · cases progress
    exact .nothing
  · cases stage with
    | awaitId | replying =>
        cases progress
        exact .nothing
    | awaitAnswer | added | confirming =>
        obtain ⟨phrase, rfl⟩ := progress
        exact .phrase
    | confirmed =>
        obtain ⟨phrase, status, rest, rfl⟩ := progress
        exact .status
    | closed => exact progress

/-- A session that something will be sent to for an envelope that was read. -/
inductive Pending (state : NodeState Double) : SessionId → Prop where
  | answer {session : SessionId} {answer : Server.AgentMessage Double}
      (answering : state.readLoop session = .answering answer) : Pending state session
  | message {session target : SessionId} {message : Server.AgentMessage Double}
      {continuation : MessageContinuation}
      (forwarding : state.readLoop session = .forwarding target message continuation) :
      Pending state target
  | request {session : SessionId} {continuation : SessionContinuation}
      (waiting : (session, continuation) ∈ state.requests) : Pending state session

/-- Every connection is as far as its handshake, and only confirmed sessions have
anything pending. -/
structure Confirmations (state : NodeState Double) : Prop where
  progress : ∀ connection, Progress (state.messagesTo connection) (state.stage connection)
  pending : ∀ session, state.Pending session → state.Confirmed session

variable {parsers : NodeParsers Double} {state next : NodeState Double} {event : NodeEvent Double}

theorem messagesTo_send (connection other : SessionId) (cause : Cause)
    (messages : List (ServerMessage Double)) :
    (state.send connection cause messages).messagesTo other =
      if other = connection then state.messagesTo other ++ messages
      else state.messagesTo other := by
  unfold messagesTo send
  rw [List.filter_append, List.map_append, List.filter_map, List.map_map]
  change _ ++ (messages.filter fun _ => decide (connection = other)).map id = _
  rw [List.map_id]
  by_cases same : other = connection
  · rw [if_pos same, List.filter_eq_self.mpr fun _ _ => decide_eq_true same.symm]
  · have dropped : (messages.filter fun _ => decide (connection = other)) = [] :=
      List.filter_eq_nil_iff.mpr fun _ _ there => same (of_decide_eq_true there).symm
    rw [if_neg same, dropped, List.append_nil]

/-! ### One step -/

/-- The handshake of one connection goes on, possibly with a send. -/
theorem progress_setStage
    (progress : ∀ other, Progress (state.messagesTo other) (state.stage other))
    {connection : SessionId} {cause : Cause} {messages : List (ServerMessage Double)}
    {stage : HandshakeStage}
    (here : Progress (state.messagesTo connection ++ messages) (some stage)) :
    ∀ other, Progress
      (((state.send connection cause messages).setStage connection stage).messagesTo other)
      (((state.send connection cause messages).setStage connection stage).stage other) := by
  intro other
  change Progress ((state.send connection cause messages).messagesTo other) _
  rw [setStage_stage, messagesTo_send]
  by_cases same : other = connection
  · rw [if_pos same, if_pos same, same]
    exact here
  · rw [if_neg same, if_neg same]
    exact progress other

/-- The handshake of one connection goes on without a send. -/
theorem progress_setStage_unsent
    (progress : ∀ other, Progress (state.messagesTo other) (state.stage other))
    {connection : SessionId} {stage : HandshakeStage}
    (here : Progress (state.messagesTo connection) (some stage)) :
    ∀ other, Progress ((state.setStage connection stage).messagesTo other)
      ((state.setStage connection stage).stage other) := by
  rw [← List.append_nil (state.messagesTo connection)] at here
  have moved := @progress_setStage _ state progress connection .handshake [] stage here
  rwa [send_nil] at moved

/-- A confirmed session is sent more. -/
theorem progress_send
    (progress : ∀ other, Progress (state.messagesTo other) (state.stage other))
    {session : SessionId} (confirmed : state.Confirmed session) (cause : Cause)
    (messages : List (ServerMessage Double)) :
    ∀ other, Progress ((state.send session cause messages).messagesTo other)
      (state.stage other) := by
  intro other
  rw [messagesTo_send]
  by_cases same : other = session
  · subst same
    obtain ⟨publicKey, there⟩ := confirmed
    have before := progress other
    rw [there] at before ⊢
    obtain ⟨phrase, status, rest, sent⟩ := before
    rw [if_pos rfl, sent]
    exact ⟨phrase, status, rest ++ messages, rfl⟩
  · rw [if_neg same]
    exact progress other

/-- Whatever step is taken, every connection stays as far as its handshake. -/
theorem Confirmations.progress_step (confirmations : state.Confirmations)
    (stepped : Stepped parsers state event next) :
    ∀ connection, Progress (next.messagesTo connection) (next.stage connection) := by
  have progress := confirmations.progress
  have at_stage : ∀ {connection : SessionId} {stage : Option HandshakeStage},
      state.stage connection = stage → Progress (state.messagesTo connection) stage :=
    fun {connection} {stage} there => there ▸ progress connection
  cases stepped with
  | @accepted connection fresh =>
      have nothing : state.messagesTo connection = [] := at_stage fresh
      exact progress_setStage_unsent progress nothing
  | @unidentified connection ec buffer waiting result =>
      have nothing : state.messagesTo connection = [] := at_stage waiting
      apply progress_setStage_unsent progress
      rw [nothing]
      exact StatusFirst.nothing
  | @identified connection ec buffer publicKey reply waiting result =>
      have nothing : state.messagesTo connection = [] := at_stage waiting
      exact progress_setStage_unsent progress nothing
  | @phraseSent connection publicKey phrase replying =>
      have nothing : state.messagesTo connection = [] := at_stage replying
      apply progress_setStage progress
      rw [nothing]
      exact ⟨_, rfl⟩
  | @failureSent connection publicKey replying =>
      have nothing : state.messagesTo connection = [] := at_stage replying
      apply progress_setStage progress
      rw [nothing]
      exact StatusFirst.phrase
  | unanswered waiting failed =>
      obtain ⟨phrase, sent⟩ := at_stage waiting
      apply progress_setStage_unsent progress
      rw [sent]
      exact StatusFirst.phrase
  | added there | rejected there | started there =>
      obtain ⟨phrase, sent⟩ := at_stage there
      exact progress_setStage_unsent progress ⟨phrase, sent⟩
  | @statusSent connection publicKey added reply confirming =>
      obtain ⟨phrase, sent⟩ := at_stage confirming
      apply progress_setStage progress
      rw [sent]
      cases added with
      | true => exact ⟨phrase, reply, [], rfl⟩
      | false => exact StatusFirst.status
  | ended | processed | requested | answering | forwarding | written => exact progress
  | answerSent answering =>
      exact progress_send progress (confirmations.pending _ (.answer answering)) _ _
  | forwarded forwarding =>
      exact progress_send progress (confirmations.pending _ (.message forwarding)) _ _
  | searchAnswered there waiting =>
      exact progress_send progress (confirmations.pending _ (.request waiting)) _ _

/-- A session stays confirmed. -/
theorem Stepped.confirmed {session : SessionId} (stepped : Stepped parsers state event next)
    (confirmed : state.Confirmed session) : next.Confirmed session := by
  obtain ⟨publicKey, here⟩ := confirmed
  refine ⟨publicKey, ?_⟩
  have other : ∀ {connection : SessionId} {stage : Option HandshakeStage},
      state.stage connection = stage → stage ≠ some (.confirmed publicKey) →
        session ≠ connection := by
    intro connection stage there different same
    rw [← same, here] at there
    exact different there.symm
  cases stepped with
  | accepted there => rw [setStage_stage, if_neg (other there nofun), here]
  | unidentified there | identified there | phraseSent there | failureSent there | unanswered there
    | added there | rejected there | started there | statusSent there =>
      rw [setStage_stage, if_neg (other there nofun)]
      exact here
  | ended | processed | requested | answering | forwarding | answerSent | forwarded | written
    | searchAnswered => exact here

/-- Read loops go on as they are, or have nothing to send. -/
def Quieter (state next : NodeState Double) : Prop :=
  ∀ session, next.readLoop session = state.readLoop session ∨
    next.readLoop session = .reading ∨ next.readLoop session = .idle

theorem quieter_setReadLoop {session : SessionId} {readLoop : ReadLoop Double}
    (quiet : readLoop = .reading ∨ readLoop = .idle) :
    state.Quieter (state.setReadLoop session readLoop) := by
  intro other
  rw [setReadLoop_readLoop]
  split
  · exact Or.inr quiet
  · exact Or.inl rfl

theorem Pending.of_quieter {recipient : SessionId} (pending : next.Pending recipient)
    (quieter : state.Quieter next) (requests : next.requests ⊆ state.requests) :
    state.Pending recipient := by
  cases pending with
  | answer answering =>
      rcases quieter recipient with same | reading | idle
      · exact .answer (same ▸ answering)
      · cases reading.symm.trans answering
      · cases idle.symm.trans answering
  | @message session target message continuation forwarding =>
      rcases quieter session with same | reading | idle
      · exact .message (same ▸ forwarding)
      · cases reading.symm.trans forwarding
      · cases idle.symm.trans forwarding
  | request waiting => exact .request (requests waiting)

/-- The read loop of one session changes. -/
theorem Pending.of_setReadLoop {session recipient : SessionId} {readLoop : ReadLoop Double}
    (pending : (state.setReadLoop session readLoop).Pending recipient) :
    state.Pending recipient ∨ (∃ answer, readLoop = .answering answer ∧ recipient = session) ∨
      ∃ message continuation, readLoop = .forwarding recipient message continuation := by
  cases pending with
  | @answer other answer answering =>
      rw [setReadLoop_readLoop] at answering
      split at answering
      · exact Or.inr (Or.inl ⟨answer, answering, ‹_›⟩)
      · exact Or.inl (.answer answering)
  | @message other target message continuation forwarding =>
      rw [setReadLoop_readLoop] at forwarding
      split at forwarding
      · exact Or.inr (Or.inr ⟨message, continuation, forwarding⟩)
      · exact Or.inl (.message forwarding)
  | request waiting => exact Or.inl (.request waiting)

theorem addressee_of_process {directory : AgentDirectory} {session : SessionId}
    {self after : AgentSession Double} {buffer : Buffer} {action : SessionAction Double}
    (processing : AgentSession.process parsers.envelope directory self buffer = (after, action)) :
    addressee directory session self (Pbs.deserialize parsers.envelope buffer) =
      action.recipient session := by
  rw [AgentSession.process] at processing
  rw [addressee_eq_recipient, processing]

/-- What is pending after a step was pending before, or is so for an envelope that was
read. -/
theorem Stepped.pending {recipient : SessionId} (stepped : Stepped parsers state event next)
    (pending : next.Pending recipient) :
    state.Pending recipient ∨ ReadFor parsers state event recipient := by
  have unchanged : state.Quieter state := fun _ => Or.inl rfl
  cases stepped with
  | accepted | unidentified | identified | phraseSent | failureSent | unanswered | added | rejected
    | statusSent | processed | written =>
      exact Or.inl (pending.of_quieter unchanged (List.Subset.refl _))
  | started | ended | answerSent | forwarded =>
      refine Or.inl (pending.of_quieter (quieter_setReadLoop ?_) (List.Subset.refl _))
      first
        | exact Or.inl rfl
        | exact Or.inr rfl
  | searchAnswered => exact Or.inl (pending.of_quieter unchanged List.erase_subset)
  | requested reading there read processing =>
      cases pending with
      | answer answering => exact Or.inl (.answer answering)
      | message forwarding => exact Or.inl (.message forwarding)
      | request waiting =>
          rcases List.mem_append.mp waiting with before | now
          · exact Or.inl (.request before)
          · cases List.mem_singleton.mp now
            exact Or.inr (.intro read there (addressee_of_process processing))
  | answering reading there read processing =>
      rcases Pending.of_setReadLoop pending with before | ⟨answer, _, rfl⟩ | ⟨_, _, wrong⟩
      · exact Or.inl (before.of_quieter unchanged (List.Subset.refl _))
      · exact Or.inr (.intro read there (addressee_of_process processing))
      · cases wrong
  | forwarding reading there read processing =>
      rcases Pending.of_setReadLoop pending with before | ⟨_, wrong, _⟩ | ⟨_, _, same⟩
      · exact Or.inl (before.of_quieter unchanged (List.Subset.refl _))
      · cases wrong
      · cases same
        exact Or.inr (.intro read there (addressee_of_process processing))

/-- As long as envelopes are read for confirmed sessions, only such have anything
pending. -/
theorem Confirmations.step (confirmations : state.Confirmations)
    (confirmedFirst : ConfirmedFirst parsers state event)
    (stepped : Stepped parsers state event next) : next.Confirmations where
  progress := confirmations.progress_step stepped
  pending session pending := by
    apply stepped.confirmed
    rcases stepped.pending pending with before | readFor
    · exact confirmations.pending session before
    · exact confirmedFirst session readFor

theorem confirmations_initial : (initial : NodeState Double).Confirmations where
  progress _ := rfl
  pending session pending := by
    cases pending with
    | answer answering => cases answering
    | message forwarding => cases forwarding
    | request waiting => cases waiting

/-! ### Every run -/

theorem run_confirmations {events : List (NodeEvent Double)}
    (run : RunWithin (ConfirmedFirst parsers) (NodeState.step parsers) initial events state) :
    state.Confirmations :=
  run.invariant Confirmations confirmations_initial
    fun _ _ _ confirmations confirmedFirst taken =>
      confirmations.step confirmedFirst (stepped_of_step taken)

/-- A session that is registered and not confirmed was sent its phrase. -/
theorem Confirmations.phrase_sent (confirmations : state.Confirmations)
    (sessions : state.Sessions) {key : String} {session : SessionId}
    (registered : state.directory.lookup key = some session)
    (unconfirmed : ¬ state.Confirmed session) :
    ∃ phrase, state.messagesTo session = [.phrase phrase] := by
  obtain ⟨stage, there, admitted⟩ := sessions.admitted key session registered
  have progress := confirmations.progress session
  rw [there] at progress
  cases admitted with
  | added => exact progress
  | confirming => exact progress
  | confirmed => exact absurd ⟨key, there⟩ unconfirmed

/-- A message of an agent is not what follows the phrase. -/
theorem not_statusFirst_of_sent {session : SessionId} {phrase : Server.Phrase} {cause : Cause}
    {message : Server.AgentMessage Double} (sent : state.messagesTo session = [.phrase phrase]) :
    ¬ StatusFirst ((state.send session cause [.agentMessage message]).messagesTo session) := by
  rw [messagesTo_send, if_pos rfl, sent]
  exact nofun

/-- After an envelope that leads to a message for a session that is not confirmed, the
next step can send it ahead of the status. -/
theorem Confirmations.overtaken (confirmations : state.Confirmations)
    (sessions : state.Sessions) {recipient : SessionId}
    (readFor : ReadFor parsers state event recipient)
    (stepped : Stepped parsers state event next) (unconfirmed : ¬ state.Confirmed recipient) :
    ∃ later last, NodeState.step parsers next later = some last ∧
      ¬ StatusFirst (last.messagesTo recipient) := by
  have phrase : ∀ key, state.directory.lookup key = some recipient →
      ∃ phrase, state.messagesTo recipient = [.phrase phrase] :=
    fun key registered => confirmations.phrase_sent sessions registered unconfirmed
  obtain @⟨session, _, self, ec, buffer, read, there, addressed⟩ := readFor
  cases stepped with
  | ended reading current failed =>
      rw [read] at failed
      cases failed
  | processed reading current read processing =>
      cases there.symm.trans current
      rw [addressee_of_process processing] at addressed
      cases addressed
  | @requested _ _ after _ _ call continuation reading current read processing =>
      cases there.symm.trans current
      rw [addressee_of_process processing] at addressed
      cases addressed
      have busy : state.readLoop recipient ≠ .idle := reading ▸ nofun
      obtain ⟨phrase, sent⟩ := phrase _ (sessions.registered_of_busy busy current)
      have answered := after.answered_failed continuation
        (show ErrorCode.failed ⟨104⟩ = true from rfl) {}
      refine ⟨.answer recipient continuation ⟨104⟩ {}, _, stepAnswer_of_waiting
        (Function.update_self ..) (List.mem_append_right _ (List.mem_singleton_self _)) _ _, ?_⟩
      rw [answered]
      exact not_statusFirst_of_sent sent
  | answering reading current read processing =>
      cases there.symm.trans current
      rw [addressee_of_process processing] at addressed
      cases addressed
      have busy : state.readLoop recipient ≠ .idle := reading ▸ nofun
      obtain ⟨phrase, sent⟩ := phrase _ (sessions.registered_of_busy busy current)
      exact ⟨.deliver recipient, _, stepDeliver_of_answering (Function.update_self ..),
        not_statusFirst_of_sent sent⟩
  | forwarding reading current read processing =>
      cases there.symm.trans current
      rw [addressee_of_process processing] at addressed
      cases addressed
      obtain ⟨message, _, registered, _⟩ := AgentSession.processEnvelope_forward processing
      obtain ⟨phrase, sent⟩ := phrase _ registered
      exact ⟨.deliver session, _, stepDeliver_of_forwarding (Function.update_self ..),
        not_statusFirst_of_sent sent⟩

/-- **The connection status comes first** when every envelope is read for a session
whose status was sent. The first envelope that is read for any other session lets the
next step send a message ahead of the status. -/
theorem run_statusFirst {events : List (NodeEvent Double)}
    (run : RunWithin (ConfirmedFirst parsers) (NodeState.step parsers) initial events state) :
    (∀ connection, StatusFirst (state.messagesTo connection)) ∧
    ∀ event next, NodeState.step parsers state event = some next →
      (ConfirmedFirst parsers state event ↔
        ∀ later last, NodeState.step parsers next later = some last →
          ∀ connection, StatusFirst (last.messagesTo connection)) := by
  have confirmations := run_confirmations run
  refine ⟨fun connection => (confirmations.progress connection).statusFirst, ?_⟩
  intro event next taken
  have stepped := stepped_of_step taken
  constructor
  · intro confirmedFirst later last retaken connection
    have kept := confirmations.step confirmedFirst stepped
    exact (kept.progress_step (stepped_of_step retaken) connection).statusFirst
  · intro first recipient readFor
    by_contra unconfirmed
    obtain ⟨later, last, retaken, late⟩ :=
      confirmations.overtaken (run_sessions run) readFor stepped unconfirmed
    exact late (first later last retaken recipient)

/-! ### A message from "a" to "b" -/

/-- The parsers of the messages of a handshake, and what protobuf makes of an envelope
with a short message and no payload. -/
def shortParsers : NodeParsers Int where
  toHandshakeParsers := ServerState.shortParsers
  envelope
    | [0x08, msgId, 0x12, 0x05, 0x08, dialogueId, 0x12, 0x01, letter] =>
        (msgId < 128 && dialogueId < 128 && letter < 128, {
          msgId := msgId.toUInt32.toInt32
          payload := .sendMessage {
            dialogueId := dialogueId.toUInt32.toInt32
            destination := String.singleton (Char.ofNat letter.toNat)
            payload := .payloadNotSet } })
    | _ => (false, { msgId := 0, payload := .payloadNotSet })

/-- "a" connects, and "b" does up to the addition of its session. -/
def connectBoth : List (NodeEvent Int) :=
  [.accept 0, .receiveId 0 .success [0x0a, 0x01, 0x61], .handshake 0,
    .receiveAnswer 0 .success [0x0a, 0x01, 0x62], .handshake 0, .handshake 0, .accept 1,
    .receiveId 1 .success [0x0a, 0x01, 0x62], .handshake 1,
    .receiveAnswer 1 .success [0x0a, 0x01, 0x62]]

/-- "a" sends to "b" before the handler of its handshake goes on. -/
def sendEarly : List (NodeEvent Int) :=
  connectBoth ++ [.read 0 .success [0x08, 0x01, 0x12, 0x05, 0x08, 0x02, 0x12, 0x01, 0x62],
    .deliver 0, .handshake 1, .handshake 1]

/-- Where that leads. -/
def afterEarly : NodeState Int := (execute (step shortParsers) initial sendEarly).getD initial

/-- The message comes between the phrase and the status. -/
theorem earlyMessage_beforeStatus :
    ∃ state, Run (step shortParsers) initial sendEarly state ∧
      state.messagesTo 1 = [.phrase (.phrase "RandomlyGeneratedString"),
        .agentMessage (AgentSession.forwardedMessage "a" 1 ⟨2, "b", .payloadNotSet⟩),
        .connected { status := true }] ∧
      ¬ StatusFirst (state.messagesTo 1) := by
  have executed : execute (step shortParsers) initial sendEarly = some afterEarly := rfl
  have sent : afterEarly.messagesTo 1 = [.phrase (.phrase "RandomlyGeneratedString"),
      .agentMessage (AgentSession.forwardedMessage "a" 1 ⟨2, "b", .payloadNotSet⟩),
      .connected { status := true }] := rfl
  refine ⟨afterEarly, run_of_execute executed, sent, ?_⟩
  rw [sent]
  exact nofun

/-- Both are connected. -/
def afterStatus : NodeState Int :=
  (execute (step shortParsers) initial (connectBoth ++ [.handshake 1, .handshake 1])).getD initial

/-- The message is sent when the status of "b" was. -/
def afterLate : NodeState Int :=
  (execute (step shortParsers) afterStatus
    [.read 0 .success [0x08, 0x01, 0x12, 0x05, 0x08, 0x02, 0x12, 0x01, 0x62], .deliver 0]).getD
      initial

theorem run_statusFirst_late : StatusFirst (afterLate.messagesTo 1) := by
  have connected : RunWithin (ConfirmedFirst shortParsers) (step shortParsers) initial
      (connectBoth ++ [.handshake 1, .handshake 1]) afterStatus := by
    apply runWithin_of_execute rfl
    apply alongExecution_of_forall
    intro event member state recipient readFor
    cases readFor
    simp [connectBoth] at member
  have sent : RunWithin (ConfirmedFirst shortParsers) (step shortParsers) afterStatus
      [.read 0 .success [0x08, 0x01, 0x12, 0x05, 0x08, 0x02, 0x12, 0x01, 0x62], .deliver 0]
        afterLate := by
    apply runWithin_of_execute rfl
    refine ⟨?_, ?_, trivial⟩
    · intro recipient readFor
      obtain ⟨_, _, addressed⟩ := readFor
      have found : some 1 = some recipient := addressed
      cases found
      exact ⟨"b", rfl⟩
    · intro recipient readFor
      cases readFor
  exact (run_statusFirst (connected.append sent)).1 1

end NodeState

end OefCore
