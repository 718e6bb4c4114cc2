import OefCore.Server.StatusFirst

/-! # What a handshake looks like to its agent

While the handlers of all connections interleave, the messages that a connection is sent
for its own handshake are one of five transcripts, or the beginning of one: nothing, a
failure, a phrase, or a phrase with one of the two statuses. How far the handshake is
says which, up to what it was closed for (`OefCore.NodeState.Transcript`). Whatever else a
connection is sent, it is sent after its session was added.
`OefCore.NodeState.run_transcript` says so of every run.
-/

namespace OefCore

variable {Double : Type}

namespace NodeState

/-- What a connection was sent for its handshake, in order. -/
def handshakeOf (state : NodeState Double) (connection : SessionId) :
    List (ServerMessage Double) :=
  (state.sent.filter fun sent => sent.connection = connection ∧ sent.cause = .handshake).map
    fun sent => sent.message

/-- The phrase that every agent is sent. -/
def phrase : ServerMessage Double := .phrase (.phrase "RandomlyGeneratedString")

/-- What a connection was sent for its handshake, by how far that is. -/
inductive Transcript : Option HandshakeStage → List (ServerMessage Double) → Prop where
  | unaccepted : Transcript none []
  | awaitId : Transcript (some .awaitId) []
  | free {key : String} :
      Transcript (some (.replying key (.phrase "RandomlyGeneratedString"))) []
  | taken {key : String} : Transcript (some (.replying key .failure)) []
  | awaitAnswer {key : String} : Transcript (some (.awaitAnswer key)) [phrase]
  | added {key : String} : Transcript (some (.added key ⟨true⟩)) [phrase]
  | confirming {key : String} {added : Bool} :
      Transcript (some (.confirming key added ⟨added⟩)) [phrase]
  | confirmed {key : String} :
      Transcript (some (.confirmed key)) [phrase, .connected ⟨true⟩]
  /-- The first message could not be read. -/
  | unread : Transcript (some .closed) []
  | failure : Transcript (some .closed) [.phrase .failure]
  /-- The second message could not be read. -/
  | unanswered : Transcript (some .closed) [phrase]
  | rejected : Transcript (some .closed) [phrase, .connected ⟨false⟩]

/-- The session of a connection was added under some key. -/
def IsAdmitted (state : NodeState Double) (connection : SessionId) : Prop :=
  ∃ key stage, state.stage connection = some stage ∧ Admitted key stage

/-- Something other than its handshake was, or will be, sent to a connection. -/
inductive Reaches (state : NodeState Double) : SessionId → Prop where
  | sent {sent : Sent Double} (inside : sent ∈ state.sent) (other : sent.cause ≠ .handshake) :
      Reaches state sent.connection
  | forwarding {session target : SessionId} {message : Server.AgentMessage Double}
      {continuation : MessageContinuation}
      (loop : state.readLoop session = .forwarding target message continuation) :
      Reaches state target
  | answering {session : SessionId} {answer : Server.AgentMessage Double}
      (loop : state.readLoop session = .answering answer) : Reaches state session
  | request {session : SessionId} {continuation : SessionContinuation}
      (waiting : (session, continuation) ∈ state.requests) : Reaches state session

variable {parsers : NodeParsers Double} {state next : NodeState Double} {event : NodeEvent Double}

/-! ### The messages of a handshake -/

/-- A send for a handshake belongs to its connection. -/
theorem handshakeOf_send (connection other : SessionId) (messages : List (ServerMessage Double)) :
    (state.send connection .handshake messages).handshakeOf other =
      if other = connection then state.handshakeOf other ++ messages
      else state.handshakeOf other := by
  unfold handshakeOf send
  have each : ∀ {property : Sent Double → Prop},
      (∀ message, property ⟨connection, .handshake, message⟩) →
        ∀ sent ∈ messages.map fun message => ⟨connection, .handshake, message⟩, property sent := by
    intro property all sent inside
    obtain ⟨message, _, rfl⟩ := List.mem_map.mp inside
    exact all message
  rw [List.filter_append, List.map_append]
  by_cases same : other = connection
  · rw [if_pos same, List.filter_eq_self.mpr (each fun _ => decide_eq_true ⟨same.symm, rfl⟩),
      List.map_map]
    exact congrArg (_ ++ ·) (List.map_id messages)
  · rw [if_neg same, List.filter_eq_nil_iff.mpr (each fun _ there =>
      same (of_decide_eq_true there).1.symm), List.map_nil, List.append_nil]

/-- No other send does. -/
theorem handshakeOf_send_other {cause : Cause} (different : cause ≠ .handshake)
    (connection other : SessionId) (messages : List (ServerMessage Double)) :
    (state.send connection cause messages).handshakeOf other = state.handshakeOf other := by
  unfold handshakeOf send
  have dropped : (messages.map fun message => (⟨connection, cause, message⟩ : Sent Double)).filter
      (fun sent => decide (sent.connection = other ∧ sent.cause = .handshake)) = [] := by
    apply List.filter_eq_nil_iff.mpr
    intro sent inside
    obtain ⟨message, _, rfl⟩ := List.mem_map.mp inside
    exact fun there => different (of_decide_eq_true there).2
  rw [List.filter_append, dropped, List.append_nil]

/-- The reply to a first message is the phrase, or a failure. -/
theorem reply_cases {parse : ParseFromArray Agent.Server.ID} {directory : AgentDirectory}
    {ec : ErrorCode} {buffer : Buffer} {key : String} {reply : Server.Phrase}
    (result : CoreServer.newSession parse directory ec buffer = some (key, reply)) :
    reply = .phrase "RandomlyGeneratedString" ∨ reply = .failure := by
  unfold CoreServer.newSession at result
  split at result
  · cases result
  · dsimp only at result
    split at result
    · cases result
      exact Or.inl rfl
    · cases result
      exact Or.inr rfl

/-- The handshake of one connection goes on, with what it sends. -/
theorem transcript_setStage
    (transcripts : ∀ other, Transcript (state.stage other) (state.handshakeOf other))
    {connection : SessionId} {messages : List (ServerMessage Double)} {stage : HandshakeStage}
    (here : Transcript (some stage) (state.handshakeOf connection ++ messages)) :
    ∀ other, Transcript
      (((state.send connection .handshake messages).setStage connection stage).stage other)
      ((state.send connection .handshake messages).handshakeOf other) := by
  intro other
  rw [setStage_stage, handshakeOf_send]
  by_cases same : other = connection
  · rw [if_pos same, if_pos same, same]
    exact here
  · rw [if_neg same, if_neg same]
    exact transcripts other

/-- It goes on without a send. -/
theorem transcript_setStage_unsent
    (transcripts : ∀ other, Transcript (state.stage other) (state.handshakeOf other))
    {connection : SessionId} {stage : HandshakeStage}
    (here : Transcript (some stage) (state.handshakeOf connection)) :
    ∀ other, Transcript ((state.setStage connection stage).stage other)
      (state.handshakeOf other) := by
  rw [← List.append_nil (state.handshakeOf connection)] at here
  have moved := @transcript_setStage _ state transcripts connection [] stage here
  rwa [send_nil] at moved

/-- Whatever step is taken, every connection keeps to its transcript. -/
theorem transcript_step
    (transcripts : ∀ other, Transcript (state.stage other) (state.handshakeOf other))
    (stepped : Stepped parsers state event next) :
    ∀ other, Transcript (next.stage other) (next.handshakeOf other) := by
  have at_stage : ∀ {connection : SessionId} {stage : Option HandshakeStage},
      state.stage connection = stage → Transcript stage (state.handshakeOf connection) :=
    fun {connection} {stage} there => there ▸ transcripts connection
  have envelope : ∀ session : SessionId, Cause.envelope session ≠ .handshake := by
    intro session same
    cases same
  have search : Cause.search ≠ .handshake := by
    intro same
    cases same
  cases stepped with
  | @accepted connection fresh =>
      have here := at_stage fresh
      apply transcript_setStage_unsent transcripts
      generalize state.handshakeOf connection = messages at here ⊢
      cases here
      exact .awaitId
  | @unidentified connection ec buffer waiting result =>
      have here := at_stage waiting
      apply transcript_setStage_unsent transcripts
      generalize state.handshakeOf connection = messages at here ⊢
      cases here
      exact .unread
  | @identified connection ec buffer key reply waiting result =>
      have here := at_stage waiting
      apply transcript_setStage_unsent transcripts
      generalize state.handshakeOf connection = messages at here ⊢
      cases here
      rcases reply_cases result with rfl | rfl
      · exact .free
      · exact .taken
  | @phraseSent connection key sent replying =>
      have here := at_stage replying
      apply transcript_setStage transcripts
      generalize state.handshakeOf connection = messages at here ⊢
      cases here
      exact .awaitAnswer
  | @failureSent connection key replying =>
      have here := at_stage replying
      apply transcript_setStage transcripts
      generalize state.handshakeOf connection = messages at here ⊢
      cases here
      exact .failure
  | @unanswered connection key ec buffer waiting failed =>
      have here := at_stage waiting
      apply transcript_setStage_unsent transcripts
      generalize state.handshakeOf connection = messages at here ⊢
      cases here
      exact .unanswered
  | @added connection key ec buffer waiting read free =>
      have here := at_stage waiting
      apply @transcript_setStage_unsent _ state transcripts
      generalize state.handshakeOf connection = messages at here ⊢
      cases here
      exact .added
  | @rejected connection key ec buffer waiting read taken =>
      have here := at_stage waiting
      apply @transcript_setStage_unsent _ state transcripts
      generalize state.handshakeOf connection = messages at here ⊢
      cases here
      exact .confirming
  | @started connection key reply there =>
      have here := at_stage there
      apply @transcript_setStage_unsent _ state transcripts
      generalize state.handshakeOf connection = messages at here ⊢
      cases here
      exact .confirming
  | @statusSent connection key added reply confirming =>
      have here := at_stage confirming
      apply transcript_setStage transcripts
      generalize state.handshakeOf connection = messages at here ⊢
      cases here
      cases added with
      | true => exact .confirmed
      | false => exact .rejected
  | ended | processed | requested | answering | forwarding | written => exact transcripts
  | @answerSent session answer =>
      intro other
      have same := @handshakeOf_send_other _ state _ (envelope session) session other
        [.agentMessage answer]
      exact same ▸ transcripts other
  | @forwarded session target message =>
      intro other
      have same := @handshakeOf_send_other _ state _ (envelope session) target other
        [.agentMessage message]
      exact same ▸ transcripts other
  | @searchAnswered session self continuation ec response =>
      intro other
      have same := @handshakeOf_send_other _ state _ search session other
        ((AgentSession.answered self continuation ec response).2.map .agentMessage)
      exact same ▸ transcripts other

/-! ### Everything else -/

/-- A session that was added stays so. -/
theorem Stepped.isAdmitted (stepped : Stepped parsers state event next) {connection : SessionId}
    (before : state.IsAdmitted connection) : next.IsAdmitted connection := by
  obtain ⟨key, stage, there, admitted⟩ := before
  have moved : ∀ {base : NodeState Double} {other : SessionId} {here after : HandshakeStage},
      base.stage = state.stage → state.stage other = some here →
        (Admitted key here → Admitted key after) →
          (base.setStage other after).IsAdmitted connection := by
    intro base other here after same current kept
    by_cases itself : connection = other
    · subst itself
      rw [there] at current
      cases current
      exact ⟨key, after, Function.update_self _ _ _, kept admitted⟩
    · refine ⟨key, stage, ?_, admitted⟩
      rw [setStage_stage, if_neg itself, same]
      exact there
  cases stepped with
  | @accepted other fresh =>
      refine ⟨key, stage, ?_, admitted⟩
      rw [setStage_stage, if_neg, there]
      rintro rfl
      rw [fresh] at there
      cases there
  | unidentified current | identified current | phraseSent current | failureSent current
    | unanswered current | added current | rejected current =>
      refine moved rfl current ?_
      intro wrong
      cases wrong
  | started current =>
      refine moved rfl current ?_
      intro admitted
      cases admitted
      exact .confirming
  | statusSent current =>
      refine moved rfl current ?_
      intro admitted
      cases admitted
      exact .confirmed
  | ended | processed | requested | answering | forwarding | answerSent | forwarded | written
    | searchAnswered => exact ⟨key, stage, there, admitted⟩

/-- A registered session was added. -/
theorem Sessions.isAdmitted (sessions : state.Sessions) {key : String} {session : SessionId}
    (registered : state.directory.lookup key = some session) : state.IsAdmitted session := by
  obtain ⟨stage, there, admitted⟩ := sessions.admitted key session registered
  exact ⟨key, stage, there, admitted⟩

/-- A session whose read loop runs was added. -/
theorem Sessions.isAdmitted_of_busy (sessions : state.Sessions) {session : SessionId}
    (busy : state.readLoop session ≠ .idle) : state.IsAdmitted session := by
  obtain ⟨key, registered⟩ := sessions.reading session busy
  exact sessions.isAdmitted registered

section Reaches

variable {connection other : SessionId}

theorem Reaches.of_same (reaches : next.Reaches other) (sent : next.sent = state.sent)
    (loops : next.readLoop = state.readLoop) (requests : next.requests = state.requests) :
    state.Reaches other := by
  cases reaches with
  | sent inside different => exact .sent (sent ▸ inside) different
  | forwarding loop => exact .forwarding (loops ▸ loop)
  | answering loop => exact .answering (loops ▸ loop)
  | request waiting => exact .request (requests ▸ waiting)

theorem Reaches.of_send {cause : Cause} {messages : List (ServerMessage Double)}
    (reaches : (state.send connection cause messages).Reaches other) :
    state.Reaches other ∨ cause ≠ .handshake ∧ other = connection := by
  cases reaches with
  | sent inside different =>
      rcases List.mem_append.mp inside with earlier | now
      · exact Or.inl (.sent earlier different)
      · obtain ⟨message, _, rfl⟩ := List.mem_map.mp now
        exact Or.inr ⟨different, rfl⟩
  | forwarding loop => exact Or.inl (.forwarding loop)
  | answering loop => exact Or.inl (.answering loop)
  | request waiting => exact Or.inl (.request waiting)

theorem Reaches.of_setReadLoop {readLoop : ReadLoop Double}
    (reaches : (state.setReadLoop connection readLoop).Reaches other) :
    state.Reaches other ∨
      (∃ message continuation, readLoop = .forwarding other message continuation) ∨
        other = connection ∧ ∃ answer, readLoop = .answering answer := by
  cases reaches with
  | sent inside different => exact Or.inl (.sent inside different)
  | @forwarding session _ message continuation loop =>
      rw [setReadLoop_readLoop] at loop
      split at loop
      · exact Or.inr (Or.inl ⟨message, continuation, loop⟩)
      · exact Or.inl (.forwarding loop)
  | answering loop =>
      rw [setReadLoop_readLoop] at loop
      split at loop
      · rename_i same
        exact Or.inr (Or.inr ⟨same, _, loop⟩)
      · exact Or.inl (.answering loop)
  | request waiting => exact Or.inl (.request waiting)

/-- A read loop that reads or ends has nothing to send. -/
theorem Reaches.of_quiet {readLoop : ReadLoop Double}
    (quiet : readLoop = .reading ∨ readLoop = .idle)
    (reaches : (state.setReadLoop connection readLoop).Reaches other) : state.Reaches other := by
  rcases reaches.of_setReadLoop with earlier | ⟨_, _, rfl⟩ | ⟨_, _, rfl⟩
  · exact earlier
  · rcases quiet with wrong | wrong <;> cases wrong
  · rcases quiet with wrong | wrong <;> cases wrong

end Reaches

/-- What is newly sent or to be sent goes to sessions that were added. -/
theorem Stepped.reaches_cases (stepped : Stepped parsers state event next)
    (sessions : state.Sessions) {other : SessionId} (reaches : next.Reaches other) :
    state.Reaches other ∨ state.IsAdmitted other := by
  cases stepped with
  | accepted | unidentified | identified | unanswered | added | rejected | processed | written =>
      exact Or.inl (reaches.of_same rfl rfl rfl)
  | phraseSent | failureSent | statusSent =>
      have sends : (state.send _ .handshake _).Reaches other := reaches.of_same rfl rfl rfl
      rcases sends.of_send with earlier | ⟨wrong, _⟩
      · exact Or.inl earlier
      · exact absurd rfl wrong
  | @started connection =>
      have loops : (state.setReadLoop connection .reading).Reaches other :=
        reaches.of_same rfl rfl rfl
      exact Or.inl (loops.of_quiet (Or.inl rfl))
  | ended => exact Or.inl ((reaches.of_quiet (Or.inr rfl)).of_same rfl rfl rfl)
  | @requested session self after ec buffer call continuation busy =>
      have added : state.IsAdmitted session := sessions.isAdmitted_of_busy (by
        rw [busy]
        intro idle
        cases idle)
      cases reaches with
      | sent inside different => exact Or.inl (.sent inside different)
      | forwarding loop => exact Or.inl (.forwarding loop)
      | answering loop => exact Or.inl (.answering loop)
      | request waiting =>
          rcases List.mem_append.mp waiting with earlier | now
          · exact Or.inl (.request earlier)
          · cases List.mem_singleton.mp now
            exact Or.inr added
  | answering busy =>
      rcases reaches.of_setReadLoop with earlier | ⟨_, _, wrong⟩ | ⟨rfl, _⟩
      · exact Or.inl (earlier.of_same rfl rfl rfl)
      · cases wrong
      · refine Or.inr (sessions.isAdmitted_of_busy ?_)
        rw [busy]
        intro idle
        cases idle
  | forwarding busy there read processing =>
      rcases reaches.of_setReadLoop with earlier | ⟨_, _, same⟩ | ⟨_, _, wrong⟩
      · exact Or.inl (earlier.of_same rfl rfl rfl)
      · cases same
        obtain ⟨_, _, registered, _⟩ := AgentSession.processEnvelope_forward processing
        exact Or.inr (sessions.isAdmitted registered)
      · cases wrong
  | @answerSent session answer busy =>
      rcases (reaches.of_quiet (Or.inl rfl)).of_send with earlier | ⟨_, rfl⟩
      · exact Or.inl earlier
      · exact Or.inl (.answering busy)
  | @forwarded session target message continuation loop =>
      have sends : (state.send target (.envelope session) [.agentMessage message]).Reaches other :=
        (reaches.of_quiet (Or.inl rfl)).of_same rfl rfl rfl
      rcases sends.of_send with earlier | ⟨_, rfl⟩
      · exact Or.inl earlier
      · exact Or.inl (.forwarding loop)
  | @searchAnswered session self continuation ec response there waiting =>
      rcases reaches.of_send with earlier | ⟨_, rfl⟩
      · cases earlier with
        | sent inside different => exact Or.inl (.sent inside different)
        | forwarding loop => exact Or.inl (.forwarding loop)
        | answering loop => exact Or.inl (.answering loop)
        | request later => exact Or.inl (.request (List.mem_of_mem_erase later))
      · exact Or.inl (.request waiting)

/-- **Agents see one of five handshakes.** In every state that is reached, what each
connection was sent for its handshake is what its stage allows: a phrase first, unless its key
was taken or its message could not be read, and then at most one status, which is positive for
a session that was added and negative for one that was not. Whatever else was or will be sent
to a connection, its session was added. -/
theorem run_transcript {events : List (NodeEvent Double)}
    (run : Run (NodeState.step parsers) initial events state) :
    (∀ connection, Transcript (state.stage connection) (state.handshakeOf connection)) ∧
      ∀ connection, state.Reaches connection → state.IsAdmitted connection := by
  refine run.traceInvariant (fun _ state =>
    (∀ connection, Transcript (state.stage connection) (state.handshakeOf connection)) ∧
      ∀ connection, state.Reaches connection → state.IsAdmitted connection) ?_ ?_
  · refine ⟨fun connection => .unaccepted, fun connection reaches => ?_⟩
    cases reaches with
    | sent inside => exact absurd inside List.not_mem_nil
    | forwarding loop => cases loop
    | answering loop => cases loop
    | request waiting => exact absurd waiting List.not_mem_nil
  · rintro events state event next run ⟨transcripts, reached⟩ _ taken
    have stepped := stepped_of_step taken
    refine ⟨transcript_step transcripts stepped, fun connection reaches => ?_⟩
    apply stepped.isAdmitted
    rcases stepped.reaches_cases (run_sessions run) reaches with earlier | added
    · exact reached connection earlier
    · exact added

/-- "b" was sent its phrase and its status. -/
theorem run_transcript_status : Transcript (some (.confirmed "b")) (afterStatus.handshakeOf 1) := by
  have executed : execute (NodeState.step shortParsers) initial
      (connectBoth ++ [.handshake 1, .handshake 1]) = some afterStatus := rfl
  exact (run_transcript (run_of_execute executed)).1 1

end NodeState

end OefCore
