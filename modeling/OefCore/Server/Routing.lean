import OefCore.Server.StatusFirst

/-! # Messages reach the session of their destination

An `Agent.Message` that is processed leads to exactly one send: to the session that is
registered under its destination, with the key of the sender as origin, or back to the
sender as a dialogue error. No other session is sent anything for it, whatever the
handlers of other connections do in between (`OefCore.NodeState.SentOnce`), and every
message with an origin was sent by the session that was registered under it
(`OefCore.NodeState.SentBy`). `OefCore.NodeState.run_routing` says so of every run.
-/

namespace OefCore

variable {Double : Type}

namespace NodeState

/-- What was sent for envelopes of a session, in order. -/
def sentFor (state : NodeState Double) (session : SessionId) : List (Sent Double) :=
  state.sent.filter fun sent => sent.cause = .envelope session

/-- The session has read an envelope. Whatever happens, nothing is sent for it until
the session goes on, which it can do at any time; then one message is sent, and no
other before the session reads again. -/
def SentOnce (parsers : NodeParsers Double) (state : NodeState Double) (session : SessionId)
    (entry : Sent Double) : Prop :=
  ∀ between after, Run (step parsers) state between after → .deliver session ∉ between →
    after.sentFor session = state.sentFor session ∧
    ∃ last, step parsers after (.deliver session) = some last ∧ last.sent = after.sent ++ [entry] ∧
      ∀ later final, Run (step parsers) last later final →
        (∀ ec buffer, .read session ec buffer ∉ later) →
          final.sentFor session = last.sentFor session

/-- The message is in an envelope that the session has read while it was registered
under the origin and the target under the destination. -/
inductive SentBy (parsers : NodeParsers Double) (events : List (NodeEvent Double))
    (session target : SessionId) : Server.AgentMessage Double → Prop where
  | intro {earlier later : List (NodeEvent Double)} {before : NodeState Double} {ec : ErrorCode}
      {buffer : Buffer} {origin : String} {msgId : Int32} {message : Agent.Message Double}
      (whole : events = earlier ++ .read session ec buffer :: later)
      (run : Run (step parsers) initial earlier before)
      (registered : before.directory.lookup origin = some session) (read : ec.failed = false)
      (envelope : Pbs.deserialize parsers.envelope buffer =
        { msgId, payload := .sendMessage message })
      (found : before.directory.lookup message.destination = some target) :
      SentBy parsers events session target
        (AgentSession.forwardedMessage origin msgId message)

variable {parsers : NodeParsers Double} {state next : NodeState Double} {event : NodeEvent Double}
  {session : SessionId}

/-! ### Exactly one send -/

/-- What is sent for anything else does not count. -/
theorem sentFor_send {connection : SessionId} {cause : Cause} (other : cause ≠ .envelope session)
    {messages : List (ServerMessage Double)}
    (sent : next.sent = (state.send connection cause messages).sent) :
    next.sentFor session = state.sentFor session := by
  unfold sentFor
  have dropped : (messages.map fun message => (⟨connection, cause, message⟩ : Sent Double)).filter
      (fun sent => decide (sent.cause = .envelope session)) = [] := by
    apply List.filter_eq_nil_iff.mpr
    intro sent member
    obtain ⟨message, _, rfl⟩ := List.mem_map.mp member
    exact fun there => other (of_decide_eq_true there)
  rw [sent, send, List.filter_append, dropped, List.append_nil]

/-- Only a session itself sends for its envelopes. -/
theorem Stepped.sentFor_eq (stepped : Stepped parsers state event next)
    (undelivered : event ≠ .deliver session) : next.sentFor session = state.sentFor session := by
  have handshake : Cause.handshake ≠ .envelope session := nofun
  have search : Cause.search ≠ .envelope session := nofun
  have envelope : ∀ {other : SessionId}, event = .deliver other →
      Cause.envelope other ≠ .envelope session := by
    intro other delivered same
    cases same
    exact undelivered delivered
  cases stepped with
  | accepted | unidentified | identified | unanswered | added | rejected | started | ended
    | processed | requested | answering | forwarding | written => rfl
  | phraseSent | failureSent | statusSent => exact sentFor_send handshake rfl
  | searchAnswered => exact sentFor_send search rfl
  | answerSent | forwarded => exact sentFor_send (envelope rfl) rfl

/-- Only a session itself moves its read loop, once it is started. -/
theorem Stepped.readLoop_eq (stepped : Stepped parsers state event next)
    (sessions : state.Sessions) (busy : state.readLoop session ≠ .idle)
    (unread : ∀ ec buffer, event ≠ .read session ec buffer)
    (undelivered : event ≠ .deliver session) :
    next.readLoop session = state.readLoop session := by
  have unmoved : ∀ {other : SessionId} (readLoop : ReadLoop Double), session ≠ other →
      (state.setReadLoop other readLoop).readLoop session = state.readLoop session := by
    intro other readLoop different
    rw [setReadLoop_readLoop, if_neg different]
  cases stepped with
  | accepted | unidentified | identified | phraseSent | failureSent | unanswered | added | rejected
    | statusSent | processed | requested | written | searchAnswered => rfl
  | started there =>
      apply unmoved
      rintro rfl
      exact busy (sessions.added _ _ _ there).2
  | ended | answering | forwarding =>
      apply unmoved
      rintro rfl
      exact unread _ _ rfl
  | answerSent | forwarded =>
      apply unmoved
      rintro rfl
      exact undelivered rfl

/-- A session reads when it has nothing to send. -/
theorem Stepped.reading {ec : ErrorCode} {buffer : Buffer}
    (stepped : Stepped parsers state (.read session ec buffer) next) :
    state.readLoop session = .reading := by
  cases stepped with
  | ended reading | processed reading | requested reading | answering reading
    | forwarding reading => exact reading

/-- It sends when it does not read. -/
theorem Stepped.not_reading (stepped : Stepped parsers state (.deliver session) next) :
    state.readLoop session ≠ .reading := by
  intro reading
  cases stepped with
  | answerSent answering => cases reading.symm.trans answering
  | forwarded forwarding => cases reading.symm.trans forwarding

/-- As long as a session neither reads nor sends, its read loop stays where it is, and
nothing is sent for its envelopes. -/
theorem run_unmoved {events : List (NodeEvent Double)} {final : NodeState Double}
    (run : Run (step parsers) state events final) (sessions : state.Sessions)
    (busy : state.readLoop session ≠ .idle)
    (waits : (state.readLoop session = .reading ∧
        ∀ ec buffer, NodeEvent.read session ec buffer ∉ events) ∨
      (state.readLoop session ≠ .reading ∧ .deliver session ∉ events)) :
    final.Sessions ∧ final.readLoop session = state.readLoop session ∧
      final.sentFor session = state.sentFor session := by
  induction run with
  | nil => exact ⟨sessions, rfl, rfl⟩
  | @snoc events before final event _ _ taken ih =>
      have stepped := stepped_of_step taken
      obtain ⟨sessions, loop, sent⟩ := ih (waits.imp
        (fun ⟨reading, unread⟩ => ⟨reading, fun ec buffer member =>
          unread ec buffer (List.mem_append_left _ member)⟩)
        fun ⟨sending, undelivered⟩ => ⟨sending, fun member =>
          undelivered (List.mem_append_left _ member)⟩)
      have unread : ∀ ec buffer, event ≠ .read session ec buffer := by
        rintro ec buffer rfl
        rcases waits with ⟨_, unread⟩ | ⟨sending, _⟩
        · exact unread ec buffer (List.mem_append_right _ (List.mem_singleton_self _))
        · exact sending (loop ▸ stepped.reading)
      have undelivered : event ≠ .deliver session := by
        rintro rfl
        rcases waits with ⟨reading, _⟩ | ⟨_, undelivered⟩
        · exact stepped.not_reading (loop.trans reading)
        · exact undelivered (List.mem_append_right _ (List.mem_singleton_self _))
      exact ⟨sessions.step stepped,
        (stepped.readLoop_eq sessions (loop ▸ busy) unread undelivered).trans loop,
        (stepped.sentFor_eq undelivered).trans sent⟩

/-- A session that has something to send sends it once. -/
theorem sentOnce_of_sending (sessions : state.Sessions) {readLoop : ReadLoop Double}
    (there : state.readLoop session = readLoop) (busy : readLoop ≠ .idle)
    (sending : readLoop ≠ .reading) {entry : Sent Double}
    (delivers : ∀ after : NodeState Double, after.readLoop session = readLoop →
      ∃ last, step parsers after (.deliver session) = some last ∧
        last.sent = after.sent ++ [entry] ∧ last.readLoop session = .reading) :
    SentOnce parsers state session entry := by
  intro between after run undelivered
  obtain ⟨kept, loop, sent⟩ := run_unmoved run sessions (there ▸ busy)
    (Or.inr ⟨there ▸ sending, undelivered⟩)
  obtain ⟨last, taken, delivered, reading⟩ := delivers after (loop.trans there)
  refine ⟨sent, last, taken, delivered, fun later final rest unread => ?_⟩
  have busy : last.readLoop session ≠ .idle := reading ▸ nofun
  exact (run_unmoved rest (kept.step (stepped_of_step taken)) busy
    (Or.inl ⟨reading, unread⟩)).2.2

theorem sentOnce_of_forwarding (sessions : state.Sessions) {target : SessionId}
    {message : Server.AgentMessage Double} {continuation : MessageContinuation}
    (forwarding : state.readLoop session = .forwarding target message continuation) :
    SentOnce parsers state session ⟨target, .envelope session, .agentMessage message⟩ := by
  apply sentOnce_of_sending sessions forwarding nofun nofun
  intro after there
  exact ⟨_, stepDeliver_of_forwarding there, rfl, Function.update_self ..⟩

theorem sentOnce_of_answering (sessions : state.Sessions) {answer : Server.AgentMessage Double}
    (answering : state.readLoop session = .answering answer) :
    SentOnce parsers state session ⟨session, .envelope session, .agentMessage answer⟩ := by
  apply sentOnce_of_sending sessions answering nofun nofun
  intro after there
  exact ⟨_, stepDeliver_of_answering there, rfl, Function.update_self ..⟩

/-- A read sends nothing. -/
theorem Stepped.sent_eq {ec : ErrorCode} {buffer : Buffer}
    (stepped : Stepped parsers state (.read session ec buffer) next) : next.sent = state.sent := by
  cases stepped with
  | ended | processed | requested | answering | forwarding => rfl

section Route

variable {key : String} {ec : ErrorCode} {buffer : Buffer} {msgId : Int32}
  {message : Agent.Message Double}

/-- A message for a registered session. -/
theorem Sessions.route_registered (sessions : state.Sessions)
    (registered : state.directory.lookup key = some session) (read : ec.failed = false)
    (envelope : Pbs.deserialize parsers.envelope buffer =
      { msgId, payload := .sendMessage message })
    (taken : NodeState.step parsers state (.read session ec buffer) = some next)
    {target : SessionId}
    (destination : state.directory.lookup message.destination = some target) :
    SentOnce parsers next session ⟨target, .envelope session,
      .agentMessage (AgentSession.forwardedMessage key msgId message)⟩ := by
  have kept := sessions.step (stepped_of_step taken)
  obtain ⟨self, there, own⟩ := sessions.own key session registered
  have processing := AgentSession.processEnvelope_registered _ self msgId message destination
  rw [← envelope, own] at processing
  have forwarded := stepRead_of_forward (stepped_of_step taken).reading there read processing
  cases taken.symm.trans forwarded
  exact sentOnce_of_forwarding kept (Function.update_self ..)

/-- A message for a key under which no session is registered. -/
theorem Sessions.route_unregistered (sessions : state.Sessions)
    (registered : state.directory.lookup key = some session) (read : ec.failed = false)
    (envelope : Pbs.deserialize parsers.envelope buffer =
      { msgId, payload := .sendMessage message })
    (taken : NodeState.step parsers state (.read session ec buffer) = some next)
    (missing : state.directory.lookup message.destination = none) :
    SentOnce parsers next session ⟨session, .envelope session,
      .agentMessage (AgentSession.dialogueErrorFor msgId message)⟩ := by
  have kept := sessions.step (stepped_of_step taken)
  obtain ⟨self, there, _⟩ := sessions.own key session registered
  have processing := AgentSession.processEnvelope_unregistered _ self msgId message missing
  rw [← envelope] at processing
  have answered := stepRead_of_send (stepped_of_step taken).reading there read processing
  cases taken.symm.trans answered
  exact sentOnce_of_answering kept (Function.update_self ..)

end Route

/-! ### The origin of what is sent -/

/-- If the message has an origin, it was sent for an envelope of the session that was
registered under it. -/
def Justified (parsers : NodeParsers Double) (events : List (NodeEvent Double))
    (entry : Sent Double) : Prop :=
  ∀ answerId content, entry.message = .agentMessage ⟨answerId, .content content⟩ →
    ∃ session, entry.cause = .envelope session ∧
      SentBy parsers events session entry.connection ⟨answerId, .content content⟩

/-- The same for what a read loop has to send. -/
def LoopJustified (parsers : NodeParsers Double) (events : List (NodeEvent Double))
    (session : SessionId) : ReadLoop Double → Prop
  | .forwarding target message _ => SentBy parsers events session target message
  | .answering answer => ∀ content, answer.payload ≠ .content content
  | _ => True

structure Origins (parsers : NodeParsers Double) (events : List (NodeEvent Double))
    (state : NodeState Double) : Prop where
  sent : ∀ entry ∈ state.sent, Justified parsers events entry
  loops : ∀ session, LoopJustified parsers events session (state.readLoop session)

variable {events : List (NodeEvent Double)}

theorem SentBy.snoc {target : SessionId} {message : Server.AgentMessage Double}
    (sentBy : SentBy parsers events session target message) (event : NodeEvent Double) :
    SentBy parsers (events ++ [event]) session target message := by
  obtain @⟨earlier, later, _, ec, buffer, _, _, _, whole, run, registered, read, envelope, found⟩ :=
    sentBy
  have longer : events ++ [event] = earlier ++ .read session ec buffer :: (later ++ [event]) := by
    rw [whole, List.append_assoc, List.cons_append]
  exact .intro longer run registered read envelope found

theorem Origins.snoc (origins : Origins parsers events state) (event : NodeEvent Double) :
    Origins parsers (events ++ [event]) state where
  sent entry member answerId content same := by
    obtain ⟨session, cause, sentBy⟩ := origins.sent entry member answerId content same
    exact ⟨session, cause, sentBy.snoc event⟩
  loops session := by
    have before := origins.loops session
    cases there : state.readLoop session with
    | idle | reading => trivial
    | answering answer =>
        rw [there] at before
        exact before
    | forwarding target message continuation =>
        rw [there] at before
        exact before.snoc event

/-- More is sent. -/
theorem Origins.send (origins : Origins parsers events state) {connection : SessionId}
    {cause : Cause} {messages : List (ServerMessage Double)}
    (justified : ∀ message ∈ messages, Justified parsers events ⟨connection, cause, message⟩) :
    Origins parsers events (state.send connection cause messages) where
  sent entry member := by
    rcases List.mem_append.mp member with before | now
    · exact origins.sent entry before
    · obtain ⟨message, listed, rfl⟩ := List.mem_map.mp now
      exact justified message listed
  loops := origins.loops

theorem Origins.setReadLoop (origins : Origins parsers events state) {readLoop : ReadLoop Double}
    (justified : LoopJustified parsers events session readLoop) :
    Origins parsers events (state.setReadLoop session readLoop) where
  sent := origins.sent
  loops other := by
    rw [setReadLoop_readLoop]
    split
    · rename_i same
      subst same
      exact justified
    · exact origins.loops other

/-- A session reads. -/
theorem Origins.setReading (origins : Origins parsers events state) (session : SessionId) :
    Origins parsers events (state.setReadLoop session .reading) := by
  have nothing : LoopJustified parsers events session .reading := trivial
  exact origins.setReadLoop nothing

/-- The continuation of a request sends nothing with an origin. -/
theorem answered_not_content (self : AgentSession Double) (continuation : SessionContinuation)
    (ec : ErrorCode) (response : OefSearchResponse Double) :
    ∀ answer ∈ (AgentSession.answered self continuation ec response).2,
      ∀ content, answer.payload ≠ .content content := by
  obtain ⟨operation, msgId⟩ := continuation
  intro answer member content
  cases operation with
  | registerDescription | unregisterDescription | registerService | unregisterService =>
      change answer ∈ AgentSession.registrationAnswered msgId _ ec at member
      unfold AgentSession.registrationAnswered at member
      split at member
      · cases List.mem_singleton.mp member
        exact nofun
      · cases member
  | searchAgents | searchService | searchServiceWide =>
      change answer ∈ AgentSession.searchAnswered msgId _ ec at member
      unfold AgentSession.searchAnswered at member
      split at member
      · cases List.mem_singleton.mp member
        exact nofun
      · cases List.mem_singleton.mp member
        exact nofun

/-- A handshake sends nothing with an origin. -/
theorem Origins.sendHandshake (origins : Origins parsers events state) {connection : SessionId}
    {message : ServerMessage Double} (other : ∀ answer, message ≠ .agentMessage answer) :
    Origins parsers events (state.send connection .handshake [message]) := by
  apply origins.send
  intro sent member answerId content same
  cases List.mem_singleton.mp member
  exact absurd same (other _)

/-- Answers have no origin. -/
theorem justified_of_answer {connection : SessionId} {cause : Cause}
    {answer : Server.AgentMessage Double} (other : ∀ content, answer.payload ≠ .content content) :
    Justified parsers events ⟨connection, cause, .agentMessage answer⟩ := by
  intro answerId content same
  cases same
  exact absurd rfl (other content)

/-- One step keeps the origins of everything that was sent. -/
theorem Origins.step (origins : Origins parsers events state)
    (run : Run (NodeState.step parsers) initial events state)
    (stepped : Stepped parsers state event next) :
    Origins parsers (events ++ [event]) next := by
  have kept := origins.snoc event
  have sessions := run_sessions run
  cases stepped with
  | accepted | unidentified | identified | unanswered | added | rejected | processed | requested
    | written => exact ⟨kept.sent, kept.loops⟩
  | @phraseSent connection publicKey phrase _ =>
      have sent := @Origins.sendHandshake _ _ _ _ kept connection (.phrase (.phrase phrase))
        fun _ => nofun
      exact ⟨sent.sent, sent.loops⟩
  | @failureSent connection publicKey _ =>
      have sent := @Origins.sendHandshake _ _ _ _ kept connection (.phrase .failure) fun _ => nofun
      exact ⟨sent.sent, sent.loops⟩
  | @statusSent connection publicKey added reply _ =>
      have sent := @Origins.sendHandshake _ _ _ _ kept connection (.connected reply)
        fun _ => nofun
      exact ⟨sent.sent, sent.loops⟩
  | @started connection publicKey reply _ =>
      exact ⟨kept.sent, (kept.setReading connection).loops⟩
  | @ended session self ec buffer _ _ _ =>
      have idle : LoopJustified parsers (events ++ [.read session ec buffer]) session .idle :=
        trivial
      exact ⟨kept.sent, (kept.setReadLoop idle).loops⟩
  | @answering session self after ec buffer answer reading there read processing =>
      obtain ⟨message, _, rfl⟩ := AgentSession.processEnvelope_send processing
      have answering : LoopJustified parsers (events ++ [.read session ec buffer]) session
        (.answering (AgentSession.dialogueErrorFor
          (Pbs.deserialize parsers.envelope buffer).msgId message)) := fun _ => nofun
      exact ⟨kept.sent, (kept.setReadLoop answering).loops⟩
  | @forwarding session target self after ec buffer message continuation reading there read
      processing =>
      obtain ⟨message, payload, found, rfl⟩ := AgentSession.processEnvelope_forward processing
      have registered := sessions.registered_of_busy (reading ▸ nofun) there
      have envelope : Pbs.deserialize parsers.envelope buffer =
          ⟨(Pbs.deserialize parsers.envelope buffer).msgId, .sendMessage message⟩ := by
        rw [← payload]
      have forwarding : LoopJustified parsers (events ++ [.read session ec buffer]) session
        (.forwarding target _ continuation) :=
          SentBy.intro rfl run registered read envelope found
      exact ⟨kept.sent, (kept.setReadLoop forwarding).loops⟩
  | @answerSent session answer answering =>
      have unmarked : ∀ content, answer.payload ≠ .content content := by
        have loop := kept.loops session
        rw [answering] at loop
        exact loop
      have sent := @Origins.send _ _ _ _ kept session (.envelope session) [.agentMessage answer]
        (List.forall_mem_singleton.mpr (justified_of_answer unmarked))
      exact ⟨sent.sent, (sent.setReading session).loops⟩
  | @forwarded session target message continuation forwarding =>
      have sentBy : SentBy parsers (events ++ [.deliver session]) session target message := by
        have loop := kept.loops session
        rw [forwarding] at loop
        exact loop
      have sent := @Origins.send _ _ _ _ kept target (.envelope session) [.agentMessage message]
        (List.forall_mem_singleton.mpr fun answerId content same => by
          cases same
          exact ⟨session, rfl, sentBy⟩)
      exact ⟨sent.sent, (sent.setReading session).loops⟩
  | @searchAnswered session self continuation ec response there waiting =>
      have sent := @Origins.send _ _ _ _ kept session .search
        ((AgentSession.answered self continuation ec response).2.map .agentMessage) (by
          intro message member
          obtain ⟨answer, listed, rfl⟩ := List.mem_map.mp member
          exact justified_of_answer (answered_not_content self continuation ec response answer
            listed))
      exact ⟨sent.sent, sent.loops⟩

theorem run_origins (run : Run (NodeState.step parsers) initial events state) :
    Origins parsers events state := by
  apply run.traceInvariant (Origins parsers)
  · exact ⟨nofun, fun _ => trivial⟩
  · intro events state event next run origins _ taken
    exact origins.step run (stepped_of_step taken)

/-- **Messages reach the session of their destination**, and no other. When a
registered session reads a message, the session that is registered under its
destination is sent it once, with the same ids and payload and the key of the sender as
origin; without one the sender is sent a dialogue error, and nobody else anything.
Whatever message with an origin was sent, the session that was registered under the
origin has read it. -/
theorem run_routing (run : Run (NodeState.step parsers) initial events state) :
    (∀ key session ec buffer msgId message next,
      state.directory.lookup key = some session → ec.failed = false →
      Pbs.deserialize parsers.envelope buffer = { msgId, payload := .sendMessage message } →
      NodeState.step parsers state (.read session ec buffer) = some next →
        next.sent = state.sent ∧
        (∀ target, state.directory.lookup message.destination = some target →
          SentOnce parsers next session ⟨target, .envelope session,
            .agentMessage (AgentSession.forwardedMessage key msgId message)⟩) ∧
        (state.directory.lookup message.destination = none →
          SentOnce parsers next session ⟨session, .envelope session,
            .agentMessage (AgentSession.dialogueErrorFor msgId message)⟩)) ∧
    ∀ entry ∈ state.sent, Justified parsers events entry := by
  have sessions := run_sessions run
  refine ⟨?_, (run_origins run).sent⟩
  intro key session ec buffer msgId message next registered read envelope taken
  exact ⟨(stepped_of_step taken).sent_eq,
    fun target => sessions.route_registered registered read envelope taken,
    sessions.route_unregistered registered read envelope taken⟩

/-- "a" has read a message to "b", and both are connected. -/
def afterRead : NodeState Int :=
  (NodeState.step shortParsers afterStatus
    (.read 0 .success [0x08, 0x01, 0x12, 0x05, 0x08, 0x02, 0x12, 0x01, 0x62])).getD initial

/-- It is sent to "b" once. -/
theorem run_routing_message :
    SentOnce shortParsers afterRead 0 ⟨1, .envelope 0, .agentMessage {
      answerId := 1
      payload := .content { dialogueId := 2, origin := "a", payload := .payloadNotSet } }⟩ := by
  have executed : execute (NodeState.step shortParsers) initial
      (connectBoth ++ [.handshake 1, .handshake 1]) = some afterStatus := rfl
  have taken : NodeState.step shortParsers afterStatus
      (.read 0 .success [0x08, 0x01, 0x12, 0x05, 0x08, 0x02, 0x12, 0x01, 0x62]) =
        some afterRead := rfl
  obtain ⟨routes, _⟩ := run_routing (run_of_execute executed)
  exact (routes "a" 0 .success _ 1 ⟨2, "b", .payloadNotSet⟩ afterRead rfl rfl rfl taken).2.1 1 rfl

end NodeState

end OefCore
