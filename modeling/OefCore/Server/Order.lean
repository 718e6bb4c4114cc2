import OefCore.Server.Routing

/-! # Messages keep their order

A session reads its next envelope when the send for the one before it was started. So
whatever the handlers of other connections do in between, what was sent for the
envelopes of a session is one message for every `Agent.Message` that it read, in the
order in which they were read, each to the session that was registered under the
destination when it was read. `OefCore.NodeState.run_inOrder` says so of every run: no
message is lost, doubled or overtaken by a later one of the same sender.
-/

namespace OefCore

variable {Double : Type}

namespace NodeState

/-- What is sent for an envelope of a session that is registered under a key. -/
def routeEnvelope (directory : AgentDirectory) (session : SessionId) (key : String)
    (envelope : Envelope Double) : List (Sent Double) :=
  match envelope.payload with
  | .sendMessage message =>
      match directory.session message.destination with
      | some target => [⟨target, .envelope session,
          .agentMessage (AgentSession.forwardedMessage key envelope.msgId message)⟩]
      | none => [⟨session, .envelope session,
          .agentMessage (AgentSession.dialogueErrorFor envelope.msgId message)⟩]
  | _ => []

/-- What is sent for the envelope that a session reads with an event, by the directory
at that time. -/
def route (parsers : NodeParsers Double) (session : SessionId) (key : String)
    (state : NodeState Double) : NodeEvent Double → List (Sent Double)
  | .read reader ec buffer =>
      if reader = session ∧ ec.failed = false then
        routeEnvelope state.directory session key (Pbs.deserialize parsers.envelope buffer)
      else []
  | _ => []

/-- The envelope is a message to another agent. -/
def forAgent (envelope : Envelope Double) : Bool :=
  match envelope.payload with
  | .sendMessage _ => true
  | _ => false

/-- The session reads a message to another agent. -/
def readsMessage (parsers : NodeParsers Double) (session : SessionId) : NodeEvent Double → Bool
  | .read reader ec buffer =>
      reader == session && !ec.failed && forAgent (Pbs.deserialize parsers.envelope buffer)
  | _ => false

/-- The send that a read loop has to start. -/
def unsent (session : SessionId) : ReadLoop Double → List (Sent Double)
  | .answering answer => [⟨session, .envelope session, .agentMessage answer⟩]
  | .forwarding target message _ => [⟨target, .envelope session, .agentMessage message⟩]
  | _ => []

@[simp] theorem unsent_reading (session : SessionId) :
    unsent session (.reading : ReadLoop Double) = [] := rfl

/-- What was sent for envelopes of a session, and what is about to be sent. -/
def settled (state : NodeState Double) (session : SessionId) : List (Sent Double) :=
  state.sentFor session ++ unsent session (state.readLoop session)

variable {parsers : NodeParsers Double} {state next : NodeState Double} {event : NodeEvent Double}
  {session : SessionId} {key : String}

/-! ### Sessions and their keys -/

/-- The handshake has got to the construction of the session. -/
inductive Begun : HandshakeStage → Prop where
  | added {publicKey : String} {reply : Server.Connected} : Begun (.added publicKey reply)
  | confirming {publicKey : String} {added : Bool} {reply : Server.Connected} :
      Begun (.confirming publicKey added reply)
  | confirmed {publicKey : String} : Begun (.confirmed publicKey)
  | closed : Begun .closed

theorem not_begun_awaitAnswer {publicKey : String} : ¬ Begun (.awaitAnswer publicKey) := by
  intro begun
  cases begun

/-- A connection has a session only when its handshake has got that far. -/
def Constructed (state : NodeState Double) : Prop :=
  ∀ connection, state.session connection ≠ none →
    ∃ stage, state.stage connection = some stage ∧ Begun stage

/-- A connection whose handshake is not that far has no session. -/
theorem Constructed.session_eq_none (constructed : state.Constructed) {stage : HandshakeStage}
    (there : state.stage session = some stage) (unbegun : ¬ Begun stage) :
    state.session session = none := by
  by_contra present
  obtain ⟨other, here, begun⟩ := constructed session present
  rw [there] at here
  cases here
  exact unbegun begun

/-- A handshake goes on to where it may have a session. -/
theorem Constructed.setStage (constructed : state.Constructed) {connection : SessionId}
    {stage : HandshakeStage}
    (kept : state.session connection ≠ none → Begun stage) :
    (state.setStage connection stage).Constructed := by
  intro other present
  rw [setStage_stage]
  split
  · rename_i same
    subst same
    exact ⟨stage, rfl, kept present⟩
  · exact constructed other present

theorem Constructed.setSession (constructed : state.Constructed) {connection : SessionId}
    {self : AgentSession Double} (present : state.session connection ≠ none) :
    (state.setSession connection self).Constructed := by
  intro other there
  rw [setSession_session] at there
  split at there
  · rename_i same
    exact constructed other (same ▸ present)
  · exact constructed other there

/-- A session is constructed with the stage of its handshake. -/
theorem Constructed.construct (constructed : state.Constructed) {connection : SessionId}
    {self : AgentSession Double} {stage : HandshakeStage} (begun : Begun stage) :
    ((state.setSession connection self).setStage connection stage).Constructed := by
  intro other there
  rw [setStage_stage]
  split
  · exact ⟨stage, rfl, begun⟩
  · rename_i different
    change (state.setSession connection self).session other ≠ none at there
    rw [setSession_session, if_neg different] at there
    exact constructed other there

theorem Constructed.step (constructed : state.Constructed)
    (stepped : Stepped parsers state event next) : next.Constructed := by
  have absent : ∀ {connection : SessionId} {stage : HandshakeStage},
      state.stage connection = some stage → ¬ Begun stage → ∀ {after : HandshakeStage},
        state.session connection ≠ none → Begun after :=
    fun there unbegun _ present => absurd (constructed.session_eq_none there unbegun) present
  have present : ∀ {session : SessionId} {self : AgentSession Double},
      state.session session = some self → state.session session ≠ none :=
    fun there => there ▸ Option.some_ne_none _
  cases stepped with
  | @accepted connection fresh =>
      apply constructed.setStage
      intro there
      obtain ⟨stage, here, _⟩ := constructed connection there
      rw [fresh] at here
      cases here
  | unidentified waiting | identified waiting =>
      exact constructed.setStage (absent waiting nofun)
  | phraseSent replying | failureSent replying =>
      exact Constructed.setStage constructed (absent replying nofun)
  | unanswered => exact constructed.setStage fun _ => .closed
  | added =>
      have constructed : ({ state with directory := _ } : NodeState Double).Constructed :=
        constructed
      exact constructed.construct .added
  | rejected => exact constructed.construct .confirming
  | started => exact Constructed.setStage constructed fun _ => .confirming
  | @statusSent connection publicKey added reply =>
      refine Constructed.setStage constructed fun _ => ?_
      cases added with
      | true => exact .confirmed
      | false => exact .closed
  | ended | answerSent | forwarded | written => exact constructed
  | processed _ there | requested _ there | answering _ there | forwarding _ there =>
      exact constructed.setSession (present there)
  | @searchAnswered session _ _ _ _ there => exact constructed.setSession (present there)

theorem run_constructed {condition : NodeState Double → NodeEvent Double → Prop}
    {events : List (NodeEvent Double)}
    (run : RunWithin condition (NodeState.step parsers) initial events state) :
    state.Constructed :=
  run.invariant Constructed (fun _ there => absurd rfl there) fun _ _ _ constructed _ taken =>
    constructed.step (stepped_of_step taken)

/-- A session keeps its key. -/
theorem Stepped.session_publicKey (stepped : Stepped parsers state event next)
    (constructed : state.Constructed) {self : AgentSession Double}
    (there : state.session session = some self) :
    ∃ after, next.session session = some after ∧ after.publicKey = self.publicKey := by
  have kept : ∃ after, state.session session = some after ∧ after.publicKey = self.publicKey :=
    ⟨self, there, rfl⟩
  have changed : ∀ {other : SessionId} {before after : AgentSession Double},
      state.session other = some before → after.publicKey = before.publicKey →
        ∃ last, (state.setSession other after).session session = some last ∧
          last.publicKey = self.publicKey := by
    intro other before after found same
    rw [setSession_session]
    split
    · rename_i here
      subst here
      rw [there] at found
      cases found
      exact ⟨after, rfl, same⟩
    · exact kept
  have fresh : ∀ {other : SessionId} {publicKey : String} {after : AgentSession Double},
      state.stage other = some (.awaitAnswer publicKey) →
        ∃ last, (state.setSession other after).session session = some last ∧
          last.publicKey = self.publicKey := by
    intro other publicKey after waiting
    rw [setSession_session, if_neg]
    · exact kept
    · rintro rfl
      rw [constructed.session_eq_none waiting not_begun_awaitAnswer] at there
      cases there
  have processing : ∀ {before after : AgentSession Double} {buffer : Buffer}
      {action : SessionAction Double},
      AgentSession.process parsers.envelope state.directory before buffer = (after, action) →
        after.publicKey = before.publicKey := by
    intro before after buffer action result
    have same := AgentSession.processEnvelope_publicKey state.directory before
      (Pbs.deserialize parsers.envelope buffer)
    rwa [show AgentSession.processEnvelope _ _ _ = _ from result] at same
  cases stepped with
  | accepted | unidentified | identified | phraseSent | failureSent | unanswered | started
    | statusSent | ended | answerSent | forwarded | written => exact kept
  | added waiting | rejected waiting => exact fresh waiting
  | processed _ found _ result | requested _ found _ result | answering _ found _ result
    | forwarding _ found _ result => exact changed found (processing result)
  | searchAnswered found => exact changed found (AgentSession.answered_publicKey _ _ _ _)

/-- A key that is that of a session after a step was its key before. -/
theorem Stepped.own_before (stepped : Stepped parsers state event next)
    (constructed : state.Constructed)
    (own : ∀ self, next.session session = some self → self.publicKey = key) :
    ∀ self, state.session session = some self → self.publicKey = key := by
  intro self there
  obtain ⟨after, here, same⟩ := stepped.session_publicKey constructed there
  exact same.symm.trans (own after here)

/-! ### One envelope after the other -/

/-- What an action of a session has it send. -/
def actionSends (session : SessionId) : SessionAction Double → List (Sent Double)
  | .send answer => [⟨session, .envelope session, .agentMessage answer⟩]
  | .forward target message _ => [⟨target, .envelope session, .agentMessage message⟩]
  | _ => []

/-- A session sends what its envelope is routed to. -/
theorem actionSends_process {self after : AgentSession Double} {directory : AgentDirectory}
    {buffer : Buffer} {action : SessionAction Double}
    (processing : AgentSession.process parsers.envelope directory self buffer = (after, action)) :
    actionSends session action = routeEnvelope directory session self.publicKey
      (Pbs.deserialize parsers.envelope buffer) := by
  rw [show action = (AgentSession.processEnvelope directory self
    (Pbs.deserialize parsers.envelope buffer)).2 from (congrArg Prod.snd processing).symm]
  obtain ⟨msgId, payload⟩ := Pbs.deserialize parsers.envelope buffer
  cases payload with
  | sendMessage message =>
      dsimp only [routeEnvelope, AgentDirectory.session]
      cases there : directory.lookup message.destination with
      | none =>
          rw [AgentSession.processEnvelope_unregistered directory self msgId message there]
          rfl
      | some target =>
          rw [AgentSession.processEnvelope_registered directory self msgId message there]
          rfl
  | unregisterDescription =>
      dsimp only [AgentSession.processEnvelope, AgentSession.processUnregisterDescription]
      cases self.description with
      | none => rfl
      | some description => rfl
  | registerService | unregisterService | registerDescription | searchServices
    | searchServicesWide | searchAgents | payloadNotSet => rfl

theorem length_routeEnvelope (directory : AgentDirectory) (envelope : Envelope Double) :
    (routeEnvelope directory session key envelope).length =
      if forAgent envelope = true then 1 else 0 := by
  obtain ⟨msgId, payload⟩ := envelope
  cases payload with
  | sendMessage message =>
      dsimp only [routeEnvelope, forAgent]
      cases directory.session message.destination with
      | none => rfl
      | some target => rfl
  | registerService | unregisterService | registerDescription | unregisterDescription
    | searchServices | searchServicesWide | searchAgents | payloadNotSet => rfl

/-- An event has one send routed, if it is the read of a message to another agent. -/
theorem length_route (state : NodeState Double) (event : NodeEvent Double) :
    (route parsers session key state event).length =
      if readsMessage parsers session event = true then 1 else 0 := by
  cases event with
  | accept | receiveId | receiveAnswer | handshake | deliver | written | answer => rfl
  | read reader ec buffer =>
      rw [route, readsMessage]
      by_cases here : reader = session ∧ ec.failed = false
      · simp only [here, and_self, ↓reduceIte, beq_self_eq_true, Bool.not_false, Bool.true_and,
          length_routeEnvelope]
      · rw [if_neg here, if_neg, List.length_nil]
        simp only [Bool.and_eq_true, beq_iff_eq, Bool.not_eq_true']
        exact fun reads => here reads.1

/-- The read loops of other sessions settle nothing. -/
theorem settled_of_other {other : SessionId} {readLoop : ReadLoop Double}
    (loops : next.readLoop = (state.setReadLoop other readLoop).readLoop)
    (different : session ≠ other) (sent : next.sentFor session = state.sentFor session) :
    next.settled session = state.settled session := by
  rw [settled, settled, sent, loops, setReadLoop_readLoop, if_neg different]

/-- A read loop that has nothing to send and gets nothing to send settles nothing. -/
theorem settled_of_idle {other : SessionId} {readLoop : ReadLoop Double}
    (loops : next.readLoop = (state.setReadLoop other readLoop).readLoop)
    (before : unsent other (state.readLoop other) = []) (after : unsent other readLoop = [])
    (sent : next.sentFor session = state.sentFor session) :
    next.settled session = state.settled session := by
  by_cases same : session = other
  · subst same
    rw [settled, settled, sent, loops, setReadLoop_readLoop, if_pos rfl, before, after]
  · exact settled_of_other loops same sent

/-- A session that read an envelope has to send what the envelope is routed to. -/
theorem settled_of_read {reader : SessionId} {self after : AgentSession Double} {ec : ErrorCode}
    {buffer : Buffer} {action : SessionAction Double} {readLoop : ReadLoop Double}
    (reading : state.readLoop reader = .reading) (there : state.session reader = some self)
    (read : ec.failed = false)
    (processing : AgentSession.process parsers.envelope state.directory self buffer =
      (after, action))
    (own : ∀ self, state.session session = some self → self.publicKey = key)
    (loops : next.readLoop = (state.setReadLoop reader readLoop).readLoop)
    (sends : unsent reader readLoop = actionSends reader action) (sent : next.sent = state.sent) :
    next.settled session =
      state.settled session ++ route parsers session key state (.read reader ec buffer) := by
  have sentFor : next.sentFor session = state.sentFor session := by
    rw [sentFor, sent, NodeState.sentFor]
  by_cases same : session = reader
  · subst same
    rw [settled, settled, sentFor, loops, setReadLoop_readLoop, if_pos rfl, sends, reading, route,
      if_pos ⟨rfl, read⟩, actionSends_process processing, own self there, unsent_reading,
      List.append_nil]
  · rw [settled_of_other loops same sentFor, route, if_neg fun here => same here.1.symm,
      List.append_nil]

/-- What a read loop has to send is sent. -/
theorem settled_of_deliver {sender connection : SessionId} {message : ServerMessage Double}
    (loops : next.readLoop = (state.setReadLoop sender .reading).readLoop)
    (before : unsent sender (state.readLoop sender) = [⟨connection, .envelope sender, message⟩])
    (sent : next.sent = (state.send connection (.envelope sender) [message]).sent) :
    next.settled session = state.settled session := by
  by_cases same : session = sender
  · subst same
    have moved : next.sentFor session =
        state.sentFor session ++ [⟨connection, .envelope session, message⟩] := by
      rw [sentFor, sent, send, List.filter_append, sentFor]
      simp
    rw [settled, settled, moved, loops, setReadLoop_readLoop, if_pos rfl, before, unsent_reading,
      List.append_nil]
  · have other : Cause.envelope sender ≠ .envelope session := by
      intro cause
      cases cause
      exact same rfl
    exact settled_of_other loops same (sentFor_send other sent)

/-- **One step** settles what the envelope it reads is routed to, and nothing else. -/
theorem Stepped.settled_eq (stepped : Stepped parsers state event next)
    (sessions : state.Sessions)
    (own : ∀ self, state.session session = some self → self.publicKey = key) :
    next.settled session = state.settled session ++ route parsers session key state event := by
  have nothing : ∀ {after : NodeState Double}, after.settled session = state.settled session →
      route parsers session key state event = [] →
        after.settled session =
          state.settled session ++ route parsers session key state event := by
    intro after same none
    rw [none, List.append_nil, same]
  have handshake : ∀ {after : NodeState Double} {connection : SessionId}
      {message : ServerMessage Double}, after.readLoop = state.readLoop →
        after.sent = (state.send connection .handshake [message]).sent →
          after.settled session = state.settled session := by
    intro after connection message loops sent
    have other : (Cause.handshake : Cause) ≠ .envelope session := nofun
    rw [settled, settled, loops, sentFor_send other sent]
  cases stepped with
  | accepted | unidentified | identified | unanswered | added | rejected | written =>
      exact nothing rfl rfl
  | phraseSent | failureSent | statusSent => exact nothing (handshake rfl rfl) rfl
  | @started connection publicKey reply there =>
      have idle := (sessions.added _ _ _ there).2
      have loops : ((state.setReadLoop connection .reading).setStage connection
          (.confirming publicKey true reply)).readLoop =
            (state.setReadLoop connection .reading).readLoop := rfl
      exact nothing (settled_of_idle loops (idle ▸ rfl) rfl rfl) rfl
  | @ended reader self ec buffer reading there failed =>
      have silent : route parsers session key state (.read reader ec buffer) = [] := by
        rw [route, if_neg]
        rw [failed]
        exact fun here => Bool.noConfusion here.2
      exact nothing (settled_of_idle rfl (reading ▸ rfl) rfl rfl) silent
  | @processed reader self after ec buffer reading there read processing =>
      have loops : (state.setSession reader after).readLoop =
          (state.setReadLoop reader .reading).readLoop := by
        rw [setReadLoop, ← reading, Function.update_eq_self]
        rfl
      exact settled_of_read reading there read processing own loops rfl rfl
  | @requested reader self after ec buffer call continuation reading there read processing =>
      have loops : state.readLoop = (state.setReadLoop reader .reading).readLoop := by
        rw [setReadLoop, ← reading, Function.update_eq_self]
      exact settled_of_read reading there read processing own loops rfl rfl
  | answering reading there read processing | forwarding reading there read processing =>
      exact settled_of_read reading there read processing own rfl rfl rfl
  | answerSent answering => exact nothing (settled_of_deliver rfl (answering ▸ rfl) rfl) rfl
  | forwarded forwarding => exact nothing (settled_of_deliver rfl (forwarding ▸ rfl) rfl) rfl
  | searchAnswered =>
      have other : (Cause.search : Cause) ≠ .envelope session := nofun
      apply nothing _ rfl
      rw [settled, settled, sentFor_send other rfl]
      rfl

/-- Along a run, what a session has settled is what its envelopes are routed to, by a key
that is that of the session once it is there. -/
theorem run_settled {events : List (NodeEvent Double)}
    (run : Run (NodeState.step parsers) initial events state)
    (own : ∀ self, state.session session = some self → self.publicKey = key) :
    state.settled session =
        collect (NodeState.step parsers) (route parsers session key) initial events ∧
      (state.settled session).length = events.countP (readsMessage parsers session) := by
  revert own
  refine run.traceInvariant (fun events state =>
    (∀ self, state.session session = some self → self.publicKey = key) →
      state.settled session =
        collect (NodeState.step parsers) (route parsers session key) initial events ∧
      (state.settled session).length = events.countP (readsMessage parsers session))
    (fun _ => ⟨rfl, rfl⟩) ?_
  intro events state event next run ordered _ taken own
  have stepped := stepped_of_step taken
  have before := stepped.own_before (run_constructed run) own
  obtain ⟨sends, counted⟩ := ordered before
  have moved := stepped.settled_eq (run_sessions run) before
  constructor
  · rw [moved, sends, run.collect_snoc]
  · rw [moved, List.length_append, counted, length_route, List.countP_append,
      List.countP_singleton]

/-- **Messages keep their order.** In every run, what was sent for the envelopes of a
session, followed by the send it is about to start, is what the messages that it read
are routed to, in the order in which it read them: one send for every message, to the
session that was registered under the destination at that time, or back to the sender as
a dialogue error. -/
theorem run_inOrder {events : List (NodeEvent Double)}
    (run : Run (NodeState.step parsers) initial events state) {self : AgentSession Double}
    (there : state.session session = some self) :
    state.sentFor session ++ unsent session (state.readLoop session) =
        collect (NodeState.step parsers) (route parsers session self.publicKey) initial events ∧
      (state.sentFor session).length + (unsent session (state.readLoop session)).length =
        events.countP (readsMessage parsers session) := by
  have own : ∀ other, state.session session = some other → other.publicKey = self.publicKey := by
    intro other here
    rw [there] at here
    cases here
    rfl
  obtain ⟨sends, counted⟩ := run_settled run own
  rw [settled, List.length_append] at counted
  exact ⟨sends, counted⟩

/-- "a" has sent its message to "b". -/
theorem run_inOrder_message :
    afterLate.sentFor 0 ++ unsent 0 (afterLate.readLoop 0) =
        collect (NodeState.step shortParsers) (route shortParsers 0 "a") initial
          (connectBoth ++ [.handshake 1, .handshake 1] ++
            [.read 0 .success [0x08, 0x01, 0x12, 0x05, 0x08, 0x02, 0x12, 0x01, 0x62],
              .deliver 0]) ∧
      (afterLate.sentFor 0).length + (unsent 0 (afterLate.readLoop 0)).length = 1 := by
  have connected : execute (NodeState.step shortParsers) initial
      (connectBoth ++ [.handshake 1, .handshake 1]) = some afterStatus := rfl
  have sent : execute (NodeState.step shortParsers) afterStatus
      [.read 0 .success [0x08, 0x01, 0x12, 0x05, 0x08, 0x02, 0x12, 0x01, 0x62], .deliver 0] =
        some afterLate := rfl
  have there : afterLate.session 0 = some (.make "a") := rfl
  obtain ⟨ordered, counted⟩ :=
    run_inOrder ((run_of_execute connected).append (run_of_execute sent)) there
  exact ⟨ordered, counted⟩

end NodeState

end OefCore
