import OefCore.Lib.Positions
import OefCore.Server.System

/-! # The parts of the core in a run of the whole

In a run of the whole core, the sessions and the search client are in a run of their
own, with the sessions' messages to their own agents recorded when they are decided and
not when they are sent (`OefCore.SystemState.run_core`). So whatever holds of the
sessions in every run holds in the whole core.

`OefCore.SystemState.run_answersPerEnvelope` uses this: an agent is never sent more
answers under a message id than it has sent envelopes with that id, whatever the other
agents and the search service do.
-/

namespace OefCore

variable {Double : Type}

/-- The message comes from the core, and not from another agent. -/
def ServerMessage.ownAnswer : ServerMessage Double → Option (Server.AgentMessage Double)
  | .agentMessage ⟨_, .content _⟩ => none
  | .agentMessage message => some message
  | _ => none

namespace NodeState

/-- The messages of a session to its own agent that were sent on its connection. -/
def answersOn (state : NodeState Double) (connection : SessionId) :
    List (Server.AgentMessage Double) :=
  (state.messagesTo connection).filterMap ServerMessage.ownAnswer

/-- The answer that a read loop has to send. -/
def pendingAnswer : ReadLoop Double → List (Server.AgentMessage Double)
  | .answering answer => [answer]
  | _ => []

/-- The answers of a session, sent or about to be sent. -/
def answersOf (state : NodeState Double) (session : SessionId) :
    List (Server.AgentMessage Double) :=
  state.answersOn session ++ pendingAnswer (state.readLoop session)

variable {parsers : NodeParsers Double} {state next : NodeState Double} {event : NodeEvent Double}

@[simp] theorem pendingAnswer_reading :
    pendingAnswer (.reading : ReadLoop Double) = [] := rfl

theorem ownAnswer_of_answer {answer : Server.AgentMessage Double}
    (other : ∀ content, answer.payload ≠ .content content) :
    ServerMessage.ownAnswer (.agentMessage answer) = some answer := by
  obtain ⟨answerId, payload⟩ := answer
  cases payload with
  | content content => exact absurd rfl (other content)
  | oefError | agents | agentsWide | dialogueError => rfl

/-- What is sent counts as answers if it does not come from another agent. -/
theorem answersOn_send (connection other : SessionId) (cause : Cause)
    (messages : List (ServerMessage Double)) :
    (state.send connection cause messages).answersOn other = state.answersOn other ++
      if other = connection then messages.filterMap ServerMessage.ownAnswer else [] := by
  rw [answersOn, messagesTo_send, answersOn]
  split
  · exact List.filterMap_append
  · exact (List.append_nil _).symm

/-- A message without answers on a connection. -/
theorem answersOn_of_none (connection other : SessionId) (cause : Cause)
    {message : ServerMessage Double} (none : message.ownAnswer = none) :
    (state.send connection cause [message]).answersOn other = state.answersOn other := by
  rw [answersOn_send, List.filterMap_cons_none none, List.filterMap_nil, ite_self,
    List.append_nil]

theorem answersOn_of_sent (sent : next.sent = state.sent) (session : SessionId) :
    next.answersOn session = state.answersOn session := by
  rw [answersOn, messagesTo, sent, answersOn, messagesTo]

/-- A read loop with nothing to answer, before and after. -/
theorem answersOf_of_quiet {session : SessionId} {readLoop : ReadLoop Double}
    (loops : next.readLoop = (state.setReadLoop session readLoop).readLoop)
    (before : pendingAnswer (state.readLoop session) = []) (after : pendingAnswer readLoop = [])
    (answers : ∀ other, next.answersOn other = state.answersOn other) (other : SessionId) :
    next.answersOf other = state.answersOf other := by
  rw [answersOf, answersOf, answers, loops, setReadLoop_readLoop]
  by_cases same : other = session
  · subst same
    rw [if_pos rfl, before, after]
  · rw [if_neg same]

/-- A read loop sends the answer it has. -/
theorem answersOf_of_sent {session : SessionId} {answer : Server.AgentMessage Double}
    (loops : next.readLoop = (state.setReadLoop session .reading).readLoop)
    (answering : state.readLoop session = .answering answer)
    (own : ∀ content, answer.payload ≠ .content content)
    (sent : ∀ other, next.answersOn other = state.answersOn other ++
      if other = session then [ServerMessage.agentMessage answer].filterMap ServerMessage.ownAnswer
      else []) (other : SessionId) :
    next.answersOf other = state.answersOf other := by
  rw [answersOf, answersOf, sent, loops, setReadLoop_readLoop]
  by_cases same : other = session
  · subst same
    rw [if_pos rfl, if_pos rfl, answering, pendingAnswer_reading, List.append_nil,
      List.filterMap_cons_some (ownAnswer_of_answer own)]
    rfl
  · rw [if_neg same, if_neg same, List.append_nil]

/-- What is read without an error is read as an envelope. -/
theorem envelopeRead_ne_none {session : SessionId} {ec : ErrorCode} {buffer : Buffer}
    (read : ec.failed = false) :
    (NodeEvent.read session ec buffer : NodeEvent Double).envelopeRead ≠ none := by
  rw [NodeEvent.envelopeRead, read]
  exact Option.some_ne_none _

/-- A session answers when it has read an envelope or when it goes on with a request,
and nothing else counts as its answer. -/
theorem Stepped.answersOf_eq {events : List (NodeEvent Double)}
    (stepped : Stepped parsers state event next) (sessions : state.Sessions)
    (origins : Origins parsers events state)
    (unread : event.envelopeRead = none) (notAnswer : event.isAnswer = false)
    (session : SessionId) : next.answersOf session = state.answersOf session := by
  have handshake : ∀ {after : NodeState Double} {connection : SessionId}
      {message : ServerMessage Double}, message.ownAnswer = none →
        after.readLoop = state.readLoop →
          after.sent = (state.send connection .handshake [message]).sent →
            after.answersOf session = state.answersOf session := by
    intro after connection message none loops sent
    rw [answersOf, loops, answersOn_of_sent sent, answersOn_of_none _ _ _ none, answersOf]
  cases stepped with
  | accepted | unidentified | identified | unanswered | added | rejected | written => rfl
  | phraseSent | failureSent | statusSent => exact handshake rfl rfl rfl
  | @started connection publicKey reply there =>
      have idle := (sessions.added _ _ _ there).2
      have loops : ((state.setReadLoop connection .reading).setStage connection
          (.confirming publicKey true reply)).readLoop =
            (state.setReadLoop connection .reading).readLoop := rfl
      exact answersOf_of_quiet loops (idle ▸ rfl) rfl (fun _ => rfl) session
  | ended reading =>
      exact answersOf_of_quiet rfl (reading ▸ rfl) rfl (fun _ => rfl) session
  | processed _ _ read | requested _ _ read | answering _ _ read | forwarding _ _ read =>
      exact absurd unread (envelopeRead_ne_none read)
  | @answerSent sender answer answering =>
      have own : LoopJustified parsers events sender (.answering answer) :=
        answering ▸ origins.loops sender
      refine answersOf_of_sent ?_ answering own (fun other => ?_) session
      · rfl
      · exact answersOn_send sender other (.envelope sender) [.agentMessage answer]
  | @forwarded sender target message continuation forwarding =>
      have sentBy : LoopJustified parsers events sender
          (.forwarding target message continuation) := forwarding ▸ origins.loops sender
      have content : (ServerMessage.agentMessage message).ownAnswer = none := by
        obtain ⟨_, _, _, _, _, _⟩ := sentBy
        rfl
      have quiet : pendingAnswer (state.readLoop sender) = [] := by
        rw [forwarding]
        rfl
      refine answersOf_of_quiet ?_ quiet pendingAnswer_reading (fun other => ?_) session
      · rfl
      · exact answersOn_of_none target other (.envelope sender) content
  | searchAnswered => cases notAnswer

/-- The answer that an envelope leads to at once. -/
def answerAtOnce : SessionAction Double → List (Server.AgentMessage Double)
  | .send answer => [answer]
  | _ => []

/-- The read of an envelope answers it, or leaves the answer to a request. -/
theorem answersOf_read {session : SessionId} {ec : ErrorCode} {buffer : Buffer}
    {self after : AgentSession Double} {action : SessionAction Double}
    (stepped : Stepped parsers state (.read session ec buffer) next)
    (there : state.session session = some self) (read : ec.failed = false)
    (result : AgentSession.process parsers.envelope state.directory self buffer =
      (after, action)) (other : SessionId) :
    next.answersOf other =
      state.answersOf other ++ if other = session then answerAtOnce action else [] := by
  have reading := stepped.reading
  have answered : ∀ {readLoop : ReadLoop Double},
      next.readLoop = (state.setReadLoop session readLoop).readLoop →
        pendingAnswer readLoop = answerAtOnce action → next.sent = state.sent →
          next.answersOf other =
            state.answersOf other ++ if other = session then answerAtOnce action else [] := by
    intro readLoop loops pending sent
    rw [answersOf, answersOf, answersOn_of_sent sent, loops, setReadLoop_readLoop]
    by_cases same : other = session
    · subst same
      rw [if_pos rfl, if_pos rfl, reading, pending, pendingAnswer_reading, List.append_nil]
    · rw [if_neg same, if_neg same, List.append_nil]
  have unmoved : state.readLoop = (state.setReadLoop session .reading).readLoop := by
    rw [setReadLoop, ← reading, Function.update_eq_self]
  cases stepped with
  | ended _ _ failed =>
      rw [read] at failed
      cases failed
  | processed _ current _ processing =>
      rw [there] at current
      cases current
      cases result.symm.trans processing
      exact answered unmoved rfl rfl
  | requested _ current _ processing =>
      rw [there] at current
      cases current
      cases result.symm.trans processing
      exact answered unmoved rfl rfl
  | answering _ current _ processing | forwarding _ current _ processing =>
      rw [there] at current
      cases current
      cases result.symm.trans processing
      exact answered rfl rfl rfl

end NodeState

namespace SystemState

variable {host : ByteOrder} {external : External Double} {parsers : NodeParsers Double}
  {state next : SystemState Double} {event : SystemEvent Double}

/-- A session that goes on with a request sends the answers of its continuation. -/
theorem answersOf_answered (node : NodeState Double) (session other : SessionId)
    (waiter : AgentSession Double) (continuation : SessionContinuation) (ec : ErrorCode)
    (response : OefSearchResponse Double) :
    ((answered node session waiter continuation ec response).answersOf other).Perm
      (node.answersOf other ++
        if other = session then (waiter.answered continuation ec response).2 else []) := by
  have own : ((waiter.answered continuation ec response).2.map ServerMessage.agentMessage).filterMap
      ServerMessage.ownAnswer = (waiter.answered continuation ec response).2 := by
    rw [List.filterMap_map]
    refine (List.filterMap_congr fun answer member => ?_).trans List.filterMap_some
    exact NodeState.ownAnswer_of_answer
      (NodeState.answered_not_content waiter continuation ec response answer member)
  have sent : (answered node session waiter continuation ec response).answersOn other =
      node.answersOn other ++
        if other = session then (waiter.answered continuation ec response).2 else [] := by
    rw [answered, NodeState.answersOn_send, own]
    rfl
  rw [NodeState.answersOf, sent, NodeState.answersOf, List.append_assoc, List.append_assoc]
  exact List.perm_append_comm.append_left _

/-! ### The sessions of a run -/

/-- What a session has sent to its own agent, according to the sessions alone. -/
def answersBy (core : CoreState Double) (session : SessionId) :
    List (Server.AgentMessage Double) :=
  (core.answers.filter fun sent => sent.session = session).map fun sent => sent.message

/-- The same search client, sessions and envelopes, and the same answers for every
agent, in the order of the connection or in that of the decisions. -/
structure Represents (state : SystemState Double) (core : CoreState Double) : Prop where
  search : core.search = state.search
  sessions : core.sessions = state.node.session
  log : core.log = state.log
  answers : ∀ session, (state.node.answersOf session).Perm (answersBy core session)

theorem answersBy_append {core after : CoreState Double} {id : RequestId} {session : SessionId}
    {messages : List (Server.AgentMessage Double)}
    (answers : after.answers = core.answers ++ messages.map fun message => ⟨id, session, message⟩)
    (other : SessionId) :
    answersBy after other = answersBy core other ++ if other = session then messages else [] := by
  rw [answersBy, answers, List.filter_append, List.map_append, List.filter_map, List.map_map,
    answersBy]
  congr 1
  by_cases same : other = session
  · have all : (messages.filter ((fun sent => decide (sent.session = other)) ∘
        fun message => SentAnswer.mk id session message)) = messages :=
      List.filter_eq_self.mpr fun _ _ => decide_eq_true same.symm
    rw [if_pos same, all]
    exact List.map_id messages
  · have nothing : (messages.filter ((fun sent => decide (sent.session = other)) ∘
        fun message => SentAnswer.mk id session message)) = [] :=
      List.filter_eq_nil_iff.mpr fun _ _ there => same (of_decide_eq_true there).symm
    rw [if_neg same, nothing, List.map_nil]

theorem answersAtOnce_eq_map (id : RequestId) (session : SessionId)
    (action : SessionAction Double) :
    CoreState.answersAtOnce id session action =
      (NodeState.answerAtOnce action).map fun message => ⟨id, session, message⟩ := by
  cases action with
  | nothing | request | send | forward => rfl

/-- A session is constructed. -/
theorem Represents.start {core : CoreState Double} (represents : state.Represents core)
    {session : SessionId} {publicKey : String} {node : NodeState Double}
    (fresh : state.node.session session = none)
    (sessions : node.session = Function.update state.node.session session
      (some (.make publicKey)))
    (answers : ∀ other, node.answersOf other = state.node.answersOf other) :
    ∃ event after, CoreState.step host external parsers.envelope core event = some after ∧
      Represents { state with node } after := by
  refine ⟨.start session publicKey, { core with sessions := node.session }, ?_,
    represents.search, rfl, represents.log, fun other => ?_⟩
  · rw [← represents.sessions] at fresh
    simp only [CoreState.step, fresh]
    rw [sessions, represents.sessions]
  · rw [answers]
    exact represents.answers other

/-- A step of the search client in the sessions alone. -/
theorem stepSearch_eq {core : CoreState Double} {event : SearchEvent Double}
    {search : SearchState Double}
    (notCall : ∀ id call agent msgId, event ≠ .call id call agent msgId)
    (taken : core.search.step host external event = some search) :
    CoreState.step host external parsers.envelope core (.search event) =
      some ((search.invoked.drop core.search.invoked.length).foldl CoreState.answer
        { core with search }) := by
  cases event with
  | call id call agent msgId => exact absurd rfl (notCall id call agent msgId)
  | written | sent | frame | erase | invoke =>
      simp only [CoreState.step, CoreState.stepSearch, taken, Option.map_some]

/-- An envelope is processed. -/
theorem Represents.processed {core : CoreState Double} (represents : state.Represents core)
    {session : SessionId} {ec : ErrorCode} {buffer : Buffer} {node : NodeState Double}
    {self after : AgentSession Double} {action : SessionAction Double}
    {search : SearchState Double} (there : state.node.session session = some self)
    (read : ec.failed = false)
    (result : AgentSession.process parsers.envelope state.node.directory self buffer =
      (after, action))
    (taken : NodeState.step parsers state.node (.read session ec buffer) = some node)
    (requested : CoreState.requestSearch host external state.search state.log.length
      after.publicKey action = some search) :
    ∃ event core', CoreState.step host external parsers.envelope core event = some core' ∧
      Represents { node, search, log := state.log ++
        [⟨session, Pbs.deserialize parsers.envelope buffer, action⟩] } core' := by
  have stepped := NodeState.stepped_of_step taken
  refine ⟨.envelope session state.node.directory buffer, {
    search
    sessions := Function.update core.sessions session (some after)
    log := core.log ++ [⟨session, Pbs.deserialize parsers.envelope buffer, action⟩]
    forwarding := core.forwarding ++ CoreState.forwardedBy core.log.length action
    answers := core.answers ++ CoreState.answersAtOnce core.log.length session action }, ?_,
    rfl, ?_, congrArg (· ++ _) represents.log, fun other => ?_⟩
  · rw [← represents.search, ← represents.log] at requested
    rw [← represents.sessions] at there
    simp only [CoreState.step, CoreState.stepEnvelope, there, result, requested, Option.map_some]
  · rw [(read_effect stepped there read result).2, ← represents.sessions]
  · rw [NodeState.answersOf_read stepped there read result,
      answersBy_append (congrArg (core.answers ++ ·) (answersAtOnce_eq_map _ _ _))]
    exact (represents.answers other).append_right _

/-- The session that made a request goes on with it. -/
theorem Represents.resumed {core : CoreState Double} (represents : state.Represents core)
    {search : SearchState Double} {invocation : Invocation Double} {id : RequestId}
    {session : SessionId} {waiter : AgentSession Double} {continuation : SessionContinuation}
    (named : invocation.continuation = .request id)
    (resumes : Resumes state id session waiter continuation) :
    Represents { state with
      search
      node := answered state.node session waiter continuation invocation.ec invocation.response }
        (CoreState.answer { core with search } invocation) := by
  obtain ⟨envelope, call, logged⟩ := waiter_eq_some.mp resumes.asked
  have there : core.sessions session = some waiter := by
    rw [represents.sessions]
    exact resumes.waiting
  rw [← represents.log] at logged
  have goes : CoreState.answer { core with search } invocation = { core with
      search
      sessions := Function.update core.sessions session
        (some (waiter.answered continuation invocation.ec invocation.response).1)
      answers := core.answers ++
        (waiter.answered continuation invocation.ec invocation.response).2.map fun message =>
          ⟨id, session, message⟩ } := by
    simp only [CoreState.answer, named, logged, there]
  rw [goes]
  refine ⟨rfl, ?_, represents.log, fun other => ?_⟩
  · rw [represents.sessions]
    rfl
  · have more := @answersBy_append _ core { core with
      answers := core.answers ++
        (waiter.answered continuation invocation.ec invocation.response).2.map fun message =>
          ⟨id, session, message⟩ } id session _ rfl other
    refine (answersOf_answered _ _ _ _ _ _ _).trans (.trans ?_ (.of_eq more.symm))
    exact (represents.answers other).append_right _

/-- One step of the whole core is one of the sessions, or changes nothing for them. -/
theorem Represents.step {core : CoreState Double} {events : List (NodeEvent Double)}
    (represents : state.Represents core) (waiting : state.Waiting)
    (sessions : state.node.Sessions) (constructed : state.node.Constructed)
    (origins : NodeState.Origins parsers events state.node) (onceAfter : next.search.Once)
    (stepped : Stepped host external parsers state event next) :
    next.Represents core ∨ ∃ event after,
      CoreState.step host external parsers.envelope core event = some after ∧
        next.Represents after := by
  cases stepped with
  | @moved event node taken unread notAnswer =>
      have stepped := NodeState.stepped_of_step taken
      have answers := stepped.answersOf_eq sessions origins unread notAnswer
      have unchanged : node.session = state.node.session →
          Represents { state with node } core := by
        intro same
        refine ⟨represents.search, represents.sessions.trans same.symm, represents.log, ?_⟩
        intro other
        rw [answers]
        exact represents.answers other
      cases stepped with
      | accepted | unidentified | identified | phraseSent | failureSent | unanswered | started
        | statusSent | ended | answerSent | forwarded | written => exact Or.inl (unchanged rfl)
      | added waiting | rejected waiting =>
          have absent := constructed.session_eq_none waiting NodeState.not_begun_awaitAnswer
          exact Or.inr (represents.start absent rfl answers)
      | processed _ _ read | requested _ _ read | answering _ _ read | forwarding _ _ read =>
          exact absurd unread (NodeState.envelopeRead_ne_none read)
      | searchAnswered => cases notAnswer
  | processed there read result taken requested =>
      exact Or.inr (represents.processed there read result taken requested)
  | @quiet event search notCall taken same =>
      right
      rw [← represents.search] at taken same
      refine ⟨.search event, _, stepSearch_eq notCall taken, ?_⟩
      rw [same, List.drop_length, List.foldl_nil]
      exact ⟨rfl, represents.sessions, represents.log, represents.answers⟩
  | @resumed event search invocation notCall taken appended =>
      right
      rw [resume_search] at onceAfter
      have resumes := waiting.resume_eq appended (fun _ => issued_earlier taken notCall) onceAfter
      rw [← represents.search] at taken appended
      refine ⟨.search event, _, stepSearch_eq notCall taken, ?_⟩
      rw [appended, List.drop_left, List.foldl_cons, List.foldl_nil]
      rcases resumes with
        ⟨⟨smsgId, named⟩, same⟩ | ⟨id, session, self, continuation, named, resumes, same⟩
      · rw [same, CoreState.answer, named]
        exact ⟨rfl, represents.sessions, represents.log, represents.answers⟩
      · rw [same]
        exact represents.resumed named resumes

variable {events : List (SystemEvent Double)}

theorem represents_initial (client : OefSearchClient) :
    (initial client : SystemState Double).Represents (.initial client) :=
  ⟨rfl, rfl, rfl, fun _ => .refl _⟩

/-- Every step of a run of the whole core is matched by its sessions. -/
theorem Represents.matched {condition : SystemState Double → SystemEvent Double → Prop}
    {client : OefSearchClient} (empty : client.handles = ∅) {core : CoreState Double}
    {event : SystemEvent Double}
    (run : RunWithin condition (SystemState.step host external parsers) (initial client) events
      state) (allowed : condition state event)
    (taken : SystemState.step host external parsers state event = some next)
    (represents : state.Represents core) :
    next.Represents core ∨ ∃ event after, True ∧
      CoreState.step host external parsers.envelope core event = some after ∧
        next.Represents after := by
  obtain ⟨nodeEvents, handlers, _⟩ := run_node run
  have onceAfter := run_once empty (.snoc run allowed taken)
  rcases represents.step (run_waits empty run) (NodeState.run_sessions handlers)
      (NodeState.run_constructed handlers) (NodeState.run_origins handlers) onceAfter
      (stepped_of_step taken) with unchanged | ⟨image, after, moved, represented⟩
  · exact Or.inl unchanged
  · exact Or.inr ⟨image, after, trivial, moved, represented⟩

/-- **The sessions of the whole core** and its search client are in a run of their own:
with the same search client, sessions and envelopes, and for every agent the same
answers, in the order of the connection or in that of the decisions. -/
theorem run_core {coreId coreIpAddr : String} {corePort : UInt32}
    (run : Run (SystemState.step host external parsers)
      (initial (.make coreId coreIpAddr corePort)) events state) :
    ∃ coreEvents core, Run (CoreState.step host external parsers.envelope)
      (.initial (.make coreId coreIpAddr corePort)) coreEvents core ∧ state.Represents core :=
  run.simulates Represents (represents_initial _) fun _ _ _ _ _ before allowed taken represents =>
    represents.matched rfl before allowed taken

/-! ### Answers and envelopes -/

/-- The envelope that an event has a session process. -/
def envelopeProcessed (parsers : NodeParsers Double) (event : SystemEvent Double) :
    Option (SessionId × Envelope Double) :=
  (event.node?.bind NodeEvent.envelopeRead).map fun read =>
    (read.1, Pbs.deserialize parsers.envelope read.2)

/-- The event has the session of a connection process an envelope with an id. -/
def processesUnder (parsers : NodeParsers Double) (connection : SessionId) (msgId : Int32)
    (event : SystemEvent Double) : Bool :=
  (envelopeProcessed parsers event).any fun processed =>
    decide (processed.1 = connection ∧ processed.2.msgId = msgId)

/-- The log has the envelopes that were read. -/
theorem run_log {condition : SystemState Double → SystemEvent Double → Prop}
    {client : OefSearchClient}
    (run : RunWithin condition (SystemState.step host external parsers) (initial client) events
      state) :
    (state.log.map fun processed => (processed.session, processed.envelope)) =
      events.filterMap (envelopeProcessed parsers) := by
  refine run.traceInvariant (fun events state =>
    (state.log.map fun processed => (processed.session, processed.envelope)) =
      events.filterMap (envelopeProcessed parsers)) rfl ?_
  intro events state event next _ logged _ taken
  have same : ∀ {log : List (ProcessedEnvelope Double)}, log = state.log →
      envelopeProcessed parsers event = none →
        (log.map fun processed => (processed.session, processed.envelope)) =
          (events ++ [event]).filterMap (envelopeProcessed parsers) := by
    rintro log rfl nothing
    rw [List.filterMap_append, List.filterMap_cons_none nothing, List.filterMap_nil,
      List.append_nil, logged]
  cases stepped_of_step taken with
  | moved _ unread =>
      apply same rfl
      rw [envelopeProcessed, SystemEvent.node?, Option.bind_some, unread, Option.map_none]
  | quiet => exact same rfl rfl
  | resumed => exact same (resume_log _ _) rfl
  | @processed session ec buffer _ _ _ _ _ there read =>
      have found : envelopeProcessed parsers (.node (.read session ec buffer)) =
          some (session, Pbs.deserialize parsers.envelope buffer) := by
        rw [envelopeProcessed, SystemEvent.node?, Option.bind_some, NodeEvent.envelopeRead, read]
        rfl
      rw [List.map_append, logged, List.filterMap_append, List.filterMap_cons_some found]
      rfl

/-- Every answer has an envelope of its own. -/
theorem causes_nodup {core : CoreState Double} (once : ∀ id, core.answersFor id ≤ 1) :
    (core.answers.map fun sent => sent.cause).Nodup := by
  rw [List.nodup_iff_count_le_one]
  intro id
  rw [List.count, List.countP_map]
  exact once id

/-- **No more answers than envelopes.** In every run of the whole core, an agent is sent
at most as many answers under a message id as the envelopes with that id that were read
from its connection: answers of the search service, errors and dialogue errors together,
whatever the other agents and the search service do. -/
theorem run_answersPerEnvelope {coreId coreIpAddr : String} {corePort : UInt32}
    (run : Run (SystemState.step host external parsers)
      (initial (.make coreId coreIpAddr corePort)) events state)
    (connection : SessionId) (msgId : Int32) :
    (state.node.answersOn connection).countP (fun answer => answer.answerId = msgId) ≤
      events.countP (processesUnder parsers connection msgId) := by
  obtain ⟨coreEvents, core, sessions, represents⟩ :=
    run.simulates Represents (represents_initial _) fun _ _ _ _ _ before allowed taken represents =>
      represents.matched rfl before allowed taken
  have once := fun id => CoreState.run_answersFor_le_one rfl sessions id
  have addressed := (CoreState.run_answering sessions).addressed
  calc (state.node.answersOn connection).countP (fun answer => answer.answerId = msgId)
      ≤ (state.node.answersOf connection).countP (fun answer => answer.answerId = msgId) := by
        rw [NodeState.answersOf, List.countP_append]
        exact Nat.le_add_right _ _
    _ = (answersBy core connection).countP (fun answer => answer.answerId = msgId) :=
        (represents.answers connection).countP_eq _
    _ = core.answers.countP
          (fun sent => sent.message.answerId = msgId ∧ sent.session = connection) := by
        rw [answersBy, List.countP_map, List.countP_filter]
        simp only [Function.comp_apply, Bool.decide_and]
    _ ≤ state.log.countP fun processed =>
          processed.session = connection ∧ processed.envelope.msgId = msgId := by
        apply countP_le_countP (causes_nodup once)
        intro sent member marked
        obtain ⟨same, here⟩ := of_decide_eq_true marked
        obtain ⟨processed, logged, session, under⟩ := addressed sent member
        rw [represents.log] at logged
        exact ⟨processed, logged, decide_eq_true ⟨session.symm.trans here, under.symm.trans same⟩⟩
    _ = (events.filterMap (envelopeProcessed parsers)).countP
          (fun processed => processed.1 = connection ∧ processed.2.msgId = msgId) := by
        rw [← run_log run, List.countP_map]
        rfl
    _ = events.countP (processesUnder parsers connection msgId) := by
        rw [List.countP_filterMap]
        congr 1
        funext event
        rw [processesUnder]
        cases envelopeProcessed parsers event with
        | none => rfl
        | some processed => rfl

/-- Where the search of "a" leads when the connection to the search service breaks. -/
def afterFailure : SystemState Int :=
  (execute shortStep afterSearch [.search (.sent 0 ⟨104⟩)]).getD afterSearch

theorem executed_failure : execute shortStep (initial SearchState.pluto)
    (connect ++ [searchServices] ++ [.search (.sent 0 ⟨104⟩)]) = some afterFailure := by
  rw [execute_append, executed_search]
  rfl

/-- Its session has answered it. -/
theorem run_core_failure : ∃ coreEvents core, Run CoreState.shortStep
    (.initial SearchState.pluto) coreEvents core ∧ Represents afterFailure core := by
  have run : Run shortStep (initial SearchState.pluto)
      (connect ++ [searchServices] ++ [.search (.sent 0 ⟨104⟩)]) afterFailure :=
    run_of_execute executed_failure
  exact run_core run

/-- "a" is sent no more than the error for its search. -/
theorem run_answersPerEnvelope_failure :
    (afterFailure.node.answersOn 0).countP (fun answer => answer.answerId = 1) ≤ 1 :=
  run_answersPerEnvelope (run_of_execute executed_failure) 0 1

end SystemState

end OefCore
