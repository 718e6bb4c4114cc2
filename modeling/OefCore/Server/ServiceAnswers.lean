import OefCore.Search.Causes
import OefCore.Server.PassedOn
import OefCore.Server.Provenance
import OefCore.Server.Rest
import OefCore.Session.Due

/-! # Answers of the search service, from the wire to the agents

What the search service writes on its connection decides what agents are sent.
`OefCore.SystemState.run_ownResults` says that agents are sent nothing else: under free
keys, every message that is sent because of the search service is due to an envelope of
the agent that it is sent to. `OefCore.SystemState.run_results` says that it is sent: with
distinct keys and timely answers, once the processing of an answer is over. So every search
has one reply when the core is at rest (`OefCore.SystemState.run_replied`).
-/

namespace OefCore

variable {Double : Type}

namespace SystemState

variable {host : ByteOrder} {external : External Double} {parsers : NodeParsers Double}
  {state next : SystemState Double} {event : SystemEvent Double}
  {events : List (SystemEvent Double)}

/-! ### Envelopes and their requests -/

/-- What sessions wait for is what their envelopes lead to. -/
def Asks (state : SystemState Double) : Prop :=
  ∀ (id : RequestId) session envelope call continuation,
    state.log[id]? = some ⟨session, envelope, .request call continuation⟩ →
      envelope.payload.operation? = some continuation.operation ∧
        continuation.msgId.toInt32 = envelope.msgId

theorem run_asks {condition : SystemState Double → SystemEvent Double → Prop}
    {client : OefSearchClient}
    (run : RunWithin condition (SystemState.step host external parsers) (initial client) events
      state) : state.Asks := by
  refine run.invariant Asks (fun _ _ _ _ _ logged => ?_) ?_
  · cases logged
  intro state event next asks _ taken id session envelope call continuation logged
  cases stepped_of_step taken with
  | moved | quiet => exact asks _ _ _ _ _ logged
  | resumed =>
      rw [resume_log] at logged
      exact asks _ _ _ _ _ logged
  | processed _ _ result =>
      rcases CoreState.log_append logged with earlier | ⟨_, same⟩
      · exact asks _ _ _ _ _ earlier
      · cases same
        exact AgentSession.processEnvelope_operation result

/-- An envelope that was read is in the log. -/
theorem logged_of_read {condition : SystemState Double → SystemEvent Double → Prop}
    {client : OefSearchClient}
    (run : RunWithin condition (SystemState.step host external parsers) (initial client) events
      state) {id : RequestId} {session : SessionId} {self : AgentSession Double}
    {before : SystemState Double} {envelope : Envelope Double}
    (enveloped : EnvelopeRead host external parsers client events id session self before
      envelope) : ∃ action, state.log[id]? = some ⟨session, envelope, action⟩ := by
  obtain ⟨whole, first, read, numbered, there⟩ := enveloped
  subst whole numbered
  obtain ⟨before', after, prior, _, taken, rest⟩ := run.around
  cases first.executed.symm.trans prior.executed
  obtain ⟨kept, _⟩ := @run_kept _ _ _ _ _ _ before.log.length _ rest.forget
  cases stepped_of_step taken with
  | moved _ unread =>
      rw [NodeEvent.envelopeRead, read] at unread
      cases unread
  | processed => exact ⟨_, kept _ List.getElem?_concat_length⟩

variable {coreId coreIpAddr : String} {corePort : UInt32}

/-- Where a request comes from: the envelope in the log, and the operation in the handle. -/
theorem run_requested {condition : SystemState Double → SystemEvent Double → Prop}
    (run : RunWithin condition (SystemState.step host external parsers)
      (initial (.make coreId coreIpAddr corePort)) events state)
    {id : RequestId} {request : SendRequest Double} {write : WriteState}
    (issued : state.search.issued id = some ⟨request, write⟩) :
    ∃ session envelope call continuation,
      state.log[id]? = some ⟨session, envelope, .request call continuation⟩ ∧
        request.operation = continuation.operation.handleOperation := by
  obtain ⟨coreEvents, core, sessions, represents⟩ :=
    run.simulates Represents (represents_initial _) fun _ _ _ _ _ before allowed taken represents =>
      represents.matched rfl before allowed taken
  have attributed := CoreState.run_attributed sessions
  rw [← represents.search] at issued
  rw [← represents.log]
  exact attributed.requested id request write issued

/-- What an agent may be sent because of a request: the error of its operation, if the
request could not be written, and otherwise what is due to the answer. -/
inductive Outcome (host : ByteOrder) (external : External Double) (search : SearchState Double)
    (id : RequestId) (operation : SessionOperation) :
    Server.AgentMessage.Payload Double → Prop where
  | unwritten {request : SendRequest Double} {ec : ErrorCode} (failed : ec.failed = true)
      (issued : search.issued id = some ⟨request, .handled ec⟩) :
      Outcome host external search id operation (.oefError (AgentSession.errorOperation operation))
  | answered {bytes : Buffer} {answer : Answer} {payload : Server.AgentMessage.Payload Double}
      (arrived : (some id, bytes) ∈ search.arrived)
      (message : SearchState.messageOf host external (some id) bytes = some answer)
      (due : payload ∈ AgentSession.due external operation answer) :
      Outcome host external search id operation payload

/-- An agent is due a message: it is an outcome of the request of an envelope that the
session of the agent has read. -/
inductive IsDue (host : ByteOrder) (external : External Double) (parsers : NodeParsers Double)
    (client : OefSearchClient) (events : List (SystemEvent Double)) (state : SystemState Double)
    (session : SessionId) : Server.AgentMessage Double → Prop where
  | intro {id : RequestId} {self : AgentSession Double} {before : SystemState Double}
      {envelope : Envelope Double} {operation : SessionOperation}
      {payload : Server.AgentMessage.Payload Double}
      (enveloped : EnvelopeRead host external parsers client events id session self before
        envelope) (asks : envelope.payload.operation? = some operation)
      (outcome : Outcome host external state.search id operation payload) :
      IsDue host external parsers client events state session
        { answerId := envelope.msgId, payload }

/-- What follows from an invocation is due to the envelope of its request. -/
theorem Follows.isDue {condition : SystemState Double → SystemEvent Double → Prop}
    (run : RunWithin condition (SystemState.step host external parsers)
      (initial (.make coreId coreIpAddr corePort)) events state)
    (caused : state.search.Caused host external) {invocation : Invocation Double}
    (member : invocation ∈ state.search.invoked)
    (addressed : state.search.WellAddressed external invocation) {entry : Sent Double}
    (follows : Follows state.log invocation entry) :
    ∃ message, entry.message = .agentMessage message ∧
      IsDue host external parsers (.make coreId coreIpAddr corePort) events state
        entry.connection message := by
  obtain @⟨id, session, envelope, call, continuation, message, self, named, logged, sends⟩ :=
    follows
  refine ⟨message, rfl, ?_⟩
  obtain ⟨asks, under⟩ := run_asks run id session envelope call continuation logged
  have below := (List.getElem?_eq_some_iff.mp logged).1
  obtain ⟨session', self', before, envelope', enveloped⟩ :=
    run_numbers run.forget id below
  obtain ⟨action, logged'⟩ := logged_of_read run enveloped
  rw [logged] at logged'
  cases logged'
  cases cause : invocation.cause with
  | none =>
      obtain ⟨other, request, named', failed, issued⟩ := caused.unwritten invocation member cause
      rw [named] at named'
      cases named'
      rw [AgentSession.answered_failed self continuation failed, List.mem_singleton] at sends
      rw [sends, AgentSession.sendError, under]
      exact .intro enveloped asks (.unwritten failed issued)
  | some answer =>
      obtain ⟨origin, request, write, issued, same⟩ := addressed id answer named cause
      obtain ⟨bytes, arrived, read⟩ := caused.answered invocation member answer cause
      rw [origin] at arrived read
      obtain ⟨_, _, _, _, logged', operation⟩ := run_requested run issued
      rw [logged] at logged'
      cases logged'
      rw [same, self.answered_invocation external operation] at sends
      obtain ⟨payload, due, rfl⟩ := List.mem_map.mp sends
      rw [under]
      exact .intro enveloped asks (.answered arrived read due)

/-- The search client of a run with an honest service and free keys. -/
theorem run_faithful {client : OefSearchClient} (empty : client.handles = ∅)
    (run : RunWithin (OnSearch parsers fun state event =>
        SearchState.HonestService host external state event ∧
          SearchState.FreeKey external state event)
      (SystemState.step host external parsers) (initial client) events state) :
    state.search.Caused host external ∧ state.search.Undisturbed external := by
  obtain ⟨searchEvents, searching⟩ := run_searchWithin run
  refine searching.invariant (fun search => search.Caused host external ∧
    search.Undisturbed external)
    ⟨SearchState.caused_initial client, SearchState.undisturbed_initial client empty⟩ ?_
  rintro search event next ⟨caused, undisturbed⟩ ⟨honest, free⟩ taken
  have stepped := SearchState.stepped_of_step taken
  exact ⟨caused.step undisturbed.sound stepped, undisturbed.step honest free stepped⟩

/-- **Agents are sent nothing but their own results.** In every run of the whole core with
an honest service, in which no request is made under a key that another one uses, each
message that is sent because of the search service is due to an envelope: one that the
session it is sent to has read, under its message id, for what was answered to its
request. -/
theorem run_ownResults
    (run : RunWithin (OnSearch parsers fun state event =>
        SearchState.HonestService host external state event ∧
          SearchState.FreeKey external state event)
      (SystemState.step host external parsers) (initial (.make coreId coreIpAddr corePort))
      events state) {entry : Sent Double} (member : entry ∈ state.node.sent)
    (cause : entry.cause = .search) :
    ∃ message, entry.message = .agentMessage message ∧
      IsDue host external parsers (.make coreId coreIpAddr corePort) events state
        entry.connection message := by
  obtain ⟨caused, undisturbed⟩ := run_faithful rfl run
  obtain ⟨invocation, invoked, follows⟩ := (run_passedOn rfl run entry cause).mp member
  exact follows.isDue run caused invoked (undisturbed.invoked invocation invoked)

/-! ### Every result -/

/-- Keys are distinct, the service is honest, and answers arrive after the completion
handlers of their requests ran. -/
def InTime (host : ByteOrder) (external : External Double) (state : SearchState Double)
    (event : SearchEvent Double) : Prop :=
  SearchState.DistinctKey external state event ∧
    SearchState.HonestService host external state event ∧
      SearchState.TimelyAnswer host external state event

/-- The search client of a run in which answers are in time. -/
structure Prompt (host : ByteOrder) (external : External Double) (search : SearchState Double) :
    Prop where
  timely : search.Timely host external
  once : search.AnsweredOnce

theorem run_prompt {client : OefSearchClient} (empty : client.handles = ∅)
    (run : RunWithin (OnSearch parsers (InTime host external))
      (SystemState.step host external parsers) (initial client) events state) :
    Prompt host external state.search := by
  obtain ⟨searchEvents, searching⟩ := run_searchWithin run
  refine searching.invariant (Prompt host external)
    ⟨SearchState.timely_initial client empty, fun _ _ _ member => ?_⟩ ?_
  · cases member
  · rintro search event next ⟨timely, once⟩ ⟨distinct, honest, prompt⟩ taken
    have stepped := SearchState.stepped_of_step taken
    exact ⟨timely.step (timely.sound.free distinct) honest prompt stepped,
      once.step honest stepped⟩

/-- Keys that are distinct are free. -/
theorem run_free {client : OefSearchClient} (empty : client.handles = ∅)
    (run : RunWithin (OnSearch parsers (InTime host external))
      (SystemState.step host external parsers) (initial client) events state) :
    RunWithin (OnSearch parsers fun state event =>
        SearchState.HonestService host external state event ∧
          SearchState.FreeKey external state event)
      (SystemState.step host external parsers) (initial client) events state := by
  apply run.mono
  intro events state event before inTime searchEvent stands
  obtain ⟨distinct, honest, _⟩ := inTime searchEvent stands
  exact ⟨honest, (run_prompt empty before).timely.sound.free distinct⟩

/-- An answer that is not being processed any more was passed to the continuation of its
request. -/
theorem Prompt.invoked {search : SearchState Double} (prompt : Prompt host external search)
    {id : RequestId} {request : SendRequest Double} {write : WriteState} {bytes : Buffer}
    {answer : Answer} (issued : search.issued id = some ⟨request, write⟩)
    (arrived : (some id, bytes) ∈ search.arrived)
    (message : SearchState.messageOf host external (some id) bytes = some answer)
    (finished : ∀ processing, search.processing = some processing →
      processing.answer.origin ≠ some id) :
    SearchState.invocationOf external request.handle answer ∈ search.invoked := by
  cases prompt.timely.stage id request write issued with
  | unsent unanswered | failed unanswered | awaited unanswered =>
      exact absurd ⟨bytes, arrived⟩ unanswered
  | processed _ _ message processing =>
      exact absurd (SearchState.messageOf_origin message) (finished _ processing)
  | @invoked _ bytes' _ _ arrived' message' member =>
      have same := prompt.once id bytes bytes' arrived arrived'
      rw [← same, message] at message'
      cases message'
      exact member

/-- What a request leads to follows from the invocation of its continuation. -/
theorem Outcome.follows
    (run : RunWithin (OnSearch parsers (InTime host external))
      (SystemState.step host external parsers) (initial (.make coreId coreIpAddr corePort))
      events state) {id : RequestId} {session : SessionId} {envelope : Envelope Double}
    {action : SessionAction Double} {operation : SessionOperation}
    {payload : Server.AgentMessage.Payload Double}
    (finished : ∀ processing, state.search.processing = some processing →
      processing.answer.origin ≠ some id)
    (logged : state.log[id]? = some ⟨session, envelope, action⟩)
    (asks : envelope.payload.operation? = some operation)
    (outcome : Outcome host external state.search id operation payload) :
    ∃ invocation ∈ state.search.invoked, Follows state.log invocation
      ⟨session, .search, .agentMessage { answerId := envelope.msgId, payload }⟩ := by
  have prompt := run_prompt rfl run
  obtain ⟨caused, _⟩ := run_faithful rfl (run_free rfl run)
  have request : ∀ {request write}, state.search.issued id = some ⟨request, write⟩ →
      ∃ call continuation, state.log[id]? =
          some ⟨session, envelope, .request call continuation⟩ ∧
        request.operation = continuation.operation.handleOperation ∧
          continuation.operation = operation ∧ continuation.msgId.toInt32 = envelope.msgId := by
    intro request write issued
    obtain ⟨session', envelope', call, continuation, logged', same⟩ := run_requested run issued
    obtain ⟨asks', under⟩ := run_asks run id session' envelope' call continuation logged'
    rw [logged] at logged'
    cases logged'
    rw [asks] at asks'
    cases asks'
    exact ⟨call, continuation, logged, same, rfl, under⟩
  cases outcome with
  | unwritten failed issued =>
      obtain ⟨call, continuation, logged, _, rfl, under⟩ := request issued
      obtain ⟨response, cause, member⟩ := caused.reported id _ _ issued failed
      refine ⟨_, member, .intro (.make "") rfl logged ?_⟩
      rw [AgentSession.answered_failed _ continuation failed, AgentSession.sendError, under]
      exact List.mem_singleton_self _
  | @answered bytes answer _ arrived message due =>
      obtain ⟨sent, write, issued⟩ := prompt.timely.answered id ⟨bytes, arrived⟩
      obtain ⟨call, continuation, logged, same, rfl, under⟩ := request issued
      have member := prompt.invoked issued arrived message finished
      have named := prompt.timely.sound.continuation id sent write issued
      refine ⟨_, member, .intro (.make "") named logged ?_⟩
      rw [AgentSession.answered_invocation external _ same, under]
      exact List.mem_map.mpr ⟨payload, due, rfl⟩

/-- **Agents are sent exactly what they are due** because of the search service, in every
run of the whole core in which keys are distinct, the service is honest and answers are in
time: once no answer is being processed, the messages sent because of the search service
are the outcomes of the requests that envelopes led to, each sent to the session that read
the envelope and under the message id of the envelope. -/
theorem run_results
    (run : RunWithin (OnSearch parsers (InTime host external))
      (SystemState.step host external parsers) (initial (.make coreId coreIpAddr corePort))
      events state) (finished : state.search.processing = none) (session : SessionId)
    (message : Server.AgentMessage Double) :
    ⟨session, .search, .agentMessage message⟩ ∈ state.node.sent ↔
      IsDue host external parsers (.make coreId coreIpAddr corePort) events state session
        message := by
  obtain ⟨caused, undisturbed⟩ := run_faithful rfl (run_free rfl run)
  rw [run_passedOn rfl run _ rfl]
  constructor
  · rintro ⟨invocation, invoked, follows⟩
    obtain ⟨_, same, due⟩ :=
      follows.isDue run caused invoked (undisturbed.invoked invocation invoked)
    cases same
    exact due
  · rintro ⟨enveloped, asks, outcome⟩
    obtain ⟨action, logged⟩ := logged_of_read run enveloped
    refine outcome.follows run (fun _ processing => ?_) logged asks
    rw [finished] at processing
    cases processing

/-! ### Every search -/

/-- A search has one outcome at most. -/
theorem Prompt.outcome_eq {search : SearchState Double} (prompt : Prompt host external search)
    {id : RequestId} {operation : SessionOperation} (searches : operation.searches = true)
    {payload other : Server.AgentMessage.Payload Double}
    (outcome : Outcome host external search id operation payload)
    (outcome' : Outcome host external search id operation other) : payload = other := by
  have unanswered : ∀ {request ec bytes}, search.issued id = some ⟨request, .handled ec⟩ →
      ec.failed = true → (some id, bytes) ∉ search.arrived := by
    intro request ec bytes issued failed arrived
    cases prompt.timely.stage id request _ issued with
    | unsent unanswered | failed unanswered | awaited unanswered =>
        exact unanswered ⟨bytes, arrived⟩
    | processed succeeded | invoked succeeded =>
        rw [failed] at succeeded
        cases succeeded
  cases outcome with
  | unwritten failed issued =>
      cases outcome' with
      | unwritten => rfl
      | answered arrived => exact absurd arrived (unanswered issued failed)
  | @answered bytes answer _ arrived message due =>
      cases outcome' with
      | unwritten failed issued => exact absurd arrived (unanswered issued failed)
      | @answered bytes' answer' _ arrived' message' due' =>
          have same := prompt.once id bytes bytes' arrived arrived'
          rw [← same, message] at message'
          cases message'
          obtain ⟨only, single⟩ := AgentSession.due_of_searches external searches answer
          rw [single, List.mem_singleton] at due due'
          rw [due, due']

/-- A search whose answer arrived, or whose request could not be written, has an outcome. -/
theorem Prompt.exists_outcome {search : SearchState Double} (prompt : Prompt host external search)
    {id : RequestId} {operation : SessionOperation} (searches : operation.searches = true)
    {request : SendRequest Double} {ec : ErrorCode}
    (issued : search.issued id = some ⟨request, .handled ec⟩)
    (served : ec.failed = false → search.Answered id) :
    ∃ payload, Outcome host external search id operation payload := by
  have answered : ∀ {bytes answer}, (some id, bytes) ∈ search.arrived →
      SearchState.messageOf host external (some id) bytes = some answer →
        ∃ payload, Outcome host external search id operation payload := by
    intro bytes answer arrived message
    obtain ⟨payload, single⟩ := AgentSession.due_of_searches external searches answer
    exact ⟨payload, .answered arrived message (single ▸ List.mem_singleton_self _)⟩
  cases prompt.timely.stage id request _ issued with
  | unsent _ unhandled => exact absurd rfl (unhandled ec)
  | failed _ failed => exact ⟨_, .unwritten failed issued⟩
  | awaited unanswered succeeded => exact absurd (served succeeded) unanswered
  | processed _ arrived message | invoked _ arrived message => exact answered arrived message

/-- An envelope that leads to a search asks for it. -/
theorem asks_of_searches {payload : Envelope.Payload Double} {operation : SessionOperation}
    (leads : payload.operation? = some operation) (searches : operation.searches = true)
    (description : Option (Instance Double)) : payload.asks description = true := by
  cases payload with
  | sendMessage | payloadNotSet => cases leads
  | unregisterDescription =>
      cases leads
      cases searches
  | registerService | unregisterService | registerDescription | searchServices
    | searchServicesWide | searchAgents => rfl

/-- **Every search has its reply.** In every run of the whole core in which keys are
distinct, the service is honest and answers are in time, once the core is at rest and the
service has answered what was sent to it: every envelope with a search that a session has
read has one outcome, and the session was sent it under the message id of the envelope. -/
theorem run_replied
    (run : RunWithin (OnSearch parsers (InTime host external))
      (SystemState.step host external parsers) (initial (.make coreId coreIpAddr corePort))
      events state) (rest : state.AtRest)
    (served : ∀ id request ec, state.search.issued id = some ⟨request, .handled ec⟩ →
      ec.failed = false → state.search.Answered id)
    {id : RequestId} {session : SessionId} {self : AgentSession Double}
    {before : SystemState Double} {envelope : Envelope Double} {operation : SessionOperation}
    (enveloped : EnvelopeRead host external parsers (.make coreId coreIpAddr corePort) events id
      session self before envelope) (leads : envelope.payload.operation? = some operation)
    (searches : operation.searches = true) :
    ∃ payload, (∀ other, Outcome host external state.search id operation other ↔
        other = payload) ∧
      ⟨session, .search, .agentMessage { answerId := envelope.msgId, payload }⟩ ∈
        state.node.sent := by
  have prompt := run_prompt rfl run
  have requested := request_of_read run.forget enveloped
  rw [if_pos (asks_of_searches leads searches self.description)] at requested
  obtain ⟨request, write, issued, _⟩ := requested
  obtain ⟨ec, rfl⟩ := rest.requests id request write issued
  obtain ⟨payload, outcome⟩ :=
    prompt.exists_outcome searches issued (served id request ec issued)
  refine ⟨payload, fun other => ⟨fun outcome' => ?_, fun same => same ▸ outcome⟩, ?_⟩
  · exact prompt.outcome_eq searches outcome' outcome
  · obtain ⟨action, logged⟩ := logged_of_read run enveloped
    rw [run_passedOn rfl run _ rfl]
    refine outcome.follows run (fun _ processing => ?_) logged leads
    rw [rest.processing] at processing
    cases processing

/-! ### A search that finds "b" -/

/-- The parsers of a handshake and of searches. -/
def bobParsers : NodeParsers Int where
  toHandshakeParsers := ServerState.shortParsers
  envelope := CoreState.searchEnvelope

def bobStep : SystemState Int → SystemEvent Int → Option (SystemState Int) :=
  step .little CoreState.bobExternal bobParsers

/-- "a" is connected. -/
def beforeBob : SystemState Int :=
  (execute bobStep (initial SearchState.pluto) connect).getD (initial SearchState.pluto)

/-- What the search service answers to its search. -/
def bobFrame : Buffer :=
  OefSearchClient.frame [0x10, 0x04, 0x1a, 0x02, 0x08, 0x01] CoreState.bobTwiceBytes

/-- "a" searches, and is answered after its request was written. -/
def searchForBob : List (SystemEvent Int) :=
  [searchServices, .search (.written 0), .search (.sent 0 .success),
    .search (.frame (some 0) bobFrame), .search .erase, .search .invoke]

def afterBob : SystemState Int :=
  (execute bobStep beforeBob searchForBob).getD beforeBob

/-- Events that are neither searches nor frames are in time. -/
theorem onSearch_inTime {state : SystemState Double} {event : SystemEvent Double}
    (other : ∀ searchEvent, state.searchEvent parsers event = some searchEvent →
      (∀ id operation agent msgId, searchEvent ≠ .call id operation agent msgId) ∧
        ∀ origin bytes, searchEvent ≠ .frame origin bytes) :
    OnSearch parsers (InTime host external) state event := by
  intro searchEvent stands
  obtain ⟨notCall, notFrame⟩ := other searchEvent stands
  exact SearchState.conditions_of_other notCall notFrame

/-- Nothing happens too early. -/
theorem searchForBob_inTime :
    AlongExecution (OnSearch bobParsers (InTime .little CoreState.bobExternal)) bobStep beforeBob
      searchForBob := by
  have quiet : ∀ (state : SystemState Int) (event : SearchEvent Int),
      (∀ id operation agent msgId, event ≠ .call id operation agent msgId) →
        (∀ origin bytes, event ≠ .frame origin bytes) →
          OnSearch bobParsers (InTime .little CoreState.bobExternal) state (.search event) := by
    intro state event notCall notFrame
    apply onSearch_inTime
    intro searchEvent stands
    cases stands
    exact ⟨notCall, notFrame⟩
  refine And.intro ?_ <| And.intro (quiet _ _ nofun nofun) <|
    And.intro (quiet _ _ nofun nofun) <| And.intro ?_ <|
      And.intro (quiet _ _ nofun nofun) <| And.intro (quiet _ _ nofun nofun) trivial
  · intro searchEvent stands
    cases stands
    exact ⟨fun _ _ _ _ _ _ _ _ issued => (nomatch issued), fun _ _ same => (nomatch same),
      fun _ _ same => (nomatch same)⟩
  · intro searchEvent stands
    cases stands
    have decoded : SearchState.messageOf .little CoreState.bobExternal (some 0) bobFrame =
        some ⟨some 0, { uri := "", id := 4, success := true }, some CoreState.bobTwiceBytes⟩ := rfl
    refine ⟨fun _ _ _ _ same => (nomatch same), ?_, ?_⟩
    · intro origin bytes same
      cases same
      refine ⟨0, _, _, rfl, rfl, Or.inr ⟨_, rfl, rfl⟩, ?_, fun answer message => ?_⟩
      · rintro ⟨_, arrived⟩
        cases arrived
      · rw [decoded] at message
        cases message
        rfl
    · intro id bytes same
      cases same
      refine ⟨fun request write issued => ?_, ?_⟩
      · cases issued
        exact ⟨_, rfl⟩
      · rw [decoded]
        exact Option.some_ne_none _

theorem run_bob : RunWithin (OnSearch bobParsers (InTime .little CoreState.bobExternal)) bobStep
    (initial SearchState.pluto) (connect ++ searchForBob) afterBob := by
  have connected : execute bobStep (initial SearchState.pluto) connect = some beforeBob := rfl
  have searched : execute bobStep beforeBob searchForBob = some afterBob := rfl
  refine (runWithin_of_execute connected (alongExecution_of_forall ?_)).append
    (runWithin_of_execute searched searchForBob_inTime)
  intro event member state
  apply onSearch_inTime
  intro searchEvent stands
  simp only [connect, List.mem_cons, List.not_mem_nil, or_false] at member
  rcases member with rfl | rfl | rfl | rfl | rfl | rfl <;> cases stands

/-- "a" is sent "b" twice, as is due to its search. -/
theorem run_results_bob : IsDue .little CoreState.bobExternal bobParsers SearchState.pluto
    (connect ++ searchForBob) afterBob 0
    { answerId := 1, payload := .agents ["b", "b"] } :=
  (run_results run_bob rfl 0 _).mp (List.mem_append_right _ (List.mem_singleton_self _))

/-- Everything that was sent because of the search service was due. -/
theorem run_ownResults_bob : ∃ message : Server.AgentMessage Int,
    ServerMessage.agentMessage { answerId := 1, payload := .agents ["b", "b"] } =
      .agentMessage message ∧
    IsDue .little CoreState.bobExternal bobParsers SearchState.pluto (connect ++ searchForBob)
      afterBob 0 message := by
  have member : (⟨0, .search, .agentMessage {
      answerId := 1, payload := .agents ["b", "b"] }⟩ : Sent Int) ∈ afterBob.node.sent :=
    List.mem_append_right _ (List.mem_singleton_self _)
  exact run_ownResults (run_free rfl run_bob) member rfl

theorem issued_bob {id : RequestId} (different : id ≠ 0) : afterBob.search.issued id = none := by
  have other : ∀ {table : RequestId → Option (Issued Int)} {entry : Option (Issued Int)},
      table id = none → Function.update table 0 entry id = none :=
    fun none => (Function.update_of_ne different _ _).trans none
  exact other (other (other rfl))

theorem atRest_bob : afterBob.AtRest where
  handshakes connection stage there := by
    by_cases same : connection = 0
    · subst same
      cases there
      exact .confirmed
    · have other : ∀ {stages : SessionId → Option HandshakeStage} {stage : Option HandshakeStage},
          stages connection = none → Function.update stages 0 stage connection = none :=
        fun none => (Function.update_of_ne same _ _).trans none
      have none : afterBob.node.stage connection = none :=
        other (other (other (other (other (other rfl)))))
      rw [none] at there
      cases there
  sessions session := by
    by_cases same : session = 0
    · subst same
      exact Or.inr rfl
    · left
      exact (Function.update_of_ne same _ _).trans rfl
  writes := rfl
  requests id request write issued := by
    by_cases same : id = 0
    · subst same
      cases issued
      exact ⟨_, rfl⟩
    · rw [issued_bob same] at issued
      cases issued
  processing := rfl

/-- The search of "a" has its reply. -/
theorem run_replied_bob : ∃ payload,
    (∀ other, Outcome .little CoreState.bobExternal afterBob.search 0 .searchService other ↔
      other = payload) ∧
    ⟨0, .search, .agentMessage { answerId := 1, payload }⟩ ∈ afterBob.node.sent := by
  have enveloped : EnvelopeRead .little CoreState.bobExternal bobParsers SearchState.pluto
      (connect ++ searchForBob) 0 0 (AgentSession.make "a") beforeBob
      (Pbs.deserialize bobParsers.envelope [0x08, 0x01, 0x3a, 0x02, 0x0a, 0x00]) := by
    have connected : execute bobStep (initial SearchState.pluto) connect = some beforeBob := rfl
    exact .intro rfl (run_of_execute connected) rfl rfl rfl
  refine run_replied run_bob atRest_bob (fun id request ec issued _ => ?_) enveloped rfl rfl
  by_cases same : id = 0
  · subst same
    exact ⟨bobFrame, List.mem_singleton_self _⟩
  · rw [issued_bob same] at issued
    cases issued

end SystemState

end OefCore
