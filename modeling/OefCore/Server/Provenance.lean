import OefCore.Search.Address
import OefCore.Server.System

/-! # Where requests come from

Every request to the search service was asked for by an envelope: it was read by the
session that was registered, at that time, under the key that the request is made for.
The request has the message id of the envelope, and its payload says what the envelope
asks for and nothing else (`OefCore.AskedFor`); no agent has requests made in the name of
another one. And every envelope that asks for something has its request
(`OefCore.SystemState.run_provenance`).
-/

namespace OefCore

variable {Double : Type}

/-- An envelope asks the search service for something. To unregister a description, there
has to be one. -/
def Envelope.Payload.asks (description : Option (Instance Double)) :
    Envelope.Payload Double → Bool
  | .sendMessage _ | .payloadNotSet => false
  | .unregisterDescription => description.isSome
  | .registerService _ | .unregisterService _ | .registerDescription _ | .searchServices _
    | .searchServicesWide _ | .searchAgents _ => true

/-- The call of the search client that an action is, if it is one. -/
def SessionAction.call? : SessionAction Double → Option (SearchCall Double × SessionContinuation)
  | .request call continuation => some (call, continuation)
  | .nothing | .send _ | .forward _ _ _ => none

/-- The address of a core, as an attribute of an Update. -/
def addressAttribute (coreId coreIpAddr : String) (corePort : UInt32) : Update.Attribute :=
  { type := 10, address :=
      { ip := coreIpAddr, port := corePort, key := coreId, signature := "Sign" } }

/-- What the session of an agent with some key and description asks the search service for
with an envelope: the path, and the payload. An Update registers the data model and the
values of the envelope as they are, under the key up to its first null, and may tell
the address of the core. -/
inductive AskedFor (coreId coreIpAddr : String) (corePort : UInt32) (key : String)
    (description : Option (Instance Double)) :
    Envelope.Payload Double → String → SearchPayload Double → Prop where
  | registerService {desc : AgentDescription Double} {attributes : List Update.Attribute}
      (own : attributes <+: [addressAttribute coreId coreIpAddr corePort]) :
      AskedFor coreId coreIpAddr corePort key description (.registerService desc) "update"
        (.update { key := coreId, attributes, dataModels := [{
          key := OefSearchClient.cStr key, model := desc.description.model
          values := desc.description.values }] })
  | registerDescription {desc : AgentDescription Double} {attributes : List Update.Attribute}
      (own : attributes <+: [addressAttribute coreId coreIpAddr corePort]) :
      AskedFor coreId coreIpAddr corePort key description (.registerDescription desc) "update"
        (.update { key := coreId, attributes, dataModels := [{
          key := OefSearchClient.cStr key, model := desc.description.model
          values := desc.description.values }] })
  | unregisterService {desc : AgentDescription Double} :
      AskedFor coreId coreIpAddr corePort key description (.unregisterService desc) "remove"
        (.remove { key := coreId, all := false, dataModels := [desc.description.model] })
  | unregisterDescription {registered : Instance Double}
      (there : description = some registered) :
      AskedFor coreId coreIpAddr corePort key description .unregisterDescription "remove"
        (.remove { key := coreId, all := false, dataModels := [registered.model] })
  | searchAgents {search : AgentSearch Double} :
      AskedFor coreId coreIpAddr corePort key description (.searchAgents search) "search"
        (.search { sourceKey := coreId, model := search.query, ttl := 1 })
  | searchServices {search : AgentSearch Double} :
      AskedFor coreId coreIpAddr corePort key description (.searchServices search) "search"
        (.search { sourceKey := coreId, model := search.query, ttl := 1 })
  | searchServicesWide {search : AgentSearch Double} :
      AskedFor coreId coreIpAddr corePort key description (.searchServicesWide search) "search"
        (.search { sourceKey := coreId, model := search.query, ttl := 3 })

section Call

variable {hash : String → UInt64} {client : OefSearchClient} {key : String}
  {continuation : AgentSessionContinuation}

/-- The Update that registers a service. -/
theorem registerService_asked (service : Instance Double) (msgId : UInt32) :
    ∃ attributes,
      attributes <+: [addressAttribute client.coreId client.coreIpAddr client.corePort] ∧
      (OefSearchClient.registerService hash client key msgId continuation service).2.payload =
        .update { key := client.coreId, attributes, dataModels := [{
          key := OefSearchClient.cStr key, model := service.model
          values := service.handle.values }] } := by
  simp only [OefSearchClient.registerService, OefSearchClient.generateUpdate,
    OefSearchClient.generateUpdateAddNaddr]
  split
  · exact ⟨[], List.nil_prefix, rfl⟩
  · exact ⟨_, List.prefix_refl _, rfl⟩

/-- A session calls the search client if its envelope asks for something. -/
theorem processEnvelope_call {directory : UnorderedMap String SessionId}
    {self after : AgentSession Double} {envelope : Envelope Double} {action : SessionAction Double}
    (result : AgentSession.processEnvelope directory self envelope = (after, action)) :
    action.call?.isSome = envelope.payload.asks self.description := by
  obtain ⟨msgId, payload⟩ := envelope
  cases payload with
  | sendMessage message =>
      simp only [AgentSession.processEnvelope, AgentSession.processMessage] at result
      split at result
      · cases result
        rfl
      · cases result
        rfl
  | unregisterDescription =>
      simp only [AgentSession.processEnvelope, AgentSession.processUnregisterDescription] at result
      split at result
      · rename_i none
        cases result
        rw [Envelope.Payload.asks, none]
        rfl
      · rename_i some
        cases result
        rw [Envelope.Payload.asks, some]
        rfl
  | registerService | unregisterService | registerDescription | searchServices
    | searchServicesWide | searchAgents | payloadNotSet =>
      cases result
      rfl

/-- The call is for what the envelope asks for, under its message id. -/
theorem processEnvelope_asked {directory : UnorderedMap String SessionId}
    {self after : AgentSession Double} {envelope : Envelope Double} {call : SearchCall Double}
    {waiter : SessionContinuation}
    (result : AgentSession.processEnvelope directory self envelope =
      (after, .request call waiter)) :
    waiter.msgId = envelope.msgId.toUInt32 ∧ ∃ uri,
      let request := (OefSearchClient.call hash client key waiter.msgId continuation call).2
      request.header = OefSearchClient.generateHeader uri
          (OefSearchClient.generateSmsgId hash key waiter.msgId).toUInt32 ∧
        AskedFor client.coreId client.coreIpAddr client.corePort key self.description
          envelope.payload uri request.payload := by
  obtain ⟨msgId, payload⟩ := envelope
  cases payload with
  | sendMessage message =>
      simp only [AgentSession.processEnvelope, AgentSession.processMessage] at result
      split at result <;> cases result
  | unregisterDescription =>
      simp only [AgentSession.processEnvelope, AgentSession.processUnregisterDescription] at result
      split at result
      · cases result
      · rename_i there
        cases result
        exact ⟨rfl, "remove", rfl, .unregisterDescription there⟩
  | payloadNotSet => cases result
  | registerService desc =>
      cases result
      obtain ⟨attributes, own, payload⟩ :=
        @registerService_asked _ hash client key continuation (Instance.ofMessage desc.description)
          msgId.toUInt32
      refine ⟨rfl, "update", rfl, ?_⟩
      dsimp only [OefSearchClient.call]
      rw [payload]
      exact .registerService own
  | registerDescription desc =>
      cases result
      obtain ⟨attributes, own, payload⟩ :=
        @registerService_asked _ hash client key continuation (Instance.ofMessage desc.description)
          msgId.toUInt32
      refine ⟨rfl, "update", rfl, ?_⟩
      dsimp only [OefSearchClient.call, OefSearchClient.registerDescription]
      rw [payload]
      exact .registerDescription own
  | unregisterService desc =>
      cases result
      exact ⟨rfl, "remove", rfl, .unregisterService⟩
  | searchServices search =>
      cases result
      exact ⟨rfl, "search", rfl, .searchServices⟩
  | searchServicesWide search =>
      cases result
      exact ⟨rfl, "search", rfl, .searchServicesWide⟩
  | searchAgents search =>
      cases result
      exact ⟨rfl, "search", rfl, .searchAgents⟩

end Call

namespace SystemState

variable (host : ByteOrder) (external : External Double) (parsers : NodeParsers Double)

/-- An envelope was read by a session: the state before that, in which the envelope gets its
number, and what is in it. -/
inductive EnvelopeRead (client : OefSearchClient) (events : List (SystemEvent Double))
    (id : RequestId) (session : SessionId) (self : AgentSession Double)
    (before : SystemState Double) : Envelope Double → Prop where
  | intro {earlier later : List (SystemEvent Double)} {ec : ErrorCode} {buffer : Buffer}
      (whole : events = earlier ++ .node (.read session ec buffer) :: later)
      (run : Run (step host external parsers) (initial client) earlier before)
      (read : ec.failed = false) (numbered : before.log.length = id)
      (there : before.node.session session = some self) :
      EnvelopeRead client events id session self before
        (Pbs.deserialize parsers.envelope buffer)

/-- A request is the one that an envelope asks for, on behalf of the agent under whose key the
session that read it was registered. -/
structure Serves (coreId coreIpAddr : String) (corePort : UInt32) (session : SessionId)
    (self : AgentSession Double) (before : SystemState Double) (envelope : Envelope Double)
    (request : SendRequest Double) : Prop where
  registered : before.node.directory.lookup request.agent = some session
  msgId : request.msgId = envelope.msgId.toUInt32
  asked : ∃ uri,
    request.header = OefSearchClient.generateHeader uri
        (OefSearchClient.generateSmsgId external.hash request.agent request.msgId).toUInt32 ∧
      AskedFor coreId coreIpAddr corePort request.agent self.description envelope.payload uri
        request.payload

variable {host external parsers} {state next : SystemState Double} {event : SystemEvent Double}
  {events : List (SystemEvent Double)} {client : OefSearchClient} {id : RequestId}
  {session : SessionId} {self : AgentSession Double} {before : SystemState Double}
  {envelope : Envelope Double} {coreId coreIpAddr : String} {corePort : UInt32}

theorem EnvelopeRead.snoc
    (read : EnvelopeRead host external parsers client events id session self before envelope)
    (event : SystemEvent Double) :
    EnvelopeRead host external parsers client (events ++ [event]) id session self before
      envelope := by
  obtain ⟨whole, run, read, numbered, there⟩ := read
  have longer := congrArg (· ++ [event]) whole
  rw [List.append_assoc, List.cons_append] at longer
  exact .intro longer run read numbered there

/-! ### Numbers -/

/-- A step numbers the envelope that it has a session read. -/
theorem Stepped.log_cases (stepped : Stepped host external parsers state event next) :
    next.log = state.log ∨ ∃ session ec buffer self processed,
      event = .node (.read session ec buffer) ∧ ec.failed = false ∧
        state.node.session session = some self ∧ next.log = state.log ++ [processed] := by
  cases stepped with
  | moved | quiet => exact Or.inl rfl
  | processed there read => exact Or.inr ⟨_, _, _, _, _, rfl, read, there, rfl⟩
  | resumed => exact Or.inl (resume_log _ _)

/-- Every number stands for an envelope that was read. -/
theorem run_numbers {client : OefSearchClient}
    (run : Run (SystemState.step host external parsers) (initial client) events state) :
    ∀ id < state.log.length, ∃ session self before envelope,
      EnvelopeRead host external parsers client events id session self before envelope := by
  refine run.traceInvariant (fun events state => ∀ id < state.log.length,
    ∃ session self before envelope,
      EnvelopeRead host external parsers client events id session self before envelope)
    (fun id below => absurd below (Nat.not_lt_zero id)) ?_
  intro events state event next run earlier _ taken id below
  rcases (stepped_of_step taken).log_cases with
    same | ⟨session, ec, buffer, self, processed, rfl, read, there, grown⟩
  · rw [same] at below
    obtain ⟨session, self, before, envelope, there⟩ := earlier id below
    exact ⟨session, self, before, envelope, there.snoc event⟩
  · rw [grown, List.length_append, List.length_singleton, Nat.lt_succ_iff] at below
    rcases Nat.lt_or_eq_of_le below with smaller | rfl
    · obtain ⟨session', self, before, envelope, there⟩ := earlier id smaller
      exact ⟨session', self, before, envelope, there.snoc _⟩
    · exact ⟨session, self, state, _, .intro rfl run read rfl there⟩

theorem Stepped.log_kept (stepped : Stepped host external parsers state event next)
    {processed : ProcessedEnvelope Double} (logged : state.log[id]? = some processed) :
    next.log[id]? = some processed := by
  rcases stepped.log_cases with same | ⟨_, _, _, _, last, _, _, _, grown⟩
  · rw [same]
    exact logged
  · obtain ⟨below, _⟩ := List.getElem?_eq_some_iff.mp logged
    rw [grown, List.getElem?_append_left below]
    exact logged

theorem Stepped.issued_kept (stepped : Stepped host external parsers state event next)
    {request : SendRequest Double} {write : WriteState}
    (issued : state.search.issued id = some ⟨request, write⟩) :
    ∃ later, next.search.issued id = some ⟨request, later⟩ := by
  rcases stepped.search_step with same | ⟨searchEvent, taken, _⟩
  · rw [same]
    exact ⟨write, issued⟩
  · exact (SearchState.stepped_of_step taken).issued_kept issued

/-- What was numbered and issued stays. -/
theorem run_kept {start : SystemState Double}
    (run : Run (SystemState.step host external parsers) start events state) :
    (∀ processed, start.log[id]? = some processed → state.log[id]? = some processed) ∧
      ∀ request write, start.search.issued id = some ⟨request, write⟩ →
        ∃ later, state.search.issued id = some ⟨request, later⟩ := by
  refine run.invariant (fun state =>
    (∀ processed, start.log[id]? = some processed → state.log[id]? = some processed) ∧
      ∀ request write, start.search.issued id = some ⟨request, write⟩ →
        ∃ later, state.search.issued id = some ⟨request, later⟩)
    ⟨fun _ there => there, fun _ write there => ⟨write, there⟩⟩ ?_
  rintro state event next ⟨logged, issued⟩ _ taken
  have stepped := stepped_of_step taken
  refine ⟨fun processed there => stepped.log_kept (logged processed there), ?_⟩
  intro request write there
  obtain ⟨_, later⟩ := issued request write there
  exact stepped.issued_kept later

/-! ### Requests -/

theorem call_agent (hash : String → UInt64) (client : OefSearchClient) (agent : String)
    (msgId : UInt32) (continuation : AgentSessionContinuation) (operation : SearchCall Double) :
    (OefSearchClient.call hash client agent msgId continuation operation).2.agent = agent ∧
      (OefSearchClient.call hash client agent msgId continuation operation).2.msgId = msgId := by
  cases operation <;> exact ⟨rfl, rfl⟩

/-- The handler that reads an envelope calls the search client for what the envelope asks
for. -/
theorem processed_serves {coreId coreIpAddr : String} {corePort : UInt32}
    (run : Run (SystemState.step host external parsers)
      (initial (.make coreId coreIpAddr corePort)) events state)
    {ec : ErrorCode} {buffer : Buffer} (read : ec.failed = false)
    (there : state.node.session session = some self)
    (stepped : Stepped host external parsers state (.node (.read session ec buffer)) next) :
    ∃ action,
      next.log = state.log ++ [⟨session, Pbs.deserialize parsers.envelope buffer, action⟩] ∧
      action.call?.isSome =
        (Pbs.deserialize parsers.envelope buffer).payload.asks self.description ∧
      (action.call?.isSome = true → ∃ request write,
        next.search.issued state.log.length = some ⟨request, write⟩ ∧
          Serves external coreId coreIpAddr corePort session self state
            (Pbs.deserialize parsers.envelope buffer) request) := by
  cases stepped with
  | moved _ unread =>
      rw [NodeEvent.envelopeRead, read] at unread
      cases unread
  | @processed _ _ _ node current after action search here _ result taken requested =>
      rw [there] at here
      cases here
      refine ⟨action, rfl, processEnvelope_call result, fun asks => ?_⟩
      cases action with
      | nothing | send | forward => cases asks
      | request call waiter =>
          obtain ⟨nodeEvents, handlers, _⟩ := run_node run
          obtain ⟨searchEvents, searching⟩ := run_search run
          have addressed := SearchState.run_addressed searching
          have busy : state.node.readLoop session ≠ .idle := by
            rw [(NodeState.stepped_of_step taken).reading]
            intro idle
            cases idle
          have registered := (NodeState.run_sessions handlers).registered_of_busy busy there
          have key : after.publicKey = self.publicKey := by
            have same := AgentSession.processEnvelope_publicKey state.node.directory self
              (Pbs.deserialize parsers.envelope buffer)
            rwa [show AgentSession.processEnvelope _ _ _ = _ from result] at same
          rw [key] at requested
          have moved : state.search.step host external
              (.call state.log.length call self.publicKey waiter.msgId) = some search := requested
          obtain ⟨msgId, uri, header, asked⟩ := @processEnvelope_asked _ external.hash
            state.search.client self.publicKey (.request state.log.length) _ _ _ _ _ _ result
          rw [addressed.sameIp, addressed.samePort, addressed.sameKey] at asked
          obtain ⟨agent, sameId⟩ := call_agent external.hash state.search.client self.publicKey
            waiter.msgId (.request state.log.length) call
          cases SearchState.stepped_of_step moved with
          | called fresh =>
              refine ⟨_, _, Function.update_self _ _ _, ?_, ?_, uri, ?_, ?_⟩
              · rw [agent]
                exact registered
              · rw [sameId, msgId]
              · rw [agent, sameId]
                exact header
              · rw [agent]
                exact asked

/-- An envelope that was read has the request it asks for, from then on. -/
theorem request_of_read
    (run : Run (SystemState.step host external parsers)
      (initial (.make coreId coreIpAddr corePort)) events state)
    (enveloped : EnvelopeRead host external parsers (.make coreId coreIpAddr corePort) events id
      session self before envelope) :
    if envelope.payload.asks self.description then
      ∃ request write, state.search.issued id = some ⟨request, write⟩ ∧
        Serves external coreId coreIpAddr corePort session self before envelope request
    else state.search.issued id = none := by
  have waiting := run_waits rfl run
  obtain ⟨whole, first, read, numbered, there⟩ := enveloped
  subst whole numbered
  obtain ⟨before', after, prior, _, taken, rest⟩ := run.around
  cases first.executed.symm.trans prior.executed
  obtain ⟨action, grown, calls, serves⟩ :=
    processed_serves first read there (stepped_of_step taken)
  obtain ⟨kept, issuedKept⟩ := @run_kept _ _ _ _ _ _ before.log.length _ rest
  rw [← calls]
  split
  · rename_i asks
    obtain ⟨request, write, issued, serves⟩ := serves asks
    obtain ⟨later, issued⟩ := issuedKept request write issued
    exact ⟨request, later, issued, serves⟩
  · rename_i quiet
    by_contra issued
    have asked := waiting.asked before.log.length issued
    obtain ⟨⟨waitingSession, continuation⟩, waited⟩ := Option.ne_none_iff_exists'.mp asked
    obtain ⟨envelope, call, logged⟩ := waiter_eq_some.mp waited
    have numbered := kept ⟨session, _, action⟩
      (by rw [grown]; exact List.getElem?_concat_length)
    rw [numbered] at logged
    cases logged
    exact quiet rfl

/-- **Where requests come from.** Every request belongs to an envelope that was read. An
envelope that asks the search service for something has exactly its request: on behalf
of the agent under whose key the session was registered when it read the envelope,
under the message id of the envelope, and for what the envelope asks for. No other
envelope has one. -/
theorem run_provenance
    (run : Run (SystemState.step host external parsers)
      (initial (.make coreId coreIpAddr corePort)) events state) :
    (∀ id, state.search.issued id ≠ none → ∃ session self before envelope,
      EnvelopeRead host external parsers (.make coreId coreIpAddr corePort) events id session
        self before envelope) ∧
    ∀ id session self before envelope,
      EnvelopeRead host external parsers (.make coreId coreIpAddr corePort) events id session
        self before envelope →
      if envelope.payload.asks self.description then
        ∃ request write, state.search.issued id = some ⟨request, write⟩ ∧
          Serves external coreId coreIpAddr corePort session self before envelope request
      else state.search.issued id = none := by
  have waiting := run_waits rfl run
  constructor
  · intro id issued
    exact run_numbers run id (waiter_below (waiting.asked id issued))
  · intro id session self before envelope enveloped
    exact request_of_read run enveloped

/-- "a" is connected, and has asked for nothing. -/
def afterConnect : SystemState Int :=
  (execute shortStep (initial SearchState.pluto) connect).getD (initial SearchState.pluto)

/-- The search of "a" has its request. -/
theorem run_provenance_search : ∃ request write,
    afterSearch.search.issued 0 = some ⟨request, write⟩ ∧
      Serves SearchState.shortExternal "oef-core-pluto" "127.0.0.1" 3333 0
        (AgentSession.make "a") afterConnect
        (Pbs.deserialize shortParsers.envelope [0x08, 0x01, 0x3a, 0x02, 0x0a, 0x00]) request := by
  have connected : execute shortStep (initial SearchState.pluto) connect = some afterConnect := rfl
  have served := (run_provenance (run_of_execute executed_search)).2 0 0 (AgentSession.make "a")
    afterConnect _ (.intro rfl (run_of_execute connected) rfl rfl rfl)
  have asks : (Pbs.deserialize shortParsers.envelope
      [0x08, 0x01, 0x3a, 0x02, 0x0a, 0x00]).payload.asks (AgentSession.make "a").description =
        true := rfl
  rwa [if_pos asks] at served

end SystemState

end OefCore
