import OefCore.Session.Answers

/-! # Conclusions of requests

A request to the search service is concluded when its continuation is invoked: by the
completion handler of its write, with an error, or by `process_message_`, with what it
makes of a message (`OefCore.SearchState.Concludes`).

A handle has the operation that its session waits for
(`OefCore.CoreState.Attributed`), so that a message is read as the answer to the request
it concludes. The session is then sent what its continuation answers, and nothing else
because of the same envelope (`OefCore.CoreState.run_concluded`).
-/

namespace OefCore

variable {Double : Type}

/-- The request of a session that a call serves. -/
def SearchCall.operation : SearchCall Double → SessionOperation
  | .registerDescription _ => .registerDescription
  | .unregisterDescription _ => .unregisterDescription
  | .registerService _ => .registerService
  | .unregisterService _ => .unregisterService
  | .searchAgents _ => .searchAgents
  | .searchService _ => .searchService
  | .searchServiceWide _ => .searchServiceWide

/-- The operation in the handle of a request. -/
def SessionOperation.handleOperation : SessionOperation → String
  | .registerDescription | .registerService => "update"
  | .unregisterDescription | .unregisterService => "remove"
  | .searchAgents | .searchService => "search-local"
  | .searchServiceWide => "search-wide"

theorem OefSearchClient.call_operation (hash : String → UInt64) (self : OefSearchClient)
    (agent : String) (msgId : UInt32) (continuation : AgentSessionContinuation)
    (operation : SearchCall Double) :
    (call hash self agent msgId continuation operation).2.operation =
      operation.operation.handleOperation := by
  cases operation <;> rfl

/-- A session passes on the continuation for what it calls. -/
theorem AgentSession.processEnvelope_request {directory : UnorderedMap String SessionId}
    {self after : AgentSession Double} {envelope : Envelope Double} {call : SearchCall Double}
    {continuation : SessionContinuation}
    (result : processEnvelope directory self envelope = (after, .request call continuation)) :
    call.operation = continuation.operation := by
  obtain ⟨msgId, payload⟩ := envelope
  cases payload with
  | sendMessage message =>
      simp only [processEnvelope, processMessage] at result
      split at result <;> cases result
  | unregisterDescription =>
      simp only [processEnvelope, processUnregisterDescription] at result
      split at result
      · cases result
      · cases result
        rfl
  | payloadNotSet => cases result
  | registerService | unregisterService | registerDescription | searchServices
  | searchServicesWide | searchAgents =>
      cases result
      rfl

namespace SearchState

/-- An event invokes the continuation of a request with some arguments. -/
inductive Concludes (external : External Double) (state : SearchState Double) (id : RequestId) :
    SearchEvent Double → ErrorCode → OefSearchResponse Double → Prop where
  | sendFailed {ec} (failed : ec.failed = true) : Concludes external state id (.sent id ec) ec {}
  | answered {answer handle} (found : state.processing = some ⟨answer, handle, true⟩)
      (named : handle.continuation = .request id) :
      Concludes external state id .invoke
        (OefSearchClient.answer external handle.operation answer.header answer.payload).1
        (OefSearchClient.answer external handle.operation answer.header answer.payload).2

variable {host : ByteOrder} {external : External Double} {state next : SearchState Double}
  {event : SearchEvent Double} {id : RequestId} {ec : ErrorCode}
  {response : OefSearchResponse Double}

theorem Concludes.invoked (concludes : state.Concludes external id event ec response)
    (sound : state.Sound) (stepped : Stepped host external state event next) :
    ∃ invocation, next.invoked = state.invoked ++ [invocation] ∧
      invocation.continuation = .request id ∧ invocation.ec = ec ∧
        invocation.response = response := by
  cases concludes with
  | sendFailed failed =>
      cases stepped with
      | sendFailed found => exact ⟨_, rfl, sound.continuation _ _ _ found, rfl, rfl⟩
      | sendSucceeded _ succeeded =>
          rw [succeeded] at failed
          cases failed
  | answered found named =>
      cases stepped with
      | invoked processing =>
          rw [found] at processing
          cases processing
          exact ⟨_, rfl, named, rfl, rfl⟩

/-- Only a call issues a request. -/
theorem Stepped.issued_of_notCall (stepped : Stepped host external state event next)
    (notCall : ∀ id call agent msgId, event ≠ .call id call agent msgId)
    {request : SendRequest Double} {write : WriteState}
    (issued : next.issued id = some ⟨request, write⟩) :
    ∃ before, state.issued id = some ⟨request, before⟩ := by
  rcases stepped.issued_origin issued with earlier | ⟨_, _, _, _, _, called, _⟩
  · exact earlier
  · exact absurd called (notCall _ _ _ _)

end SearchState

namespace CoreState

/-- Requests belong to processed envelopes, whose sessions wait for the operation in
the handle. Sessions of processed envelopes stay. -/
structure Attributed (state : CoreState Double) : Prop where
  requested : ∀ id request write, state.search.issued id = some ⟨request, write⟩ →
    ∃ session envelope call continuation,
      state.log[id]? = some ⟨session, envelope, .request call continuation⟩ ∧
        request.operation = continuation.operation.handleOperation
  present : ∀ (id : RequestId) (processed : ProcessedEnvelope Double),
    state.log[id]? = some processed → state.sessions processed.session ≠ none

variable {host : ByteOrder} {external : External Double} {parse : ParseFromArray (Envelope Double)}
  {state next : CoreState Double} {event : CoreEvent Double} {session : SessionId}

theorem sessions_update_ne_none {sessions : SessionId → Option (AgentSession Double)}
    (present : sessions session ≠ none) (other : SessionId) (self : AgentSession Double) :
    Function.update sessions other (some self) session ≠ none := by
  by_cases same : session = other
  · subst same
    rw [Function.update_self]
    exact Option.some_ne_none self
  · rwa [Function.update_of_ne same]

/-- A session that was constructed stays. -/
theorem Stepped.session_kept (stepped : Stepped host external parse state event next)
    (present : state.sessions session ≠ none) : next.sessions session ≠ none := by
  cases stepped with
  | started | processed => exact sessions_update_ne_none present _ _
  | forwarded | quiet => exact present
  | @answered _ search invocation =>
      rcases answer_cases { state with search } invocation with
        ⟨same, _⟩ | ⟨_, _, _, _, _, _, _, _, _, same⟩
      · rw [same]
        exact present
      · rw [same]
        exact sessions_update_ne_none present _ _

/-- A request was there before a step, or is the one of the envelope that is processed. -/
theorem Stepped.requested (stepped : Stepped host external parse state event next)
    {id : RequestId} {request : SendRequest Double} {write : WriteState}
    (issued : next.search.issued id = some ⟨request, write⟩) :
    (∃ before, state.search.issued id = some ⟨request, before⟩) ∨
      ∃ session envelope call continuation,
        next.log[id]? = some ⟨session, envelope, .request call continuation⟩ ∧
          request.operation = continuation.operation.handleOperation := by
  cases stepped with
  | started | forwarded => exact Or.inl ⟨write, issued⟩
  | @processed other directory buffer self after action search found result requested =>
      cases action with
      | nothing | send | forward =>
          cases requested
          exact Or.inl ⟨write, issued⟩
      | request call continuation =>
          have moved : state.search.step host external
              (.call state.log.length call after.publicKey continuation.msgId) = some search :=
            requested
          rcases (SearchState.stepped_of_step moved).issued_origin issued with
            earlier | ⟨_, _, _, _, _, same, made⟩
          · exact Or.inl earlier
          · cases same
            refine Or.inr ⟨other, Pbs.deserialize parse buffer, call, continuation,
              List.getElem?_concat_length, ?_⟩
            rw [made, OefSearchClient.call_operation,
              AgentSession.processEnvelope_request result]
  | quiet notCall taken =>
      exact Or.inl ((SearchState.stepped_of_step taken).issued_of_notCall notCall issued)
  | answered notCall taken =>
      rw [answer_search] at issued
      exact Or.inl ((SearchState.stepped_of_step taken).issued_of_notCall notCall issued)

/-- An entry of the log was there before a step, or its session processes the
envelope. -/
theorem Stepped.log_origin (stepped : Stepped host external parse state event next)
    {id : RequestId} {processed : ProcessedEnvelope Double}
    (logged : next.log[id]? = some processed) :
    state.log[id]? = some processed ∨ id = state.log.length ∧ ∃ directory buffer,
      event = .envelope processed.session directory buffer ∧
        processed.envelope = Pbs.deserialize parse buffer ∧
          state.sessions processed.session ≠ none := by
  cases stepped with
  | started | forwarded | quiet => exact Or.inl logged
  | @processed other directory buffer self after action search found =>
      rcases log_append logged with earlier | ⟨here, rfl⟩
      · exact Or.inl earlier
      · refine Or.inr ⟨here, directory, buffer, rfl, rfl, ?_⟩
        rw [found]
        exact Option.some_ne_none self
  | answered =>
      rw [answer_log] at logged
      exact Or.inl logged

theorem Attributed.step (attributed : state.Attributed)
    (stepped : Stepped host external parse state event next) : next.Attributed where
  requested id request write issued := by
    rcases stepped.requested issued with ⟨before, earlier⟩ | now
    · obtain ⟨session, envelope, call, continuation, logged, same⟩ :=
        attributed.requested id request before earlier
      exact ⟨session, envelope, call, continuation, stepped.log_kept logged, same⟩
    · exact now
  present id processed logged := by
    apply stepped.session_kept
    rcases stepped.log_origin logged with earlier | ⟨_, _, _, _, _, present⟩
    · exact attributed.present id processed earlier
    · exact present

theorem attributed_initial (client : OefSearchClient) :
    (initial client : CoreState Double).Attributed where
  requested _ _ _ issued := nomatch issued
  present _ _ logged := nomatch logged

theorem run_attributed {condition : CoreState Double → CoreEvent Double → Prop}
    {client : OefSearchClient} {events : List (CoreEvent Double)}
    (run : RunWithin condition (CoreState.step host external parse) (initial client) events state) :
    state.Attributed :=
  run.invariant Attributed (attributed_initial client) fun _ _ _ attributed _ taken =>
    attributed.step (stepped_of_step taken)

/-- The messages that sessions sent to their own agents because of an envelope. -/
def answersTo (state : CoreState Double) (id : RequestId) : List (SentAnswer Double) :=
  state.answers.filter fun sent => sent.cause == id

/-- What is left when a request of a session was concluded: the session its
continuation makes of it, and the answers of the continuation, which are all that was
sent because of the envelope. -/
structure Concluded (state next : CoreState Double) (id : RequestId) (ec : ErrorCode)
    (response : OefSearchResponse Double) (session : SessionId) (waiter : AgentSession Double)
    (continuation : SessionContinuation) : Prop where
  waiting : state.sessions session = some waiter
  sessions : next.sessions = Function.update state.sessions session
    (some (waiter.answered continuation ec response).1)
  answers : next.answersTo id = (waiter.answered continuation ec response).2.map fun message =>
    ⟨id, session, message⟩
  invoked : ∃ invocation, next.search.invoked = state.search.invoked ++ [invocation] ∧
    invocation.continuation = .request id ∧ invocation.ec = ec ∧ invocation.response = response

/-- Nothing was sent because of an envelope whose request is not concluded. -/
theorem Answering.answersTo_eq_nil (answering : state.Answering) {id : RequestId}
    {envelope : Envelope Double} {call : SearchCall Double} {continuation : SessionContinuation}
    (logged : state.log[id]? = some ⟨session, envelope, .request call continuation⟩)
    (unfired : state.search.fired id = 0) : state.answersTo id = [] := by
  have none : state.allowance id = 0 := by
    unfold allowance
    rw [logged]
    exact unfired
  have counted : state.answersFor id ≤ 0 := none ▸ answering.counted id
  rw [answersTo, ← List.length_eq_zero_iff, ← List.countP_eq_length_filter]
  exact Nat.le_zero.mp counted

/-- **A concluded request** has its continuation run in the session that made it, which
is sent the answers of the continuation and nothing else because of the envelope. -/
theorem run_concluded {coreId coreIpAddr : String} {corePort : UInt32}
    {events : List (CoreEvent Double)} {id : RequestId} {event : SearchEvent Double}
    {ec : ErrorCode} {response : OefSearchResponse Double} {envelope : Envelope Double}
    {call : SearchCall Double} {continuation : SessionContinuation}
    (run : Run (CoreState.step host external parse) (initial (.make coreId coreIpAddr corePort))
      events state)
    (logged : state.log[id]? = some ⟨session, envelope, .request call continuation⟩)
    (concludes : state.search.Concludes external id event ec response)
    (taken : CoreState.step host external parse state (.search event) = some next) :
    ∃ self, Concluded state next id ec response session self continuation := by
  obtain ⟨searchEvents, searching⟩ := run_search run
  have sound := SearchState.run_sound rfl searching
  have stepped := stepped_of_step taken
  have once : next.search.Once := by
    obtain ⟨_, searchingAfter⟩ := run_search (RunWithin.snoc run trivial taken)
    exact SearchState.run_once rfl searchingAfter
  cases stepped with
  | quiet _ moved same =>
      obtain ⟨invocation, appended, _⟩ :=
        concludes.invoked sound (SearchState.stepped_of_step moved)
      rw [same, List.self_eq_append_right] at appended
      exact absurd appended (List.cons_ne_nil _ _)
  | @answered _ search invocation _ moved appended =>
      obtain ⟨other, appended', named, rfl, rfl⟩ :=
        concludes.invoked sound (SearchState.stepped_of_step moved)
      rw [appended] at appended'
      obtain rfl := List.singleton_inj.mp (List.append_cancel_left appended')
      rw [answer_search] at once
      have unfired : state.search.fired id = 0 := by
        have most := once.most id
        rw [SearchState.fired_append appended, if_pos named] at most
        omega
      have before := (run_answering run).answersTo_eq_nil logged unfired
      rcases answer_cases { state with search } invocation with
        ⟨_, orphan⟩ | ⟨id', owner, envelope', call', continuation', self, named', found, here, same⟩
      · exact absurd (orphan id session envelope call continuation named logged)
          ((run_attributed run).present id _ logged)
      · rw [named] at named'
        cases named'
        change state.log[id]? = _ at found
        rw [logged] at found
        cases found
        refine ⟨self, here, by rw [same], ?_, invocation, by rw [same, appended], named, rfl, rfl⟩
        rw [answersTo] at before
        rw [same, answersTo, List.filter_append, before, List.nil_append, List.filter_eq_self]
        intro sent member
        obtain ⟨message, _, rfl⟩ := List.mem_map.mp member
        exact beq_self_eq_true id

/-- The handle that was found for a message has the operation of the request whose
continuation is in it. -/
theorem run_handleOperation {coreId coreIpAddr : String} {corePort : UInt32}
    {events : List (CoreEvent Double)} {id : RequestId} {answer : Answer} {handle : MsgHandle}
    {erased : Bool} {envelope : Envelope Double} {call : SearchCall Double}
    {continuation : SessionContinuation}
    (run : Run (CoreState.step host external parse) (initial (.make coreId coreIpAddr corePort))
      events state)
    (logged : state.log[id]? = some ⟨session, envelope, .request call continuation⟩)
    (found : state.search.processing = some ⟨answer, handle, erased⟩)
    (named : handle.continuation = .request id) :
    handle.operation = continuation.operation.handleOperation := by
  obtain ⟨searchEvents, searching⟩ := run_search run
  have sound := SearchState.run_sound rfl searching
  rcases sound.found answer handle erased found with rfl | ⟨other, belongs⟩
  · cases named
  · obtain rfl := belongs.named sound named
    obtain ⟨request, ec, issued, _, _, rfl⟩ := belongs
    obtain ⟨_, _, _, _, logged', same⟩ := (run_attributed run).requested _ _ _ issued
    rw [logged] at logged'
    cases logged'
    exact same

end CoreState

end OefCore
