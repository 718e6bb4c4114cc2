import OefCore.Session.Requests

/-! # Answers to searches

The search service answers local and wide searches with the same kind of message.
`process_message_` makes a list of keys of it for the one and copies it field by field
for the other, and the sessions put these into messages of two kinds.

`OefCore.CoreState.searches_agree` compares what two agents are sent for the same
response: the wide answer has its items as they are, the local one the keys of their
agents one after the other.
-/

namespace OefCore

variable {Double : Type}

/-- Copying a wide result field by field changes nothing. -/
theorem OefSearchClient.wideResult_eq (searchResp : SearchResponse Double) :
    wideResult searchResp = ⟨searchResp.result⟩ := by
  have agents : ∀ item : SearchItem Double,
      item.agents.map (fun a => { key := a.key, score := a.score : AgentInfo Double }) =
        item.agents := fun item => List.map_id' item.agents
  rw [wideResult]
  simp only [agents]
  exact congrArg SearchResultWide.mk (List.map_id' searchResp.result)

/-- The keys of the agents of a result, item by item. -/
def agentKeys (items : List (SearchItem Double)) : List String :=
  items.flatMap fun item => item.agents.map fun a => a.key

/-- A message delivers a search response with a successful header. A response without
results has no bytes and comes without a payload. -/
def Answer.Delivers (external : External Double) (searchResp : SearchResponse Double)
    (answer : Answer) : Prop :=
  answer.header.success = true ∧
    match answer.payload with
    | some payload => external.searchResponse payload = (true, searchResp)
    | none => searchResp.result = []

/-- What the client makes of a response to a local search. -/
theorem OefSearchClient.answer_local {external : External Double}
    {searchResp : SearchResponse Double} {answer : Answer}
    (delivers : answer.Delivers external searchResp) :
    ∃ response, OefSearchClient.answer external "search-local" answer.header answer.payload =
      (.success, response) ∧ response.agents = agentKeys searchResp.result := by
  obtain ⟨origin, header, payload⟩ := answer
  obtain ⟨succeeded, delivered⟩ := delivers
  dsimp only at succeeded delivered ⊢
  unfold OefSearchClient.answer
  rw [succeeded]
  cases payload with
  | none =>
      dsimp only at delivered
      refine ⟨{}, rfl, ?_⟩
      rw [delivered]
      rfl
  | some payload =>
      dsimp only at delivered
      refine ⟨.ofAgents (localAgents searchResp), ?_, rfl⟩
      have decoded : Pbs.deserialize external.searchResponse payload = searchResp :=
        congrArg Prod.snd delivered
      rw [← decoded]
      rfl

/-- What the client makes of a response to a wide search. -/
theorem OefSearchClient.answer_wide {external : External Double}
    {searchResp : SearchResponse Double} {answer : Answer}
    (delivers : answer.Delivers external searchResp) :
    ∃ response, OefSearchClient.answer external "search-wide" answer.header answer.payload =
      (.success, response) ∧ response.searchResultWide = ⟨searchResp.result⟩ := by
  obtain ⟨origin, header, payload⟩ := answer
  obtain ⟨succeeded, delivered⟩ := delivers
  dsimp only at succeeded delivered ⊢
  unfold OefSearchClient.answer
  rw [succeeded]
  cases payload with
  | none =>
      dsimp only at delivered
      refine ⟨{}, rfl, ?_⟩
      rw [delivered]
  | some payload =>
      dsimp only at delivered
      refine ⟨.ofWide (wideResult searchResp), ?_, wideResult_eq searchResp⟩
      have decoded : Pbs.deserialize external.searchResponse payload = searchResp :=
        congrArg Prod.snd delivered
      rw [← decoded]
      rfl

/-- What the continuation of a request sends for a message. -/
def AgentSession.messagesFor (external : External Double) (self : AgentSession Double)
    (continuation : SessionContinuation) (answer : Answer) : List (Server.AgentMessage Double) :=
  let (ec, response) := OefSearchClient.answer external continuation.operation.handleOperation
    answer.header answer.payload
  (self.answered continuation ec response).2

/-- What the agent of a local search is sent for a response. -/
theorem AgentSession.messagesFor_local (external : External Double) (self : AgentSession Double)
    {continuation : SessionContinuation} {searchResp : SearchResponse Double} {answer : Answer}
    (delivers : answer.Delivers external searchResp)
    (localSearch : continuation.operation = .searchAgents ∨
      continuation.operation = .searchService) :
    self.messagesFor external continuation answer =
      [{ answerId := continuation.msgId.toInt32
         payload := .agents (agentKeys searchResp.result) }] := by
  obtain ⟨operation, msgId⟩ := continuation
  obtain ⟨response, answered, agents⟩ := OefSearchClient.answer_local delivers
  dsimp only at localSearch
  rcases localSearch with rfl | rfl
  all_goals
    simp only [messagesFor, SessionOperation.handleOperation, answered]
    rw [← agents]
    rfl

/-- What the agent of a wide search is sent for a response. -/
theorem AgentSession.messagesFor_wide (external : External Double) (self : AgentSession Double)
    {continuation : SessionContinuation} {searchResp : SearchResponse Double} {answer : Answer}
    (delivers : answer.Delivers external searchResp)
    (wideSearch : continuation.operation = .searchServiceWide) :
    self.messagesFor external continuation answer =
      [{ answerId := continuation.msgId.toInt32
         payload := .agentsWide ⟨searchResp.result⟩ }] := by
  obtain ⟨operation, msgId⟩ := continuation
  obtain ⟨response, answered, result⟩ := OefSearchClient.answer_wide delivers
  dsimp only at wideSearch
  subst wideSearch
  simp only [messagesFor, SessionOperation.handleOperation, answered]
  rw [← result]
  rfl

namespace CoreState

/-- In a run of the core, a request of a session is answered with a search response. -/
structure SearchAnswered (host : ByteOrder) (external : External Double)
    (parse : ParseFromArray (Envelope Double)) (searchResp : SearchResponse Double)
    (state next : CoreState Double) (id : RequestId) (session : SessionId)
    (envelope : Envelope Double) (continuation : SessionContinuation) : Prop where
  reached : ∃ coreId coreIpAddr corePort events,
    Run (step host external parse) (initial (.make coreId coreIpAddr corePort)) events state
  logged : ∃ call, state.log[id]? = some ⟨session, envelope, .request call continuation⟩
  delivered : ∃ answer handle, state.search.processing = some ⟨answer, handle, true⟩ ∧
    handle.continuation = .request id ∧ answer.Delivers external searchResp
  taken : step host external parse state (.search .invoke) = some next

variable {host : ByteOrder} {external : External Double} {parse : ParseFromArray (Envelope Double)}
  {searchResp : SearchResponse Double}

/-- The session of an answered search is sent what its continuation makes of the
response, under the message id of the search. -/
theorem SearchAnswered.answersTo {state next : CoreState Double} {id : RequestId}
    {session : SessionId} {envelope : Envelope Double} {continuation : SessionContinuation}
    (answered : SearchAnswered host external parse searchResp state next id session envelope
      continuation) :
    continuation.msgId.toInt32 = envelope.msgId ∧
      ∃ (self : AgentSession Double) (answer : Answer), answer.Delivers external searchResp ∧
        next.answersTo id = (self.messagesFor external continuation answer).map fun message =>
          ⟨id, session, message⟩ := by
  obtain ⟨_, _, _, _, run⟩ := answered.reached
  obtain ⟨call, logged⟩ := answered.logged
  obtain ⟨answer, handle, found, named, delivers⟩ := answered.delivered
  obtain ⟨self, concluded⟩ := run_concluded run logged (.answered found named) answered.taken
  have answers := concluded.answers
  rw [run_handleOperation run logged found named] at answers
  exact ⟨(run_answering run).logged _ _ logged, self, answer, delivers, answers⟩

/-- **Local and wide answers carry the same results.** When a local search and a wide
search are answered with the same response, the wide answer has the items of the
response, the local one the keys of their agents in order, and each is the only message
because of its envelope and has its message id. -/
theorem searches_agree {localState localNext wideState wideNext : CoreState Double}
    {localId wideId : RequestId} {localSession wideSession : SessionId}
    {localEnvelope wideEnvelope : Envelope Double}
    {localContinuation wideContinuation : SessionContinuation}
    (localSearch : localContinuation.operation = .searchAgents ∨
      localContinuation.operation = .searchService)
    (wideSearch : wideContinuation.operation = .searchServiceWide)
    (localAnswered : SearchAnswered host external parse searchResp localState localNext localId
      localSession localEnvelope localContinuation)
    (wideAnswered : SearchAnswered host external parse searchResp wideState wideNext wideId
      wideSession wideEnvelope wideContinuation) :
    ∃ agents items,
      localNext.answersTo localId =
        [⟨localId, localSession, { answerId := localEnvelope.msgId, payload := .agents agents }⟩] ∧
      wideNext.answersTo wideId =
        [⟨wideId, wideSession, {
          answerId := wideEnvelope.msgId, payload := .agentsWide ⟨items⟩ }⟩] ∧
      items = searchResp.result ∧ agents = agentKeys searchResp.result ∧
      agents = agentKeys items := by
  obtain ⟨localUnder, localSelf, localAnswer, localDelivers, localSent⟩ := localAnswered.answersTo
  obtain ⟨wideUnder, wideSelf, wideAnswer, wideDelivers, wideSent⟩ := wideAnswered.answersTo
  refine ⟨agentKeys searchResp.result, searchResp.result, ?_, ?_, rfl, rfl, rfl⟩
  · rw [localSent, localSelf.messagesFor_local external localDelivers localSearch, localUnder]
    rfl
  · rw [wideSent, wideSelf.messagesFor_wide external wideDelivers wideSearch, wideUnder]
    rfl

/-! ### One response, two searches -/

/-- Two agents with one key in a single item. -/
def bobTwice : SearchResponse Int where
  result := [{ key := "k", ip := "", port := 0, info := "", distance := 0
               agents := [⟨"b", 0⟩, ⟨"b", 0⟩] }]

/-- Its bytes. -/
def bobTwiceBytes : Buffer :=
  [0x0a, 0x0d, 0x0a, 0x01, 0x6b, 0x32, 0x03, 0x0a, 0x01, 0x62, 0x32, 0x03, 0x0a, 0x01, 0x62]

def bobExternal : External Int where
  hash := SearchState.shortExternal.hash
  transportHeader := SearchState.shortHeader
  searchResponse buffer :=
    if buffer = bobTwiceBytes then (true, bobTwice) else (buffer.isEmpty, { result := [] })

/-- What protobuf makes of the envelopes of two searches for anything. -/
def searchEnvelope : ParseFromArray (Envelope Int)
  | [0x08, 0x01, 0x3a, 0x02, 0x0a, 0x00] =>
      (true, ⟨1, .searchServices { query := { constraints := [], model := none } }⟩)
  | [0x08, 0x01, 0x42, 0x02, 0x0a, 0x00] =>
      (true, ⟨1, .searchServicesWide { query := { constraints := [], model := none } }⟩)
  | _ => (false, ⟨0, .payloadNotSet⟩)

/-- Alice searches, and the answer is about to be passed on. -/
def searching (request : Buffer) : List (CoreEvent Int) :=
  [.start 0 "alice", .envelope 0 ∅ request, .search (.written 0), .search (.sent 0 .success),
    .search (.frame (some 0)
      (OefSearchClient.frame [0x10, 0x08, 0x1a, 0x02, 0x08, 0x01] bobTwiceBytes)),
    .search .erase]

def found (events : List (CoreEvent Int)) : CoreState Int :=
  (execute (step .little bobExternal searchEnvelope) (initial SearchState.pluto) events).getD
    (initial SearchState.pluto)

theorem searchAnswered_local : SearchAnswered .little bobExternal searchEnvelope bobTwice
    (found (searching [0x08, 0x01, 0x3a, 0x02, 0x0a, 0x00]))
    (found (searching [0x08, 0x01, 0x3a, 0x02, 0x0a, 0x00] ++ [.search .invoke])) 0 0
    ⟨1, .searchServices { query := { constraints := [], model := none } }⟩
    ⟨.searchService, 1⟩ where
  reached := ⟨"oef-core-pluto", "127.0.0.1", 3333, searching [0x08, 0x01, 0x3a, 0x02, 0x0a, 0x00],
    run_of_execute rfl⟩
  logged := ⟨_, rfl⟩
  delivered := ⟨_, _, rfl, rfl, rfl, rfl⟩
  taken := rfl

theorem searchAnswered_wide : SearchAnswered .little bobExternal searchEnvelope bobTwice
    (found (searching [0x08, 0x01, 0x42, 0x02, 0x0a, 0x00]))
    (found (searching [0x08, 0x01, 0x42, 0x02, 0x0a, 0x00] ++ [.search .invoke])) 0 0
    ⟨1, .searchServicesWide { query := { constraints := [], model := none } }⟩
    ⟨.searchServiceWide, 1⟩ where
  reached := ⟨"oef-core-pluto", "127.0.0.1", 3333, searching [0x08, 0x01, 0x42, 0x02, 0x0a, 0x00],
    run_of_execute rfl⟩
  logged := ⟨_, rfl⟩
  delivered := ⟨_, _, rfl, rfl, rfl, rfl⟩
  taken := rfl

theorem searches_agree_bob : ∃ agents items,
    (found (searching [0x08, 0x01, 0x3a, 0x02, 0x0a, 0x00] ++ [.search .invoke])).answersTo 0 =
      [⟨0, 0, { answerId := 1, payload := .agents agents }⟩] ∧
    (found (searching [0x08, 0x01, 0x42, 0x02, 0x0a, 0x00] ++ [.search .invoke])).answersTo 0 =
      [⟨0, 0, { answerId := 1, payload := .agentsWide ⟨items⟩ }⟩] ∧
    items = bobTwice.result ∧ agents = agentKeys bobTwice.result ∧ agents = agentKeys items :=
  searches_agree (Or.inr rfl) rfl searchAnswered_local searchAnswered_wide

end CoreState

end OefCore
