import OefCore.Session.Confirmation
import OefCore.Session.SearchAnswers

/-! # What an agent is due

What an agent is due for an envelope depends on what the search service answers to its
request (`OefCore.AgentSession.due`): the results that it asked for, the error of its
operation, or nothing for a registration that is confirmed. What the search client and the
continuation of the session make of the answer is that
(`OefCore.AgentSession.messagesFor_eq_due`).
-/

namespace OefCore

variable {Double : Type}

/-- The operation of the search client that an envelope may lead to. -/
def Envelope.Payload.operation? : Envelope.Payload Double → Option SessionOperation
  | .registerDescription _ => some .registerDescription
  | .unregisterDescription => some .unregisterDescription
  | .registerService _ => some .registerService
  | .unregisterService _ => some .unregisterService
  | .searchAgents _ => some .searchAgents
  | .searchServices _ => some .searchService
  | .searchServicesWide _ => some .searchServiceWide
  | .sendMessage _ | .payloadNotSet => none

def SessionOperation.searches : SessionOperation → Bool
  | .searchAgents | .searchService | .searchServiceWide => true
  | .registerDescription | .unregisterDescription | .registerService | .unregisterService => false

/-- The items of a search response, none if it comes without a payload. -/
def Answer.items (external : External Double) (answer : Answer) : List (SearchItem Double) :=
  answer.payload.elim [] fun payload => (Pbs.deserialize external.searchResponse payload).result

namespace AgentSession

/-- What an agent is due for an operation when the search service answers. -/
def due (external : External Double) (operation : SessionOperation) (answer : Answer) :
    List (Server.AgentMessage.Payload Double) :=
  if answer.header.success then
    match operation with
    | .searchAgents | .searchService => [.agents (agentKeys (answer.items external))]
    | .searchServiceWide => [.agentsWide ⟨answer.items external⟩]
    | .registerDescription | .unregisterDescription | .registerService | .unregisterService => []
  else [.oefError (errorOperation operation)]

/-- A search is due one message, whatever the answer is. -/
theorem due_of_searches (external : External Double) {operation : SessionOperation}
    (searches : operation.searches = true) (answer : Answer) :
    ∃ payload, due external operation answer = [payload] := by
  unfold due
  split
  · cases operation with
    | registerDescription | unregisterDescription | registerService | unregisterService =>
        cases searches
    | searchAgents | searchService | searchServiceWide => exact ⟨_, rfl⟩
  · exact ⟨_, rfl⟩

/-- What the client makes of a local search that succeeded. -/
theorem answer_agents (external : External Double) {answer : Answer}
    (succeeded : answer.header.success = true) :
    ∃ response, OefSearchClient.answer external "search-local" answer.header answer.payload =
      (.success, response) ∧ response.agents = agentKeys (answer.items external) := by
  obtain ⟨origin, header, payload⟩ := answer
  dsimp only at succeeded
  unfold OefSearchClient.answer
  rw [succeeded]
  cases payload with
  | none => exact ⟨{}, rfl, rfl⟩
  | some payload => exact ⟨_, rfl, rfl⟩

/-- What the client makes of a wide search that succeeded. -/
theorem answer_agentsWide (external : External Double) {answer : Answer}
    (succeeded : answer.header.success = true) :
    ∃ response, OefSearchClient.answer external "search-wide" answer.header answer.payload =
      (.success, response) ∧ response.searchResultWide = ⟨answer.items external⟩ := by
  obtain ⟨origin, header, payload⟩ := answer
  dsimp only at succeeded
  unfold OefSearchClient.answer
  rw [succeeded]
  cases payload with
  | none => exact ⟨{}, rfl, rfl⟩
  | some payload => exact ⟨_, rfl, OefSearchClient.wideResult_eq _⟩

/-- The answer that is refused leaves an error. -/
theorem answer_refused (external : External Double) (operation : SessionOperation)
    {answer : Answer} (refused : answer.header.success = false) :
    (OefSearchClient.answer external operation.handleOperation answer.header
      answer.payload).1.failed = true := by
  obtain ⟨origin, header, payload⟩ := answer
  dsimp only at refused
  unfold OefSearchClient.answer
  rw [refused]
  cases payload with
  | none => rfl
  | some payload => cases operation <;> rfl

/-- **What a session sends is due.** -/
theorem messagesFor_eq_due (external : External Double) (self : AgentSession Double)
    (continuation : SessionContinuation) (answer : Answer) :
    self.messagesFor external continuation answer =
      (due external continuation.operation answer).map fun payload =>
        { answerId := continuation.msgId.toInt32, payload } := by
  obtain ⟨operation, msgId⟩ := continuation
  unfold due
  split
  · rename_i succeeded
    cases operation with
    | registerDescription | unregisterDescription | registerService | unregisterService =>
        simp only [messagesFor, SessionOperation.handleOperation]
        rw [OefSearchClient.answer_registration external (by decide), if_pos succeeded]
        rfl
    | searchAgents | searchService =>
        obtain ⟨response, answered, agents⟩ := answer_agents external succeeded
        simp only [messagesFor, SessionOperation.handleOperation, answered]
        rw [← agents]
        rfl
    | searchServiceWide =>
        obtain ⟨response, answered, items⟩ := answer_agentsWide external succeeded
        simp only [messagesFor, SessionOperation.handleOperation, answered]
        rw [← items]
        rfl
  · rename_i refused
    rw [Bool.not_eq_true] at refused
    unfold messagesFor
    dsimp only
    rw [self.answered_failed _ (answer_refused external operation refused)]
    rfl

/-- What the continuation of a request sends when the search client invokes it with an
answer. -/
theorem answered_invocation (external : External Double) (self : AgentSession Double)
    {handle : MsgHandle} {continuation : SessionContinuation}
    (same : handle.operation = continuation.operation.handleOperation) (answer : Answer) :
    (self.answered continuation (SearchState.invocationOf external handle answer).ec
      (SearchState.invocationOf external handle answer).response).2 =
        (due external continuation.operation answer).map fun payload =>
          { answerId := continuation.msgId.toInt32, payload } := by
  rw [← self.messagesFor_eq_due, messagesFor, ← same]
  rfl

/-- A session asks for the operation that its envelope leads to, under its message id. -/
theorem processEnvelope_operation {directory : UnorderedMap String SessionId}
    {self after : AgentSession Double} {envelope : Envelope Double} {call : SearchCall Double}
    {continuation : SessionContinuation}
    (result : processEnvelope directory self envelope = (after, .request call continuation)) :
    envelope.payload.operation? = some continuation.operation ∧
      continuation.msgId.toInt32 = envelope.msgId := by
  obtain ⟨msgId, payload⟩ := envelope
  cases payload with
  | sendMessage message =>
      simp only [processEnvelope, processMessage] at result
      split at result <;> cases result
  | unregisterDescription =>
      simp only [processEnvelope, processUnregisterDescription] at result
      split at result
      · cases result
      · cases result
        exact ⟨rfl, Int32.toInt32_toUInt32 msgId⟩
  | payloadNotSet => cases result
  | registerService | unregisterService | registerDescription | searchServices
    | searchServicesWide | searchAgents =>
      cases result
      exact ⟨rfl, Int32.toInt32_toUInt32 msgId⟩

end AgentSession

end OefCore
