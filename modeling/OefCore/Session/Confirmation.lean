import OefCore.Session.Requests

/-! # Confirmations of registrations

The search service confirms an update or a removal by the status in the header of its
answer and by a payload with a status of its own. `process_message_` decodes the
payload of a confirmation to log it, and looks at the status in the header only.

The failure of a registration is therefore reported exactly when the header tells it,
or when there is nothing else to report (`OefCore.CoreState.failureReported_iff`).
-/

namespace OefCore

variable {Double : Type}

/-- The parsers of the confirmations. -/
structure ConfirmationParsers where
  updateResponse : ParseFromArray UpdateResponse
  removeResponse : ParseFromArray RemoveResponse

/-- A payload decodes as the confirmation of an update or a removal, with the status
`SUCCESS`. -/
def ConfirmationParsers.confirms (parsers : ConfirmationParsers) (operation : String)
    (payload : Buffer) : Bool :=
  if operation == "update" then
    let (updateResp, status) := Pbs.deserializeStatus parsers.updateResponse payload
    status && updateResp.status == .success
  else
    let (removeResp, status) := Pbs.deserializeStatus parsers.removeResponse payload
    status && removeResp.status == .success

/-- An answer confirms an operation: its header is successful, and so is its payload if
it has one. -/
def Answer.Confirms (parsers : ConfirmationParsers) (operation : String) (answer : Answer) :
    Prop :=
  answer.header.success = true ∧
    ∀ payload, answer.payload = some payload → parsers.confirms operation payload = true

/-- An update or remove request. -/
def SessionOperation.Registers (operation : SessionOperation) : Prop :=
  operation.handleOperation = "update" ∨ operation.handleOperation = "remove"

/-- The answer to an update or a removal is the status in the header. -/
theorem OefSearchClient.answer_registration (external : External Double) {operation : String}
    (registers : operation = "update" ∨ operation = "remove") (header : TransportHeader)
    (payload : Option Buffer) :
    answer external operation header payload =
      (if header.success then .success else .noMessageAvailable, {}) := by
  unfold answer
  rcases registers with rfl | rfl
  all_goals
    cases header.success with
    | true => cases payload <;> rfl
    | false => cases payload <;> rfl

namespace CoreState

/-- The continuation of a request is invoked without an error only for a confirmation.
After anything else the agent was sent one error because of the request, under its
message id. -/
structure FailureReported (parsers : ConfirmationParsers) (state next : CoreState Double)
    (id : RequestId) (session : SessionId) (envelope : Envelope Double)
    (operation : SessionOperation) (answer : Answer) : Prop where
  quiet : (∃ invocation, next.search.invoked = state.search.invoked ++ [invocation] ∧
    invocation.continuation = .request id ∧ invocation.ec.failed = false) →
      answer.Confirms parsers operation.handleOperation
  reported : ¬ answer.Confirms parsers operation.handleOperation → next.answersTo id =
    [⟨id, session, {
      answerId := envelope.msgId
      payload := .oefError (AgentSession.errorOperation operation) }⟩]

variable {host : ByteOrder} {external : External Double} {parse : ParseFromArray (Envelope Double)}
  {state next : CoreState Double} {session : SessionId}

/-- **Failed registrations are reported as failed** exactly when the status in the
header is unsuccessful, or the payload is absent or decodes with the status
`SUCCESS`. -/
theorem failureReported_iff (parsers : ConfirmationParsers) {coreId coreIpAddr : String}
    {corePort : UInt32} {events : List (CoreEvent Double)} {id : RequestId}
    {envelope : Envelope Double} {call : SearchCall Double} {continuation : SessionContinuation}
    {answer : Answer} {handle : MsgHandle}
    (run : Run (CoreState.step host external parse) (initial (.make coreId coreIpAddr corePort))
      events state)
    (logged : state.log[id]? = some ⟨session, envelope, .request call continuation⟩)
    (registers : continuation.operation.Registers)
    (found : state.search.processing = some ⟨answer, handle, true⟩)
    (named : handle.continuation = .request id)
    (taken : CoreState.step host external parse state (.search .invoke) = some next) :
    FailureReported parsers state next id session envelope continuation.operation answer ↔
      answer.header.success = false ∨ ∀ payload, answer.payload = some payload →
        parsers.confirms continuation.operation.handleOperation payload = true := by
  have operation := run_handleOperation run logged found named
  obtain ⟨self, concluded⟩ := run_concluded run logged (.answered found named) taken
  have under : continuation.msgId.toInt32 = envelope.msgId := (run_answering run).logged _ _ logged
  obtain ⟨invocation, appended, sameId, error, _⟩ := concluded.invoked
  have only : ∀ other, next.search.invoked = state.search.invoked ++ [other] →
      other = invocation := by
    intro other appended'
    rw [appended] at appended'
    exact (List.singleton_inj.mp (List.append_cancel_left appended')).symm
  rw [operation, OefSearchClient.answer_registration external registers] at error
  have answers := concluded.answers
  rw [operation, OefSearchClient.answer_registration external registers] at answers
  cases status : answer.header.success with
  | false =>
      refine iff_of_true ⟨?_, fun _ => ?_⟩ (Or.inl rfl)
      · intro ⟨other, appended', _, succeeded⟩
        rw [only other appended', error, status] at succeeded
        cases succeeded
      · rw [answers, status, self.answered_failed continuation rfl, AgentSession.sendError, under]
        rfl
  | true =>
      have confirms : answer.Confirms parsers continuation.operation.handleOperation ↔
          ∀ payload, answer.payload = some payload →
            parsers.confirms continuation.operation.handleOperation payload = true :=
        and_iff_right status
      rw [or_iff_right Bool.noConfusion, ← confirms]
      constructor
      · intro reported
        apply reported.quiet
        exact ⟨invocation, appended, sameId, by rw [error, status]; rfl⟩
      · exact fun confirmed => ⟨fun _ => confirmed, fun unconfirmed => absurd confirmed unconfirmed⟩

/-! ### A rejected update -/

/-- What protobuf makes of some short confirmations: no fields at all, or a status. -/
def shortConfirmations : ConfirmationParsers where
  updateResponse
    | [] => (true, ⟨.success⟩)
    | [0x08, 0x01] => (true, ⟨.missingAddress⟩)
    | _ => (false, ⟨.success⟩)
  removeResponse
    | [] => (true, ⟨.success⟩)
    | [0x08, 0x01] => (true, ⟨.notFound⟩)
    | _ => (false, ⟨.success⟩)

/-- Alice registers a description, and the answer of the search service is about to be
passed on. -/
def answeredWith (header payload : Buffer) : List (CoreEvent Int) :=
  [.start 0 "alice",
    .envelope 0 ∅ [0x08, 0x01, 0x2a, 0x07, 0x0a, 0x05, 0x0a, 0x03, 0x0a, 0x01, 0x61],
    .search (.written 0), .search (.sent 0 .success),
    .search (.frame (some 0) (OefSearchClient.frame header payload)), .search .erase]

def registersA : Envelope Int where
  msgId := 1
  payload := .registerDescription { description := {
    model := { name := "a", attributes := [] }, values := [] } }

/-- An answer without a status. -/
def refused : List (CoreEvent Int) := answeredWith [0x10, 0x08] []

/-- An answer with a successful header and the status `MISSING_ADDRESS`. -/
def missingAddress : List (CoreEvent Int) :=
  answeredWith [0x10, 0x08, 0x1a, 0x02, 0x08, 0x01] [0x08, 0x01]

/-- The unsuccessful header is reported. -/
theorem failureReported_iff_refused :
    FailureReported shortConfirmations (after refused) (after (refused ++ [.search .invoke])) 0 0
      registersA .registerDescription ⟨some 0, ⟨"", 8, false⟩, none⟩ := by
  have executed : execute shortStep (initial SearchState.pluto) refused = some (after refused) :=
    rfl
  have taken : shortStep (after refused) (.search .invoke) =
      some (after (refused ++ [.search .invoke])) := rfl
  have logged : (after refused).log[0]? = some ⟨0, registersA, .request _
      ⟨.registerDescription, 1⟩⟩ := rfl
  exact (failureReported_iff shortConfirmations (run_of_execute executed) logged (Or.inl rfl)
    rfl rfl taken).mpr (Or.inl rfl)

/-- **A rejected update is not reported**: the header is successful, the payload says
that the address is missing, and Alice is told nothing. -/
theorem missingAddress_unreported :
    Run shortStep (initial SearchState.pluto) missingAddress (after missingAddress) ∧
    shortStep (after missingAddress) (.search .invoke) =
      some (after (missingAddress ++ [.search .invoke])) ∧
    (after missingAddress).search.processing.map (fun processing => processing.answer) =
      some ⟨some 0, ⟨"", 8, true⟩, some [0x08, 0x01]⟩ ∧
    shortConfirmations.updateResponse [0x08, 0x01] = (true, ⟨.missingAddress⟩) ∧
    (after (missingAddress ++ [.search .invoke])).answers.length = 0 ∧
    ¬ FailureReported shortConfirmations (after missingAddress)
      (after (missingAddress ++ [.search .invoke])) 0 0 registersA .registerDescription
      ⟨some 0, ⟨"", 8, true⟩, some [0x08, 0x01]⟩ := by
  refine ⟨run_of_execute rfl, rfl, rfl, rfl, rfl, fun reported => ?_⟩
  have confirmed := reported.quiet ⟨_, rfl, rfl, rfl⟩
  exact absurd (confirmed.2 [0x08, 0x01] rfl) (by decide)

end CoreState

end OefCore
