import OefCore.Session.AgentSession

/-! # Messages between agents

What the sender of an `Agent.Message` learns. Without a session for the
destination it is sent a dialogue error at once. Otherwise the continuation of
the forwarded message would send one when the write fails, but the completion
handler of `AsioComm::send_async` invokes the continuation only when there was no
error; the one of `AsioBasicComm::send_async` invokes it in both cases.

`OefCore.AgentSession.deliveredOrReported_iff` says exactly when a message is
delivered or reported.
-/

namespace OefCore

namespace AgentSession

variable {Double : Type}

/-- How the write of a forwarded message ends. -/
structure WriteResult where
  ec : ErrorCode
  length : Nat
  deriving DecidableEq, Repr

/-- Everything the sending session is sent for an envelope, once the write of a
forwarded message is over. -/
def sentToSender (directory : UnorderedMap String SessionId) (self : AgentSession Double)
    (envelope : Envelope Double) (result : WriteResult) : List (Server.AgentMessage Double) :=
  match (processEnvelope directory self envelope).2 with
  | .nothing => []
  | .request _ _ => []
  | .send answer => [answer]
  | .forward _ _ continuation => forwardCompleted continuation result.ec result.length

/-- The dialogue error for a message of an envelope. -/
def dialogueErrorFor (msgId : Int32) (message : Agent.Message Double) :
    Server.AgentMessage Double where
  answerId := msgId
  payload := .dialogueError { dialogueId := message.dialogueId, origin := message.destination }

/-- The message for the agent of the destination. -/
def forwardedMessage (publicKey : String) (msgId : Int32) (message : Agent.Message Double) :
    Server.AgentMessage Double where
  answerId := msgId
  payload := .content {
    dialogueId := message.dialogueId, origin := publicKey, payload := message.payload }

/-- The message is written successfully to the session of its destination. -/
def WrittenToDestination (directory : UnorderedMap String SessionId)
    (message : Agent.Message Double) (result : WriteResult) : Prop :=
  directory.lookup message.destination ≠ none ∧ result.ec.failed = false

/-- The message is written, and its sender is sent nothing; or it is not, and its
sender is sent exactly one dialogue error for it. -/
def DeliveredOrReported (directory : UnorderedMap String SessionId) (self : AgentSession Double)
    (msgId : Int32) (message : Agent.Message Double) (result : WriteResult) : Prop :=
  (WrittenToDestination directory message result →
    sentToSender directory self { msgId, payload := .sendMessage message } result = []) ∧
  (¬ WrittenToDestination directory message result →
    sentToSender directory self { msgId, payload := .sendMessage message } result =
      [dialogueErrorFor msgId message])

variable (directory : UnorderedMap String SessionId) (self : AgentSession Double) (msgId : Int32)
  (message : Agent.Message Double)

/-- A message for a registered destination is forwarded as it is, with the key of its
sender. -/
theorem processEnvelope_registered {target : SessionId}
    (registered : directory.lookup message.destination = some target) :
    processEnvelope directory self { msgId, payload := .sendMessage message } =
      (self, .forward target (forwardedMessage self.publicKey msgId message)
        ⟨msgId.toUInt32, message.dialogueId.toUInt32, message.destination⟩) := by
  obtain ⟨dialogueId, destination, payload⟩ := message
  simp only [processEnvelope, processMessage, registered, forwardedMessage,
    Int32.toInt32_toUInt32]
  cases payload with
  | content | fipa | payloadNotSet => rfl

/-- A message for any other destination is answered with a dialogue error. -/
theorem processEnvelope_unregistered (missing : directory.lookup message.destination = none) :
    processEnvelope directory self { msgId, payload := .sendMessage message } =
      (self, .send (dialogueErrorFor msgId message)) := by
  simp only [processEnvelope, processMessage, missing, sendDialogError, dialogueErrorFor,
    Int32.toInt32_toUInt32]

/-- What a session does with an envelope: it forwards or answers a message, and for any
other envelope it requests something or does nothing. -/
theorem processEnvelope_cases (envelope : Envelope Double) :
    (∃ message, envelope.payload = .sendMessage message ∧
      ((∃ target, directory.lookup message.destination = some target ∧
        (processEnvelope directory self envelope).2 =
          .forward target (forwardedMessage self.publicKey envelope.msgId message)
            ⟨envelope.msgId.toUInt32, message.dialogueId.toUInt32, message.destination⟩) ∨
      (directory.lookup message.destination = none ∧
        (processEnvelope directory self envelope).2 =
          .send (dialogueErrorFor envelope.msgId message)))) ∨
    (processEnvelope directory self envelope).2 = .nothing ∨
    ∃ call continuation, (processEnvelope directory self envelope).2 =
      .request call continuation := by
  obtain ⟨msgId, payload⟩ := envelope
  cases payload with
  | sendMessage message =>
      refine Or.inl ⟨message, rfl, ?_⟩
      cases there : directory.lookup message.destination with
      | none =>
          rw [processEnvelope_unregistered directory self msgId message there]
          exact Or.inr ⟨rfl, rfl⟩
      | some target =>
          rw [processEnvelope_registered directory self msgId message there]
          exact Or.inl ⟨target, rfl, rfl⟩
  | unregisterDescription =>
      right
      dsimp only [processEnvelope, processUnregisterDescription]
      split
      · exact Or.inl rfl
      · exact Or.inr ⟨_, _, rfl⟩
  | payloadNotSet => exact Or.inr (Or.inl rfl)
  | registerService | unregisterService | registerDescription | searchServices
    | searchServicesWide | searchAgents => exact Or.inr (Or.inr ⟨_, _, rfl⟩)

variable {directory self} {after : AgentSession Double} {envelope : Envelope Double}

/-- Only a message is forwarded, to the session of its destination. -/
theorem processEnvelope_forward {target : SessionId} {forwarded : Server.AgentMessage Double}
    {continuation : MessageContinuation}
    (processing : processEnvelope directory self envelope =
      (after, .forward target forwarded continuation)) :
    ∃ message, envelope.payload = .sendMessage message ∧
      directory.lookup message.destination = some target ∧
        forwarded = forwardedMessage self.publicKey envelope.msgId message := by
  have ways := processEnvelope_cases directory self envelope
  rw [processing] at ways
  rcases ways with ⟨message, payload, ⟨found, there, same⟩ | ⟨_, wrong⟩⟩ | wrong | ⟨_, _, wrong⟩
  · cases same
    exact ⟨message, payload, there, rfl⟩
  · cases wrong
  · cases wrong
  · cases wrong

/-- Only a message is answered at once, with a dialogue error. -/
theorem processEnvelope_send {answer : Server.AgentMessage Double}
    (processing : processEnvelope directory self envelope = (after, .send answer)) :
    ∃ message, envelope.payload = .sendMessage message ∧
      answer = dialogueErrorFor envelope.msgId message := by
  have ways := processEnvelope_cases directory self envelope
  rw [processing] at ways
  rcases ways with ⟨message, payload, ⟨_, _, wrong⟩ | ⟨_, same⟩⟩ | wrong | ⟨_, _, wrong⟩
  · cases wrong
  · cases same
    exact ⟨message, payload, rfl⟩
  · cases wrong
  · cases wrong

variable (directory self)

/-- The completion handler never reports anything. -/
theorem forwardCompleted_eq_nil (continuation : MessageContinuation) (ec : ErrorCode)
    (length : Nat) :
    forwardCompleted continuation ec length = ([] : List (Server.AgentMessage Double)) := by
  unfold forwardCompleted AsioComm.sendCompleted messageSent
  cases ec.failed <;> rfl

/-- What the sender of a message is sent. -/
theorem sentToSender_message (result : WriteResult) :
    sentToSender directory self { msgId, payload := .sendMessage message } result =
      if directory.lookup message.destination = none then [dialogueErrorFor msgId message]
      else [] := by
  cases there : directory.lookup message.destination with
  | none => rw [sentToSender, processEnvelope_unregistered _ _ _ _ there, if_pos rfl]
  | some target =>
      rw [sentToSender, processEnvelope_registered _ _ _ _ there,
        if_neg (Option.some_ne_none target)]
      exact forwardCompleted_eq_nil _ _ _

/-- **A message is delivered or reported** exactly when its destination is not
registered or its write succeeds. -/
theorem deliveredOrReported_iff (result : WriteResult) :
    DeliveredOrReported directory self msgId message result ↔
      directory.lookup message.destination = none ∨ result.ec.failed = false := by
  unfold DeliveredOrReported WrittenToDestination
  rw [sentToSender_message]
  by_cases missing : directory.lookup message.destination = none
  · rw [if_pos missing]
    exact iff_of_true ⟨fun written => absurd missing written.1, fun _ => rfl⟩ (Or.inl missing)
  · rw [if_neg missing]
    constructor
    · intro reported
      right
      by_contra failed
      exact List.cons_ne_nil _ _ (reported.2 fun written => failed written.2).symm
    · rintro (wrong | succeeded)
      · exact absurd wrong missing
      · exact ⟨fun _ => rfl, fun unwritten => absurd ⟨missing, succeeded⟩ unwritten⟩

/-- A proposal to an agent whose connection is gone, and whose session is still
registered: the write ends with a broken pipe, and nobody is told. -/
theorem brokenPipe_unreported :
    ¬ DeliveredOrReported ((∅ : UnorderedMap String SessionId).insert "bob" 1)
      (.make "alice" : AgentSession Int) 7
      { dialogueId := 3, destination := "bob"
        payload := .fipa { target := 1, msg := .propose (.content []) } }
      { ec := ⟨32⟩, length := 0 } := by
  rintro ⟨_, reported⟩
  have nothing := reported fun written => nomatch written.2
  cases nothing

end AgentSession

end OefCore
