import OefCore.Comm.Communicator
import OefCore.Lib.UnorderedMap
import OefCore.Proto.Agent
import OefCore.Search.Client

/-! # Agent sessions

The class `AgentSession`: what it does with an envelope of its agent, and what the
continuations it passes on do when they are invoked. An envelope changes the
session and leads to at most one action (`OefCore.SessionAction`): a request to
the search service, a message to its own agent, or a message to the agent of
another session. A continuation changes the session and sends messages to its own
agent.
-/

namespace OefCore

/-- A session is known by the number of the connection it was created for. -/
abbrev SessionId := Nat

structure AgentSession (Double : Type) where
  publicKey : String
  description : Option (Instance Double)

/-- The requests whose continuations a session waits for. -/
inductive SessionOperation where
  | registerDescription
  | unregisterDescription
  | registerService
  | unregisterService
  | searchAgents
  | searchService
  | searchServiceWide
  deriving DecidableEq, Repr

/-- The continuation of a request: its operation and the message id it captured. -/
structure SessionContinuation where
  operation : SessionOperation
  msgId : UInt32
  deriving DecidableEq, Repr

/-- The continuation of a message to another agent: what it captured. -/
structure MessageContinuation where
  msgId : UInt32
  did : UInt32
  destination : String
  deriving DecidableEq, Repr

/-- What a session does with an envelope, apart from changing itself. -/
inductive SessionAction (Double : Type) where
  | nothing
  /-- A request to the search service, under the key of the session. -/
  | request (call : SearchCall Double) (continuation : SessionContinuation)
  /-- A message to the agent of the session. -/
  | send (answer : Server.AgentMessage Double)
  /-- A message to the agent of another session. -/
  | forward (session : SessionId) (message : Server.AgentMessage Double)
      (continuation : MessageContinuation)

namespace AgentSession

variable {Double : Type}

/-- The constructor of `AgentSession`. -/
def make (agentId : String) : AgentSession Double where
  publicKey := agentId
  description := none

/-! ### Answers -/

def sendDialogError (msgId dialogueId : UInt32) (origin : String) : Server.AgentMessage Double where
  answerId := msgId.toInt32
  payload := .dialogueError { dialogueId := dialogueId.toInt32, origin }

def sendError (msgId : UInt32) (errorOp : Server.AgentMessage.Operation) :
    Server.AgentMessage Double where
  answerId := msgId.toInt32
  payload := .oefError errorOp

/-- The answer to a local search. -/
def sendAgents (msgId : UInt32) (response : OefSearchResponse Double) :
    Server.AgentMessage Double where
  answerId := msgId.toInt32
  payload := .agents response.agents

/-- The answer to a wide search. -/
def sendAgentsWide (msgId : UInt32) (response : OefSearchResponse Double) :
    Server.AgentMessage Double where
  answerId := msgId.toInt32
  payload := .agentsWide response.searchResultWide

/-! ### Continuations -/

/-- The continuations of registrations: only an error is answered. -/
def registrationAnswered (msgId : UInt32) (errorOp : Server.AgentMessage.Operation)
    (ec : ErrorCode) : List (Server.AgentMessage Double) :=
  if ec.failed then [sendError msgId errorOp] else []

/-- The continuations of searches; all of them report an error of the same
operation. -/
def searchAnswered (msgId : UInt32) (answer : Server.AgentMessage Double) (ec : ErrorCode) :
    List (Server.AgentMessage Double) :=
  if ec.failed then [sendError msgId .registerService] else [answer]

/-- Invoke the continuation of a request. -/
def answered (self : AgentSession Double) (continuation : SessionContinuation) (ec : ErrorCode)
    (response : OefSearchResponse Double) :
    AgentSession Double × List (Server.AgentMessage Double) :=
  let msgId := continuation.msgId
  match continuation.operation with
  | .registerDescription => (self, registrationAnswered msgId .registerDescription ec)
  | .unregisterDescription =>
      (if ec.failed then self else { self with description := none },
        registrationAnswered msgId .unregisterDescription ec)
  | .registerService => (self, registrationAnswered msgId .registerService ec)
  | .unregisterService => (self, registrationAnswered msgId .unregisterService ec)
  | .searchAgents => (self, searchAnswered msgId (sendAgents msgId response) ec)
  | .searchService => (self, searchAnswered msgId (sendAgents msgId response) ec)
  | .searchServiceWide => (self, searchAnswered msgId (sendAgentsWide msgId response) ec)

/-- The operation in the error for a failed request. All searches have that of a
registration. -/
def errorOperation : SessionOperation → Server.AgentMessage.Operation
  | .registerDescription => .registerDescription
  | .unregisterDescription => .unregisterDescription
  | .registerService => .registerService
  | .unregisterService => .unregisterService
  | .searchAgents | .searchService | .searchServiceWide => .registerService

/-- The continuation of a request that failed sends an error and changes nothing. -/
theorem answered_failed (self : AgentSession Double) (continuation : SessionContinuation)
    {ec : ErrorCode} (failed : ec.failed = true) (response : OefSearchResponse Double) :
    answered self continuation ec response =
      (self, [sendError continuation.msgId (errorOperation continuation.operation)]) := by
  obtain ⟨operation, msgId⟩ := continuation
  cases operation with
  | registerDescription | unregisterDescription | registerService | unregisterService =>
      simp only [answered, registrationAnswered, errorOperation, failed, ↓reduceIte]
  | searchAgents | searchService | searchServiceWide =>
      simp only [answered, searchAnswered, errorOperation, failed, ↓reduceIte]

/-- The continuation of a message to another agent. -/
def messageSent (continuation : MessageContinuation) (ec : ErrorCode) (_length : Nat) :
    List (Server.AgentMessage Double) :=
  if ec.failed then
    [sendDialogError continuation.msgId continuation.did continuation.destination]
  else []

/-- The completion handler of the write of a message to another agent. -/
def forwardCompleted (continuation : MessageContinuation) (ec : ErrorCode) (length : Nat) :
    List (Server.AgentMessage Double) :=
  AsioComm.sendCompleted (messageSent continuation) ec length

/-! ### Envelopes -/

section Process

variable (self : AgentSession Double) (msgId : UInt32)

def processRegisterDescription (desc : AgentDescription Double) :
    AgentSession Double × SessionAction Double :=
  let description := Instance.ofMessage desc.description
  ({ self with description := some description },
    .request (.registerDescription description) { operation := .registerDescription, msgId })

def processUnregisterDescription : AgentSession Double × SessionAction Double :=
  match self.description with
  | none => (self, .nothing)
  | some description =>
      (self, .request (.unregisterDescription description)
        { operation := .unregisterDescription, msgId })

def processRegisterService (desc : AgentDescription Double) :
    AgentSession Double × SessionAction Double :=
  let serviceDesc := Instance.ofMessage desc.description
  (self, .request (.registerService serviceDesc) { operation := .registerService, msgId })

def processUnregisterService (desc : AgentDescription Double) :
    AgentSession Double × SessionAction Double :=
  let serviceDesc := Instance.ofMessage desc.description
  (self, .request (.unregisterService serviceDesc) { operation := .unregisterService, msgId })

def processSearchAgents (search : AgentSearch Double) :
    AgentSession Double × SessionAction Double :=
  (self, .request (.searchAgents search.query) { operation := .searchAgents, msgId })

def processSearchService (search : AgentSearch Double) :
    AgentSession Double × SessionAction Double :=
  (self, .request (.searchService search.query) { operation := .searchService, msgId })

def processSearchServiceWide (search : AgentSearch Double) :
    AgentSession Double × SessionAction Double :=
  (self, .request (.searchServiceWide search.query) { operation := .searchServiceWide, msgId })

/-- `process_message`: the payload is copied arm by arm. -/
def processMessage (directory : UnorderedMap String SessionId) (msg : Agent.Message Double) :
    AgentSession Double × SessionAction Double :=
  let did := msg.dialogueId.toUInt32
  match directory.lookup msg.destination with
  | some session =>
      let payload : Agent.Message.Payload Double :=
        match msg.payload with
        | .content content => .content content
        | .fipa fipa => .fipa fipa
        | .payloadNotSet => .payloadNotSet
      let message : Server.AgentMessage Double := {
        answerId := msgId.toInt32
        payload := .content { dialogueId := did.toInt32, origin := self.publicKey, payload } }
      (self, .forward session message { msgId, did, destination := msg.destination })
  | none => (self, .send (sendDialogError msgId did msg.destination))

end Process

/-- The dispatch in `process`. -/
def processEnvelope (directory : UnorderedMap String SessionId) (self : AgentSession Double)
    (envelope : Envelope Double) : AgentSession Double × SessionAction Double :=
  let msgId := envelope.msgId.toUInt32
  match envelope.payload with
  | .sendMessage message => processMessage self msgId directory message
  | .registerService desc => processRegisterService self msgId desc
  | .unregisterService desc => processUnregisterService self msgId desc
  | .registerDescription desc => processRegisterDescription self msgId desc
  | .unregisterDescription => processUnregisterDescription self msgId
  | .searchAgents search => processSearchAgents self msgId search
  | .searchServices search => processSearchService self msgId search
  | .searchServicesWide search => processSearchServiceWide self msgId search
  | .payloadNotSet => (self, .nothing)

/-- `process`: whatever the parser made of the buffer is dispatched. -/
def process (parse : ParseFromArray (Envelope Double)) (directory : UnorderedMap String SessionId)
    (self : AgentSession Double) (buffer : Buffer) : AgentSession Double × SessionAction Double :=
  processEnvelope directory self (Pbs.deserialize parse buffer)

/-! ### The key of a session -/

/-- No envelope changes the key of a session. -/
theorem processEnvelope_publicKey (directory : UnorderedMap String SessionId)
    (self : AgentSession Double) (envelope : Envelope Double) :
    (processEnvelope directory self envelope).1.publicKey = self.publicKey := by
  obtain ⟨msgId, payload⟩ := envelope
  cases payload with
  | sendMessage message =>
      dsimp only [processEnvelope, processMessage]
      split
      · rfl
      · rfl
  | unregisterDescription =>
      dsimp only [processEnvelope, processUnregisterDescription]
      split
      · rfl
      · rfl
  | registerService | unregisterService | registerDescription | searchServices
    | searchServicesWide | searchAgents | payloadNotSet => rfl

/-- No continuation changes the key of a session. -/
theorem answered_publicKey (self : AgentSession Double) (continuation : SessionContinuation)
    (ec : ErrorCode) (response : OefSearchResponse Double) :
    (answered self continuation ec response).1.publicKey = self.publicKey := by
  obtain ⟨operation, msgId⟩ := continuation
  cases operation with
  | unregisterDescription =>
      dsimp only [answered]
      split
      · rfl
      · rfl
  | registerDescription | registerService | unregisterService | searchAgents | searchService
    | searchServiceWide => rfl

end AgentSession

end OefCore
