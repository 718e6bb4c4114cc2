import OefCore.Proto.Search
import OefCore.Proto.Serialization

/-! # Messages between the core and the agents

The messages of `agent.proto` and `fipa.proto`. The content of a message between
agents is passed on without being looked at.
-/

namespace OefCore

namespace Fipa

/-- The `oneof` of `Fipa.Cfp`. -/
inductive Cfp (Double : Type) where
  | query (query : Query.Model Double)
  | content (content : Buffer)
  | nothing
  | payloadNotSet

/-- The `oneof` of `Fipa.Propose`. -/
inductive Propose (Double : Type) where
  | proposals (objects : List (Query.Instance Double))
  | content (content : Buffer)
  | payloadNotSet

/-- The `oneof` of `Fipa.Message`. -/
inductive Msg (Double : Type) where
  | cfp (cfp : Cfp Double)
  | propose (propose : Propose Double)
  | accept
  | decline
  | msgNotSet

structure Message (Double : Type) where
  target : Int32
  msg : Msg Double

end Fipa

/-- `Agent.Server.ID`. -/
structure Agent.Server.ID where
  publicKey : String
  deriving DecidableEq, Repr

/-- `Agent.Server.Answer`. -/
structure Agent.Server.Answer where
  answer : String
  deriving DecidableEq, Repr

/-- The `oneof` of `Agent.Message` and of `Server.AgentMessage.Content`. -/
inductive Agent.Message.Payload (Double : Type) where
  | content (content : Buffer)
  | fipa (fipa : Fipa.Message Double)
  | payloadNotSet

/-- `Agent.Message`. -/
structure Agent.Message (Double : Type) where
  dialogueId : Int32
  destination : String
  payload : Agent.Message.Payload Double

namespace Server

/-- The `oneof` of `Server.Phrase`. -/
inductive Phrase where
  | phrase (phrase : String)
  | failure
  deriving DecidableEq, Repr

structure Connected where
  status : Bool
  deriving DecidableEq, Repr

namespace AgentMessage

structure Content (Double : Type) where
  dialogueId : Int32
  origin : String
  payload : Agent.Message.Payload Double

/-- `OEFError.Operation`. -/
inductive Operation where
  | registerService
  | unregisterService
  | registerDescription
  | unregisterDescription
  deriving DecidableEq, Repr

structure DialogueError where
  dialogueId : Int32
  origin : String
  deriving DecidableEq, Repr

/-- The `oneof` of `Server.AgentMessage`; `agents` is a `SearchResult`. -/
inductive Payload (Double : Type) where
  | content (content : Content Double)
  | oefError (operation : Operation)
  | agents (agents : List String)
  | agentsWide (result : SearchResultWide Double)
  | dialogueError (error : DialogueError)

end AgentMessage

structure AgentMessage (Double : Type) where
  answerId : Int32
  payload : AgentMessage.Payload Double

end Server

structure AgentDescription (Double : Type) where
  description : Query.Instance Double

structure AgentSearch (Double : Type) where
  query : Query.Model Double

/-- The `oneof` of `Envelope`. -/
inductive Envelope.Payload (Double : Type) where
  | sendMessage (message : Agent.Message Double)
  | registerService (desc : AgentDescription Double)
  | unregisterService (desc : AgentDescription Double)
  | registerDescription (desc : AgentDescription Double)
  | unregisterDescription
  | searchServices (search : AgentSearch Double)
  | searchServicesWide (search : AgentSearch Double)
  | searchAgents (search : AgentSearch Double)
  | payloadNotSet

structure Envelope (Double : Type) where
  msgId : Int32
  payload : Envelope.Payload Double

namespace Pb

/-- `Data`, which the schema class of this name keeps and caches. -/
structure Data where
  name : String := ""
  type : String := ""
  values : List String := []
  deriving DecidableEq, Repr

namespace Data

def setName (self : Data) (name : String) : Data := { self with name }

def setType (self : Data) (type : String) : Data := { self with type }

def addValues (self : Data) (value : String) : Data :=
  { self with values := self.values ++ [value] }

end Data

end Pb

end OefCore
