import OefCore.Proto.Agent
import OefCore.Schema.Instance

/-! # The messages of a client

The classes of `clientmsg.hpp`, by which an agent writes its envelopes. An object of them
is its envelope: the constructor sets the message id and copies the message of its
argument into the payload. The strings that become `bytes` fields are buffers here.
-/

namespace OefCore

variable {Double : Type}

/-- `CFPType`; a query is its message. -/
inductive CFPType (Double : Type) where
  | content (content : Buffer)
  | query (query : Query.Model Double)
  | nothing

/-- `ProposeType`. -/
inductive ProposeType (Double : Type) where
  | content (content : Buffer)
  | instances (instances : List (Instance Double))

namespace ClientMsg

/-- The constructors of `Register`, `Unregister` and `Description`, which differ in the
payload only. -/
def ofInstance (payload : AgentDescription Double → Envelope.Payload Double) (msgId : UInt32)
    (inst : Instance Double) : Envelope Double where
  msgId := msgId.toInt32
  payload := payload { description := inst.handle }

def register (msgId : UInt32) (inst : Instance Double) : Envelope Double :=
  ofInstance .registerService msgId inst

def unregister (msgId : UInt32) (inst : Instance Double) : Envelope Double :=
  ofInstance .unregisterService msgId inst

def description (msgId : UInt32) (inst : Instance Double) : Envelope Double :=
  ofInstance .registerDescription msgId inst

def unregisterDescription (msgId : UInt32) : Envelope Double where
  msgId := msgId.toInt32
  payload := .unregisterDescription

/-- The constructors of `SearchServices` and `SearchAgents`. -/
def ofModel (payload : AgentSearch Double → Envelope.Payload Double) (msgId : UInt32)
    (model : Query.Model Double) : Envelope Double where
  msgId := msgId.toInt32
  payload := payload { query := model }

def searchServices (msgId : UInt32) (model : Query.Model Double) : Envelope Double :=
  ofModel .searchServices msgId model

def searchAgents (searchId : UInt32) (model : Query.Model Double) : Envelope Double :=
  ofModel .searchAgents searchId model

/-- The constructors of the messages to other agents. -/
def ofMessage (payload : Agent.Message.Payload Double) (dialogueId : UInt32) (dest : String)
    (msgId : UInt32) : Envelope Double where
  msgId := msgId.toInt32
  payload := .sendMessage { dialogueId := dialogueId.toInt32, destination := dest, payload }

def message (msgId dialogueId : UInt32) (dest : String) (msg : Buffer) : Envelope Double :=
  ofMessage (.content msg) dialogueId dest msgId

/-- The constructors of `CFP`, `Propose`, `Accept` and `Decline`. -/
def ofFipa (msg : Fipa.Msg Double) (dialogueId : UInt32) (dest : String)
    (msgId target : UInt32) : Envelope Double :=
  ofMessage (.fipa { target := target.toInt32, msg }) dialogueId dest msgId

/-- The payload that `CFP` sets. -/
def cfpPayload : CFPType Double → Fipa.Cfp Double
  | .content content => .content content
  | .query query => .query query
  | .nothing => .nothing

def cfp (dialogueId : UInt32) (dest : String) (query : CFPType Double) (msgId : UInt32 := 1)
    (target : UInt32 := 0) : Envelope Double :=
  ofFipa (.cfp (cfpPayload query)) dialogueId dest msgId target

/-- The payload that `Propose` sets. -/
def proposePayload : ProposeType Double → Fipa.Propose Double
  | .content content => .content content
  | .instances instances => .proposals (instances.map fun inst => inst.handle)

def propose (dialogueId : UInt32) (dest : String) (proposals : ProposeType Double)
    (msgId target : UInt32) : Envelope Double :=
  ofFipa (.propose (proposePayload proposals)) dialogueId dest msgId target

def accept (dialogueId : UInt32) (dest : String) (msgId target : UInt32) : Envelope Double :=
  ofFipa .accept dialogueId dest msgId target

def decline (dialogueId : UInt32) (dest : String) (msgId target : UInt32) : Envelope Double :=
  ofFipa .decline dialogueId dest msgId target

end ClientMsg

end OefCore
