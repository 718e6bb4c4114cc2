import OefCore.Lib.UnorderedMap
import OefCore.Proto.Search
import OefCore.Proto.Serialization
import OefCore.Schema.Instance

/-! # The search client

The class `OefSearchClient`: the requests it builds, the handles under which it
keeps the continuations of the requests that were sent, and the answer it makes
of a message of the search service. Asynchronous writes and reads are left to
the caller of these functions; here are the bodies of the operations and of their
completion handlers.

A request is built and handed to `send_` together with what its completion
handler captured (`OefCore.SendRequest`). The handler saves a handle under the
low 32 bits of the request's key, unless one is saved there already
(`OefCore.OefSearchClient.msgHandleSave`). The header of a message holds the key
plus one; `OefCore.OefSearchClient.headerKey_generateHeader` says that the two
computations of the key agree.
-/

namespace OefCore

/-- The continuation of a request is known by the request it was passed with.
Looking up a missing handle makes up a continuation that only logs. -/
abbrev RequestId := Nat

inductive AgentSessionContinuation where
  | request (id : RequestId)
  | noHandle (smsgId : UInt32)
  deriving DecidableEq, Repr

structure MsgHandle where
  operation : String
  continuation : AgentSessionContinuation
  amsgId : UInt32
  agentId : String
  deriving DecidableEq, Repr

/-- The constructor of `MsgHandle` for a key without a handle. -/
def MsgHandle.ofId (smsgId : UInt32) : MsgHandle where
  operation := ""
  continuation := .noHandle smsgId
  amsgId := 0
  agentId := "NoOne"

/-- What the client uses from outside the repository: the hash of the standard
library and the parsers of the messages it receives. -/
structure External (Double : Type) where
  hash : String → UInt64
  transportHeader : ParseFromArray TransportHeader
  searchResponse : ParseFromArray (SearchResponse Double)

/-- The payloads of the requests. -/
inductive SearchPayload (Double : Type) where
  | update (update : Update Double)
  | remove (remove : Remove)
  | search (search : SearchQuery Double)

/-- One call of `send_`: the two messages, and what the completion handler of
the write captured. -/
structure SendRequest (Double : Type) where
  header : TransportHeader
  payload : SearchPayload Double
  agent : String
  smsgId : UInt64
  msgId : UInt32
  operation : String
  continuation : AgentSessionContinuation

/-- The low 32 bits of the key of a request, under which its handle is saved. -/
def SendRequest.key {Double : Type} (request : SendRequest Double) : UInt32 :=
  request.smsgId.toUInt32

/-- The handle of a request. -/
def SendRequest.handle {Double : Type} (request : SendRequest Double) : MsgHandle where
  operation := request.operation
  continuation := request.continuation
  amsgId := request.msgId
  agentId := request.agent

/-- The operations of the client, with their first argument. -/
inductive SearchCall (Double : Type) where
  | registerDescription (desc : Instance Double)
  | unregisterDescription (desc : Instance Double)
  | registerService (service : Instance Double)
  | unregisterService (service : Instance Double)
  | searchAgents (query : Query.Model Double)
  | searchService (query : Query.Model Double)
  | searchServiceWide (query : Query.Model Double)

structure OefSearchClient where
  coreIpAddr : String
  corePort : UInt32
  coreId : String
  updatedAddress : Bool
  handles : UnorderedMap UInt32 MsgHandle

namespace OefSearchClient

variable {Double : Type}

/-- The constructor of `OefSearchClient`. -/
def make (coreId coreIpAddr : String) (corePort : UInt32) : OefSearchClient where
  coreIpAddr := coreIpAddr
  corePort := corePort
  coreId := coreId
  updatedAddress := true
  handles := ∅

/-! ### Handles -/

def msgHandleSave (self : OefSearchClient) (smsgId : UInt32) (handle : MsgHandle) :
    OefSearchClient × Bool :=
  if (self.handles.lookup smsgId).isSome then (self, false)
  else ({ self with handles := self.handles.insert smsgId handle }, true)

def msgHandleErase (self : OefSearchClient) (smsgId : UInt32) : OefSearchClient × Bool :=
  ({ self with handles := self.handles.erase smsgId }, (self.handles.lookup smsgId).isSome)

def msgHandleGet (self : OefSearchClient) (smsgId : UInt32) : MsgHandle :=
  match self.handles.lookup smsgId with
  | some handle => handle
  | none => MsgHandle.ofId smsgId

/-- `schedule_rcv_callback_`, which ignores whether the handle was saved. -/
def scheduleRcvCallback (self : OefSearchClient) (smsgId : UInt32) (operation : String)
    (continuation : AgentSessionContinuation) (amsgId : UInt32) (agent : String) :
    OefSearchClient :=
  (self.msgHandleSave smsgId { operation, continuation, amsgId, agentId := agent }).1

/-! ### Message factories -/

/-- `generate_smsg_id_`: the shift is 32 bits wide, the exclusive or 64. -/
def generateSmsgId (hash : String → UInt64) (agent : String) (msgId : UInt32) : UInt64 :=
  hash agent ^^^ (msgId <<< 1).toUInt64

/-- `generate_header_`: the increment is 32 bits wide, the field 64. -/
def generateHeader (uri : String) (msgId : UInt32) : TransportHeader where
  uri := uri
  id := (msgId + 1).toUInt64
  success := true

/-- `generate_update_add_naddr_`. -/
def generateUpdateAddNaddr (self : OefSearchClient) (update : Update Double) :
    OefSearchClient × Update Double :=
  if !self.updatedAddress then (self, update)
  else
    let address : Update.Address :=
      { ip := self.coreIpAddr, port := self.corePort, key := self.coreId, signature := "Sign" }
    ({ self with updatedAddress := false },
      { update with attributes := update.attributes ++ [{ type := 10, address }] })

/-- `std::string::c_str` read back as a string: it ends at the first null. -/
def cStr (s : String) : String := String.ofList (s.toList.takeWhile (· != Char.ofNat 0))

def generateUpdate (self : OefSearchClient) (service : Instance Double) (agent : String) :
    OefSearchClient × Update Double :=
  self.generateUpdateAddNaddr {
    key := self.coreId
    attributes := []
    dataModels := [{
      key := cStr agent, model := service.model, values := service.handle.values }] }

def generateSearch (self : OefSearchClient) (query : Query.Model Double) (ttl : UInt32) :
    SearchQuery Double where
  sourceKey := self.coreId
  model := query
  ttl := ttl

def generateRemove (self : OefSearchClient) (service : Instance Double) : Remove where
  key := self.coreId
  all := false
  dataModels := [service.model]

/-! ### Operations -/

/-- The common part of the operations: the request for a payload, its header
under a path of the search service, and the operation its handle will have. -/
def request (hash : String → UInt64) (uri operation : String) (payload : SearchPayload Double)
    (agent : String) (msgId : UInt32) (continuation : AgentSessionContinuation) :
    SendRequest Double :=
  let smsgId := generateSmsgId hash agent msgId
  { header := generateHeader uri smsgId.toUInt32
    payload, agent, smsgId, msgId, operation, continuation }

section Operations

variable (hash : String → UInt64) (self : OefSearchClient) (agent : String) (msgId : UInt32)
  (continuation : AgentSessionContinuation)

def registerService (service : Instance Double) : OefSearchClient × SendRequest Double :=
  let (self, update) := self.generateUpdate service agent
  (self, request hash "update" "update" (.update update) agent msgId continuation)

def unregisterService (service : Instance Double) : OefSearchClient × SendRequest Double :=
  (self, request hash "remove" "remove" (.remove (self.generateRemove service)) agent msgId
    continuation)

def searchService (query : Query.Model Double) : OefSearchClient × SendRequest Double :=
  (self, request hash "search" "search-local" (.search (self.generateSearch query 1)) agent msgId
    continuation)

def searchServiceWide (query : Query.Model Double) : OefSearchClient × SendRequest Double :=
  (self, request hash "search" "search-wide" (.search (self.generateSearch query 3)) agent msgId
    continuation)

def registerDescription (desc : Instance Double) : OefSearchClient × SendRequest Double :=
  registerService hash self agent msgId continuation desc

def unregisterDescription (desc : Instance Double) : OefSearchClient × SendRequest Double :=
  unregisterService hash self agent msgId continuation desc

def searchAgents (query : Query.Model Double) : OefSearchClient × SendRequest Double :=
  searchService hash self agent msgId continuation query

/-- Call an operation. -/
def call : SearchCall Double → OefSearchClient × SendRequest Double
  | .registerDescription desc => registerDescription hash self agent msgId continuation desc
  | .unregisterDescription desc => unregisterDescription hash self agent msgId continuation desc
  | .registerService service => registerService hash self agent msgId continuation service
  | .unregisterService service => unregisterService hash self agent msgId continuation service
  | .searchAgents query => searchAgents hash self agent msgId continuation query
  | .searchService query => searchService hash self agent msgId continuation query
  | .searchServiceWide query => searchServiceWide hash self agent msgId continuation query

end Operations

/-- The completion handler of the write of a request. On an error it invokes the
continuation, otherwise it schedules the reception of the answer. -/
def requestSent (self : OefSearchClient) (request : SendRequest Double) (ec : ErrorCode) :
    OefSearchClient × Option (AgentSessionContinuation × ErrorCode × OefSearchResponse Double) :=
  if ec.failed then (self, some (request.continuation, ec, {}))
  else
    (self.scheduleRcvCallback request.key request.operation request.continuation
      request.msgId request.agent, none)

/-! ### Answers -/

/-- The key `process_message_` computes from a header: the decrement is 64 bits
wide, the key 32. -/
def headerKey (header : TransportHeader) : UInt32 := (header.id - 1).toUInt32

/-- The loops over the items of a local search result. -/
def localAgents (searchResp : SearchResponse Double) : List String :=
  searchResp.result.flatMap fun item => item.agents.map fun a => a.key

/-- The loops over the items of a wide search result, which copy every field. -/
def wideResult (searchResp : SearchResponse Double) : SearchResultWide Double where
  result := searchResp.result.map fun item =>
    { key := item.key, ip := item.ip, port := item.port, info := item.info,
      distance := item.distance
      agents := item.agents.map fun a => { key := a.key, score := a.score } }

/-- The part of `process_message_` after the handle was looked up and erased:
what the continuation of a handle of some operation is invoked with. The
confirmations of updates and removals are only logged. -/
def answer (external : External Double) (operation : String) (header : TransportHeader)
    (payload : Option Buffer) : ErrorCode × OefSearchResponse Double :=
  let ec := if !header.success then ErrorCode.noMessageAvailable else ErrorCode.success
  match payload with
  | none => (ec, {})
  | some payload =>
      if operation == "update" then (ec, {})
      else if operation == "remove" then (ec, {})
      else if operation == "search-local" then
        let searchResp := Pbs.deserialize external.searchResponse payload
        (ec, .ofAgents (localAgents searchResp))
      else if operation == "search-wide" then
        let searchResp := Pbs.deserialize external.searchResponse payload
        (ec, .ofWide (wideResult searchResp))
      else (ErrorCode.noMessageAvailable, {})

/-! ### What the operations do to handles and keys -/

section Specifications

variable (hash : String → UInt64) (self : OefSearchClient) (agent : String) (msgId : UInt32)
  (continuation : AgentSessionContinuation) (operation : SearchCall Double)

/-- The key survives the way through the header of a message and back. -/
theorem headerKey_generateHeader (uri : String) (msgId : UInt32) :
    headerKey (generateHeader uri msgId) = msgId := by
  rw [headerKey, generateHeader, UInt64.toUInt32_sub, UInt32.toUInt32_toUInt64]
  exact UInt32.add_sub_cancel msgId 1

@[simp] theorem call_handles :
    (call hash self agent msgId continuation operation).1.handles = self.handles := by
  cases operation <;>
    simp only [call, registerDescription, registerService, generateUpdate, generateUpdateAddNaddr,
      unregisterDescription, unregisterService, searchAgents, searchService, searchServiceWide] <;>
    split <;> rfl

@[simp] theorem call_continuation :
    (call hash self agent msgId continuation operation).2.continuation = continuation := by
  cases operation <;> rfl

/-- The header of a request holds its own key. -/
theorem call_headerKey :
    headerKey (call hash self agent msgId continuation operation).2.header =
      (call hash self agent msgId continuation operation).2.key := by
  cases operation <;> exact headerKey_generateHeader _ _

theorem call_key : (call hash self agent msgId continuation operation).2.key =
    (generateSmsgId hash agent msgId).toUInt32 := by
  cases operation <;> rfl

/-- A handle is saved under its key unless one is saved there already. -/
theorem scheduleRcvCallback_lookup (request : SendRequest Double) (key : UInt32) :
    (self.scheduleRcvCallback request.key request.operation request.continuation request.msgId
        request.agent).handles.lookup key =
      if self.handles.lookup request.key = none ∧ key = request.key then some request.handle
      else self.handles.lookup key := by
  unfold scheduleRcvCallback msgHandleSave
  cases saved : self.handles.lookup request.key with
  | some handle => simp
  | none =>
      simp only [Option.isSome_none, Bool.false_eq_true, ↓reduceIte, true_and]
      exact UnorderedMap.lookup_insert_eq_ite _ _ _ _

theorem msgHandleErase_lookup (erased key : UInt32) :
    (self.msgHandleErase erased).1.handles.lookup key =
      if key = erased then none else self.handles.lookup key :=
  UnorderedMap.lookup_erase_eq_ite _ _ _

end Specifications

end OefSearchClient

end OefCore
