import OefCore.Search.Client

/-! # What the requests say

Two things the search service reads in a request: the id in its header, which an
answer repeats, and the services its payload names.

The id is the key of the request plus one, computed with 32 bits and sent with 64;
the key of an answer is its id minus one, computed with 64 bits and cut to 32.
`OefCore.OefSearchClient.echoedId_key` follows the key there and back.

An update names the services it registers by agent and data model, a removal by
data model only. `OefCore.OefSearchClient.removal_identifies_iff` says for which
services equal removals stand for equal registrations.
-/

namespace OefCore

variable {Double : Type}

/-- A service at the search service: the agent it belongs to and its data model. -/
structure Registration where
  agentKey : String
  model : Query.DataModel
  deriving DecidableEq, Repr

/-- The services that the payload of a request registers. -/
def SearchPayload.registrations : SearchPayload Double → List Registration
  | .update message => message.dataModels.map fun dm => { agentKey := dm.key, model := dm.model }
  | .remove _ => []
  | .search _ => []

namespace OefSearchClient

/-! ### The id of a request -/

/-- The incremented key is zero at the wrap-around only. -/
theorem increment_eq_zero_iff (key : UInt32) : (key + 1).toUInt64 = 0 ↔ key = 4294967295 := by
  have bounded : key.toNat < 2 ^ 32 := key.toNat_lt
  rw [← UInt64.toNat_inj, ← UInt32.toNat_inj]
  simp only [UInt32.toNat_toUInt64, UInt32.toNat_add, UInt32.reduceToNat, UInt64.reduceToNat]
  omega

/-- The decrement, made with 64 bits, undoes the increment except at the
wrap-around, where all 64 bits are set. -/
theorem decrement_increment (key : UInt32) :
    (key + 1).toUInt64 - 1 =
      if key = 4294967295 then 18446744073709551615 else key.toUInt64 := by
  by_cases wraps : key = 4294967295
  · subst wraps
    rfl
  · have bounded : key.toNat < 2 ^ 32 := key.toNat_lt
    have unequal : key.toNat ≠ 4294967295 := fun equal => wraps (UInt32.toNat_inj.mp equal)
    rw [if_neg wraps, ← UInt64.toNat_inj, UInt64.toNat_sub]
    simp only [UInt32.toNat_toUInt64, UInt32.toNat_add, UInt32.reduceToNat, UInt64.reduceToNat]
    omega

theorem generateHeader_id (uri : String) (msgId : UInt32) :
    (generateHeader uri msgId).id = (msgId + 1).toUInt64 := rfl

/-- The id of a request is the increment of its key. -/
theorem call_id (hash : String → UInt64) (self : OefSearchClient) (agent : String)
    (msgId : UInt32) (continuation : AgentSessionContinuation) (operation : SearchCall Double) :
    (call hash self agent msgId continuation operation).2.header.id =
      ((generateSmsgId hash agent msgId).toUInt32 + 1).toUInt64 := by
  cases operation <;> exact generateHeader_id _ _

/-- **The key goes there and back.** Whatever the hash of the name of the agent, an
answer with the id of a request has the key of the request, and that is the key
under which the completion handler saves the handle, unless one is saved there
already; every other handle stays as it is. The id is zero when all 32 bits of the
key are set; the decrement then sets all 64. -/
theorem echoedId_key (hash : String → UInt64) (self later : OefSearchClient) (agent : String)
    (msgId : UInt32) (continuation : AgentSessionContinuation) (operation : SearchCall Double)
    (uri : String) (success : Bool) :
    let request := (call hash self agent msgId continuation operation).2
    let answer : TransportHeader := { uri, id := request.header.id, success }
    headerKey answer = (generateSmsgId hash agent msgId).toUInt32 ∧
      (∀ key, (later.requestSent request .success).1.handles.lookup key =
        if later.handles.lookup (headerKey answer) = none ∧ key = headerKey answer then
          some request.handle
        else later.handles.lookup key) ∧
      (answer.id = 0 ↔ headerKey answer = 4294967295) ∧
      answer.id - 1 = if headerKey answer = 4294967295 then 18446744073709551615
        else (headerKey answer).toUInt64 := by
  intro request answer
  have echoed : headerKey answer = request.key :=
    call_headerKey hash self agent msgId continuation operation
  have key : request.key = (generateSmsgId hash agent msgId).toUInt32 :=
    call_key hash self agent msgId continuation operation
  have id : answer.id = (request.key + 1).toUInt64 := by
    rw [key]
    exact call_id hash self agent msgId continuation operation
  rw [echoed, id]
  refine ⟨key, fun saved => ?_, increment_eq_zero_iff _, decrement_increment _⟩
  exact scheduleRcvCallback_lookup later request saved

/-! ### The services a request names -/

section Services

variable (hash : String → UInt64) (self : OefSearchClient) (agent : String) (msgId : UInt32)
  (continuation : AgentSessionContinuation) (service : Instance Double)

/-- An update registers one service, under the name of the agent up to its first
null. -/
theorem registerService_registrations :
    (registerService hash self agent msgId continuation service).2.payload.registrations =
      [{ agentKey := cStr agent, model := service.model }] := by
  simp only [registerService, generateUpdate, generateUpdateAddNaddr]
  split <;> rfl

theorem unregisterService_payload :
    (unregisterService hash self agent msgId continuation service).2.payload =
      .remove { key := self.coreId, all := false, dataModels := [service.model] } := rfl

end Services

/-- Removals of one core are equal when they name the same data model. -/
theorem unregisterService_payload_eq_iff (hash : String → UInt64) {self later : OefSearchClient}
    (oneCore : later.coreId = self.coreId) (agent other : String) (msgId otherId : UInt32)
    (continuation otherContinuation : AgentSessionContinuation)
    (service otherService : Instance Double) :
    (unregisterService hash self agent msgId continuation service).2.payload =
        (unregisterService hash later other otherId otherContinuation otherService).2.payload ↔
      service.model = otherService.model := by
  rw [unregisterService_payload, unregisterService_payload, oneCore]
  simp only [SearchPayload.remove.injEq, Remove.mk.injEq, true_and, List.cons.injEq, and_true]

/-- **What a removal identifies.** For two agents and two services of one core,
equal removals stand for equal registrations if and only if the data models differ,
so that the removals do, or the updates name the agents alike. The removal does not
name the agent at all. -/
theorem removal_identifies_iff (hash : String → UInt64) {self later : OefSearchClient}
    (oneCore : later.coreId = self.coreId) (agent other : String) (msgId otherId : UInt32)
    (continuation otherContinuation : AgentSessionContinuation)
    (service otherService : Instance Double) :
    ((unregisterService hash self agent msgId continuation service).2.payload =
          (unregisterService hash later other otherId otherContinuation otherService).2.payload →
        (registerService hash self agent msgId continuation service).2.payload.registrations =
          (registerService hash later other otherId otherContinuation
            otherService).2.payload.registrations) ↔
      (service.model ≠ otherService.model ∨ cStr agent = cStr other) := by
  rw [unregisterService_payload_eq_iff hash oneCore, registerService_registrations,
    registerService_registrations]
  simp only [List.cons.injEq, Registration.mk.injEq, and_true]
  constructor
  · intro identifies
    by_cases sameModel : service.model = otherService.model
    · exact .inr (identifies sameModel).1
    · exact .inl sameModel
  · intro condition sameModel
    rcases condition with different | sameAgent
    · exact absurd sameModel different
    · exact ⟨sameAgent, sameModel⟩

/-! ### Two agents with one data model -/

section Person

/-- An instance of the data model of persons. -/
def personAged (age : Int64) : Instance Int :=
  Instance.ofMessage {
    model := { name := "person", attributes := [⟨"age", .int, true, none⟩] }
    values := [⟨"age", .kI age⟩] }

def freshCore : OefSearchClient := make "core" "127.0.0.1" 3333

/-- The core after a registration. -/
def usedCore : OefSearchClient :=
  (registerService (fun _ => 0) freshCore "alice" 1 (.request 0) (personAged 30)).1

/-- Two services of one agent are removed alike, so they are registered alike. -/
theorem removal_identifies_iff_alice :
    (registerService (fun _ => 0) freshCore "alice" 1 (.request 0)
          (personAged 30)).2.payload.registrations =
        (registerService (fun _ => 0) usedCore "alice" 2 (.request 1)
          (personAged 40)).2.payload.registrations :=
  (removal_identifies_iff (fun _ => 0) rfl "alice" "alice" 1 2 (.request 0) (.request 1)
    (personAged 30) (personAged 40)).mpr (.inr rfl) rfl

/-- The removals of two agents with one data model are the same message, although
their updates register two services. -/
theorem removal_ambiguous :
    (unregisterService (fun _ => 0) freshCore "alice" 1 (.request 0)
          (personAged 30)).2.payload =
        (unregisterService (fun _ => 0) usedCore "bob" 1 (.request 1)
          (personAged 40)).2.payload ∧
      (registerService (fun _ => 0) freshCore "alice" 1 (.request 0)
          (personAged 30)).2.payload.registrations ≠
        (registerService (fun _ => 0) usedCore "bob" 1 (.request 1)
          (personAged 40)).2.payload.registrations :=
  ⟨rfl, by decide⟩

end Person

end OefSearchClient

end OefCore
