import Mathlib.Logic.Function.Basic
import OefCore.Lib.Run
import OefCore.Search.Client
import OefCore.Search.Framing

/-! # The search client at run time

The search client with its asynchronous operations: the writes of the requests,
whose completion handlers run on any thread at any later time, and the loop of
`handle_messages`, a chain of callbacks that reads a frame, processes it and
starts the next read. A step is one call of an operation, one completion handler
or one of the separately locked parts of `process_message_`: the lookup of the
handle, its erasure, and the invocation of the continuation.

What the search service answers is up to the environment. An event that brings a
frame also says which request the frame was produced for, if any; the client does
not look at it.

`OefCore.SearchState.Stepped` lists every way a step can go, and
`OefCore.SearchState.Sound` is what holds in every state of every run.
-/

namespace OefCore

/-- How far the write of a request is: some bytes are missing, all bytes are on
the connection, or the completion handler ran with a result. -/
inductive WriteState where
  | writing
  | written
  | handled (ec : ErrorCode)
  deriving DecidableEq, Repr

structure Issued (Double : Type) where
  request : SendRequest Double
  write : WriteState

/-- A message on the search connection, with the request it was produced for. -/
structure Answer where
  origin : Option RequestId
  header : TransportHeader
  payload : Option Buffer
  deriving DecidableEq, Repr

/-- The key of the message. -/
def Answer.key (answer : Answer) : UInt32 := OefSearchClient.headerKey answer.header

/-- `process_message_` after the lookup of the handle, before or after its
erasure. -/
structure Processing where
  answer : Answer
  handle : MsgHandle
  erased : Bool
  deriving DecidableEq, Repr

/-- An invocation of a continuation: its arguments, and the message it answers
unless the write failed. -/
structure Invocation (Double : Type) where
  continuation : AgentSessionContinuation
  ec : ErrorCode
  response : OefSearchResponse Double
  cause : Option Answer
  deriving DecidableEq

/-- The client, the requests it was asked for, the outstanding reads of length
words, the message being processed, the frames that arrived and the invocations
of continuations. -/
structure SearchState (Double : Type) where
  client : OefSearchClient
  issued : RequestId → Option (Issued Double)
  reads : Nat
  processing : Option Processing
  arrived : List (Option RequestId × Buffer)
  invoked : List (Invocation Double)

inductive SearchEvent (Double : Type) where
  /-- An agent session calls an operation. -/
  | call (id : RequestId) (operation : SearchCall Double) (agent : String) (msgId : UInt32)
  /-- The last byte of a request is written. -/
  | written (id : RequestId)
  /-- The completion handler of the write of a request runs. -/
  | sent (id : RequestId) (ec : ErrorCode)
  /-- The bytes for one round of `receive_` arrive. -/
  | frame (origin : Option RequestId) (bytes : Buffer)
  /-- `msg_handle_erase`. -/
  | erase
  /-- The continuation is invoked, and the handler starts the next round. -/
  | invoke

namespace SearchState

variable {Double : Type}

/-- `handle_messages` starts a read of the two length words. -/
def handleMessages (state : SearchState Double) : SearchState Double :=
  { state with reads := state.reads + 1 }

/-- A client that has just been constructed and listens. -/
def initial (client : OefSearchClient) : SearchState Double :=
  handleMessages { client, issued := fun _ => none, reads := 0, processing := none,
                   arrived := [], invoked := [] }

def setIssued (state : SearchState Double) (id : RequestId) (issued : Issued Double) :
    SearchState Double :=
  { state with issued := Function.update state.issued id (some issued) }

variable (host : ByteOrder) (external : External Double)

/-- A call issues a request under a new identifier. -/
def stepCall (state : SearchState Double) (id : RequestId) (operation : SearchCall Double)
    (agent : String) (msgId : UInt32) : Option (SearchState Double) :=
  match state.issued id with
  | some _ => none
  | none =>
      let (client, request) := state.client.call external.hash agent msgId (.request id) operation
      some ({ state with client }.setIssued id { request, write := .writing })

def stepWritten (state : SearchState Double) (id : RequestId) : Option (SearchState Double) :=
  match state.issued id with
  | some ⟨request, .writing⟩ => some (state.setIssued id { request, write := .written })
  | _ => none

/-- A write succeeds when all bytes are written and fails before that. -/
def stepSent (state : SearchState Double) (id : RequestId) (ec : ErrorCode) :
    Option (SearchState Double) :=
  match state.issued id with
  | some ⟨request, .writing⟩ =>
      if ec.failed then some (complete state id request ec) else none
  | some ⟨request, .written⟩ =>
      if ec.failed then none else some (complete state id request ec)
  | _ => none
where
  complete (state : SearchState Double) (id : RequestId) (request : SendRequest Double)
      (ec : ErrorCode) : SearchState Double :=
    let (client, invocation) := state.client.requestSent request ec
    let state := { state with client }.setIssued id { request, write := .handled ec }
    match invocation with
    | none => state
    | some (continuation, ec, response) =>
        { state with invoked := state.invoked ++ [{ continuation, ec, response, cause := none }] }

/-- A frame is taken by the outstanding read, or by nobody when there is none. A
message is looked up by its key; the other ends of a round start no new read. -/
def stepFrame (state : SearchState Double) (origin : Option RequestId) (bytes : Buffer) :
    Option (SearchState Double) :=
  match state.processing with
  | some _ => none
  | none =>
      let state := { state with arrived := state.arrived ++ [(origin, bytes)] }
      if state.reads = 0 then some state
      else
        let state := { state with reads := state.reads - 1 }
        match (OefSearchClient.receive host external.transportHeader bytes).1 with
        | .message header payload =>
            let answer : Answer := { origin, header, payload }
            some { state with
              processing := some {
                answer, handle := state.client.msgHandleGet answer.key, erased := false } }
        | _ => some state

def stepErase (state : SearchState Double) : Option (SearchState Double) :=
  match state.processing with
  | some ⟨answer, handle, false⟩ =>
      some { state with
        client := (state.client.msgHandleErase answer.key).1
        processing := some { answer, handle, erased := true } }
  | _ => none

def stepInvoke (state : SearchState Double) : Option (SearchState Double) :=
  match state.processing with
  | some ⟨answer, handle, true⟩ =>
      let (ec, response) :=
        OefSearchClient.answer external handle.operation answer.header answer.payload
      some (handleMessages { state with
        processing := none
        invoked := state.invoked ++
          [{ continuation := handle.continuation, ec, response, cause := some answer }] })
  | _ => none

def step (state : SearchState Double) : SearchEvent Double → Option (SearchState Double)
  | .call id operation agent msgId => stepCall external state id operation agent msgId
  | .written id => stepWritten state id
  | .sent id ec => stepSent state id ec
  | .frame origin bytes => stepFrame host external state origin bytes
  | .erase => stepErase state
  | .invoke => stepInvoke external state

/-- The invocation of the continuation of a handle with a message. -/
def invocationOf (handle : MsgHandle) (answer : Answer) : Invocation Double where
  continuation := handle.continuation
  ec := (OefSearchClient.answer external handle.operation answer.header answer.payload).1
  response := (OefSearchClient.answer external handle.operation answer.header answer.payload).2
  cause := some answer

/-- The message a round ends with, if it ends with one. -/
def messageOf (origin : Option RequestId) (bytes : Buffer) : Option Answer :=
  match (OefSearchClient.receive host external.transportHeader bytes).1 with
  | .message header payload => some { origin, header, payload }
  | _ => none

/-- Every way a step can go. -/
inductive Stepped (state : SearchState Double) :
    SearchEvent Double → SearchState Double → Prop where
  | called {id operation agent msgId} (fresh : state.issued id = none) :
      Stepped state (.call id operation agent msgId)
        { state with
          client := (state.client.call external.hash agent msgId (.request id) operation).1
          issued := Function.update state.issued id (some {
            request := (state.client.call external.hash agent msgId (.request id) operation).2
            write := .writing }) }
  | written {id request} (found : state.issued id = some ⟨request, .writing⟩) :
      Stepped state (.written id)
        { state with issued := Function.update state.issued id (some ⟨request, .written⟩) }
  | sendFailed {id request ec} (found : state.issued id = some ⟨request, .writing⟩)
      (failed : ec.failed = true) :
      Stepped state (.sent id ec)
        { state with
          issued := Function.update state.issued id (some ⟨request, .handled ec⟩)
          invoked := state.invoked ++
            [{ continuation := request.continuation, ec, response := {}, cause := none }] }
  | sendSucceeded {id request ec} (found : state.issued id = some ⟨request, .written⟩)
      (succeeded : ec.failed = false) :
      Stepped state (.sent id ec)
        { state with
          client := state.client.scheduleRcvCallback request.key request.operation
            request.continuation request.msgId request.agent
          issued := Function.update state.issued id (some ⟨request, .handled ec⟩) }
  | unread {origin bytes} (idle : state.processing = none) (stopped : state.reads = 0) :
      Stepped state (.frame origin bytes)
        { state with arrived := state.arrived ++ [(origin, bytes)] }
  | dropped {origin bytes} (idle : state.processing = none) (listening : state.reads ≠ 0)
      (noMessage : messageOf host external origin bytes = none) :
      Stepped state (.frame origin bytes)
        { state with
          arrived := state.arrived ++ [(origin, bytes)]
          reads := state.reads - 1 }
  | received {origin bytes answer} (idle : state.processing = none)
      (listening : state.reads ≠ 0)
      (message : messageOf host external origin bytes = some answer) :
      Stepped state (.frame origin bytes)
        { state with
          arrived := state.arrived ++ [(origin, bytes)]
          reads := state.reads - 1
          processing := some {
            answer, handle := state.client.msgHandleGet answer.key, erased := false } }
  | erased {answer handle} (found : state.processing = some ⟨answer, handle, false⟩) :
      Stepped state .erase
        { state with
          client := (state.client.msgHandleErase answer.key).1
          processing := some ⟨answer, handle, true⟩ }
  | invoked {answer handle} (found : state.processing = some ⟨answer, handle, true⟩) :
      Stepped state .invoke
        { state with
          processing := none
          reads := state.reads + 1
          invoked := state.invoked ++ [invocationOf external handle answer] }

variable {host : ByteOrder} {external : External Double}
  {state next : SearchState Double} {event : SearchEvent Double}

/-- A step goes one of the listed ways. -/
theorem stepped_of_step (taken : step host external state event = some next) :
    Stepped host external state event next := by
  cases event with
  | call id operation agent msgId =>
      simp only [step, stepCall] at taken
      split at taken
      · cases taken
      · rename_i fresh
        cases taken
        exact .called fresh
  | written id =>
      simp only [step, stepWritten] at taken
      split at taken
      · rename_i found
        cases taken
        exact .written found
      · cases taken
  | sent id ec =>
      simp only [step, stepSent] at taken
      split at taken
      · rename_i request found
        by_cases failed : ec.failed = true
        · rw [if_pos failed] at taken
          cases taken
          simp only [stepSent.complete, OefSearchClient.requestSent, if_pos failed]
          exact .sendFailed found failed
        · rw [if_neg failed] at taken
          cases taken
      · rename_i request found
        by_cases failed : ec.failed = true
        · rw [if_pos failed] at taken
          cases taken
        · rw [if_neg failed] at taken
          cases taken
          simp only [stepSent.complete, OefSearchClient.requestSent, if_neg failed]
          exact .sendSucceeded found (Bool.eq_false_iff.mpr failed)
      · cases taken
  | frame origin bytes =>
      simp only [step, stepFrame] at taken
      split at taken
      · cases taken
      · rename_i idle
        by_cases stopped : state.reads = 0
        · rw [if_pos stopped] at taken
          cases taken
          exact .unread idle stopped
        · rw [if_neg stopped] at taken
          split at taken
          · rename_i header payload received
            cases taken
            exact .received idle stopped (by rw [messageOf, received])
          · rename_i noMessage
            cases taken
            apply Stepped.dropped idle stopped
            rw [messageOf]
            split
            · rename_i header payload received
              exact absurd received (noMessage header payload)
            · rfl
  | erase =>
      simp only [step, stepErase] at taken
      split at taken
      · rename_i answer handle found
        cases taken
        exact .erased found
      · cases taken
  | invoke =>
      simp only [step, stepInvoke] at taken
      split at taken
      · rename_i answer handle found
        cases taken
        exact .invoked found
      · cases taken

/-! ### Requests keep their places -/

/-- A step leaves the requests alone, issues one, or moves on one whose completion
handler did not run yet. -/
theorem Stepped.issued_cases (stepped : Stepped host external state event next) :
    next.issued = state.issued ∨ ∃ id request after,
      next.issued = Function.update state.issued id (some ⟨request, after⟩) ∧
        ((state.issued id = none ∧ after = .writing ∧ ∃ operation agent msgId,
            event = .call id operation agent msgId ∧
              request = (state.client.call external.hash agent msgId (.request id) operation).2) ∨
          ∃ before, state.issued id = some ⟨request, before⟩ ∧ ∀ ec, before ≠ .handled ec) := by
  cases stepped with
  | @called id operation agent msgId fresh =>
      exact Or.inr ⟨id, _, _, rfl, Or.inl ⟨fresh, rfl, operation, agent, msgId, rfl, rfl⟩⟩
  | written found | sendFailed found | sendSucceeded found =>
      exact Or.inr ⟨_, _, _, rfl, Or.inr ⟨_, found, fun _ => WriteState.noConfusion⟩⟩
  | unread | dropped | received | erased | invoked => exact Or.inl rfl

/-- A request after a step that issues or moves on one request. -/
theorem issued_of_update {id other : RequestId} {request sent : SendRequest Double}
    {write after : WriteState}
    (updated : next.issued = Function.update state.issued other (some ⟨sent, after⟩))
    (issued : next.issued id = some ⟨request, write⟩) :
    id ≠ other ∧ state.issued id = some ⟨request, write⟩ ∨
      id = other ∧ sent = request ∧ after = write := by
  rw [updated] at issued
  by_cases same : id = other
  · subst same
    rw [Function.update_self] at issued
    cases issued
    exact Or.inr ⟨rfl, rfl, rfl⟩
  · rw [Function.update_of_ne same] at issued
    exact Or.inl ⟨same, issued⟩

/-- A request comes from a call, and keeps its place from then on. -/
theorem Stepped.issued_origin (stepped : Stepped host external state event next) {id : RequestId}
    {request : SendRequest Double} {write : WriteState}
    (found : next.issued id = some ⟨request, write⟩) :
    (∃ before, state.issued id = some ⟨request, before⟩) ∨
      state.issued id = none ∧ write = .writing ∧ ∃ operation agent msgId,
        event = .call id operation agent msgId ∧
          request = (state.client.call external.hash agent msgId (.request id) operation).2 := by
  rcases stepped.issued_cases with unchanged | ⟨other, changed, after, update, origin⟩
  · exact Or.inl ⟨write, unchanged ▸ found⟩
  · rcases issued_of_update update found with ⟨_, earlier⟩ | ⟨rfl, rfl, rfl⟩
    · exact Or.inl ⟨write, earlier⟩
    · rcases origin with call | ⟨before, earlier, _⟩
      · exact Or.inr call
      · exact Or.inl ⟨before, earlier⟩

/-- A request that was issued stays issued. -/
theorem Stepped.issued_kept (stepped : Stepped host external state event next) {id : RequestId}
    {request : SendRequest Double} {write : WriteState}
    (found : state.issued id = some ⟨request, write⟩) :
    ∃ after, next.issued id = some ⟨request, after⟩ := by
  rcases stepped.issued_cases with unchanged | ⟨other, changed, after, update, origin⟩
  · exact ⟨write, by rw [unchanged, found]⟩
  · rw [update]
    by_cases same : id = other
    · subst same
      rcases origin with ⟨fresh, _⟩ | ⟨before, earlier, _⟩
      · rw [fresh] at found
        cases found
      · rw [earlier] at found
        cases found
        exact ⟨after, Function.update_self ..⟩
    · exact ⟨write, by rw [Function.update_of_ne same, found]⟩

/-- The result of a write stays. -/
theorem Stepped.handled_kept (stepped : Stepped host external state event next) {id : RequestId}
    {request : SendRequest Double} {ec : ErrorCode}
    (found : state.issued id = some ⟨request, .handled ec⟩) :
    next.issued id = some ⟨request, .handled ec⟩ := by
  rcases stepped.issued_cases with unchanged | ⟨other, changed, after, update, origin⟩
  · rw [unchanged, found]
  · have different : id ≠ other := by
      rintro rfl
      rcases origin with ⟨fresh, _⟩ | ⟨before, earlier, unhandled⟩
      · rw [fresh] at found
        cases found
      · rw [earlier] at found
        cases found
        exact unhandled ec rfl
    rw [update, Function.update_of_ne different, found]

/-! ### What a step invokes and processes -/

/-- A step invokes at most one continuation: that of a request whose write failed,
or that of the handle found for a message. -/
theorem Stepped.invoked_cases (stepped : Stepped host external state event next) :
    next.invoked = state.invoked ∨ ∃ invocation,
      next.invoked = state.invoked ++ [invocation] ∧
        ((∃ id request ec, event = .sent id ec ∧ state.issued id = some ⟨request, .writing⟩ ∧
            next.issued id = some ⟨request, .handled ec⟩ ∧ ec.failed = true ∧
              next.client = state.client ∧ next.processing = state.processing ∧
                invocation = { continuation := request.continuation, ec, response := {},
                               cause := none }) ∨
          ∃ answer handle, event = .invoke ∧
            state.processing = some ⟨answer, handle, true⟩ ∧ next.processing = none ∧
              next.client = state.client ∧ invocation = invocationOf external handle answer) := by
  cases stepped with
  | sendFailed found failed =>
      exact Or.inr ⟨_, rfl, Or.inl
        ⟨_, _, _, rfl, found, Function.update_self .., failed, rfl, rfl, rfl⟩⟩
  | invoked found => exact Or.inr ⟨_, rfl, Or.inr ⟨_, _, rfl, found, rfl, rfl, rfl⟩⟩
  | called | written | sendSucceeded | unread | dropped | received | erased => exact Or.inl rfl

/-- What is saved after a step was saved before it, or is the handle of the
request whose write just succeeded. -/
theorem Stepped.saved_origin (stepped : Stepped host external state event next) {key : UInt32}
    {handle : MsgHandle} (saved : next.client.handles.lookup key = some handle) :
    state.client.handles.lookup key = some handle ∨
      state.client.handles.lookup key = none ∧ ∃ id request ec,
        event = .sent id ec ∧ state.issued id = some ⟨request, .written⟩ ∧
          next.issued id = some ⟨request, .handled ec⟩ ∧ ec.failed = false ∧
            request.key = key ∧ request.handle = handle := by
  cases stepped with
  | called =>
      dsimp only at saved
      rw [OefSearchClient.call_handles] at saved
      exact Or.inl saved
  | @sendSucceeded id request ec found succeeded =>
      dsimp only at saved
      rw [OefSearchClient.scheduleRcvCallback_lookup] at saved
      split at saved
      · rename_i free
        obtain ⟨free, rfl⟩ := free
        cases saved
        exact Or.inr ⟨free, id, request, ec, rfl, found, Function.update_self .., succeeded, rfl,
          rfl⟩
      · exact Or.inl saved
  | @erased answer =>
      dsimp only at saved
      rw [OefSearchClient.msgHandleErase_lookup] at saved
      split at saved
      · cases saved
      · exact Or.inl saved
  | written | sendFailed | unread | dropped | received | invoked => exact Or.inl saved

/-- What is processed after a step was processed before it, or was just looked
up. Once the handle is erased, nothing is saved under its key at first. -/
theorem Stepped.processing_origin (stepped : Stepped host external state event next)
    {answer : Answer} {handle : MsgHandle} {erased : Bool}
    (processing : next.processing = some ⟨answer, handle, erased⟩) :
    state.processing = some ⟨answer, handle, erased⟩ ∨
      (state.processing = some ⟨answer, handle, false⟩ ∧ erased = true ∧
        next.client.handles.lookup answer.key = none) ∨
      (state.processing = none ∧ erased = false ∧ next.client = state.client ∧
        handle = state.client.msgHandleGet answer.key) := by
  cases stepped with
  | received idle listening message =>
      cases processing
      exact Or.inr (Or.inr ⟨idle, rfl, rfl, rfl⟩)
  | erased found =>
      cases processing
      refine Or.inr (Or.inl ⟨found, rfl, ?_⟩)
      dsimp only
      rw [OefSearchClient.msgHandleErase_lookup, if_pos rfl]
  | invoked => cases processing
  | called | written | sendFailed | sendSucceeded | unread | dropped => exact Or.inl processing

/-- A message that arrives while a read is outstanding is looked up. -/
theorem Stepped.looked_up {origin : Option RequestId} {bytes : Buffer} {answer : Answer}
    (stepped : Stepped host external state (.frame origin bytes) next)
    (listening : state.reads ≠ 0)
    (message : messageOf host external origin bytes = some answer) :
    next.processing = some ⟨answer, state.client.msgHandleGet answer.key, false⟩ := by
  cases stepped with
  | unread _ stopped => exact absurd stopped listening
  | dropped _ _ noMessage =>
      rw [message] at noMessage
      cases noMessage
  | received _ _ found =>
      rw [message] at found
      cases found
      rfl

/-- Until its continuation is invoked, a message stays in processing with the
handle that was found for it. -/
theorem Stepped.processing_kept (stepped : Stepped host external state event next)
    (other : event ≠ .invoke) {answer : Answer} {handle : MsgHandle} {erased : Bool}
    (processing : state.processing = some ⟨answer, handle, erased⟩) :
    ∃ after, next.processing = some ⟨answer, handle, after⟩ := by
  cases stepped with
  | unread idle | dropped idle | received idle =>
      rw [idle] at processing
      cases processing
  | erased found =>
      rw [found] at processing
      cases processing
      exact ⟨true, rfl⟩
  | invoked => exact absurd rfl other
  | called | written | sendFailed | sendSucceeded => exact ⟨erased, processing⟩

/-- A step keeps the number of handlers and outstanding reads, unless it is a frame
without a message. -/
theorem Stepped.reads_kept (stepped : Stepped host external state event next)
    (message : ∀ origin bytes, event = .frame origin bytes →
      messageOf host external origin bytes ≠ none)
    (alone : state.reads + (if state.processing = none then 0 else 1) = 1) :
    next.reads + (if next.processing = none then 0 else 1) = 1 := by
  cases stepped with
  | unread idle stopped =>
      rw [if_pos idle, stopped] at alone
      cases alone
  | dropped _ _ noMessage => exact absurd noMessage (message _ _ rfl)
  | received idle listening found =>
      rw [if_pos idle] at alone
      change state.reads - 1 + (if some _ = none then 0 else 1) = 1
      rw [if_neg (Option.some_ne_none _)]
      omega
  | erased found =>
      rw [found, if_neg (Option.some_ne_none _)] at alone
      change state.reads + (if some _ = none then 0 else 1) = 1
      rwa [if_neg (Option.some_ne_none _)]
  | invoked found =>
      rw [found, if_neg (Option.some_ne_none _)] at alone
      exact alone
  | called | written | sendFailed | sendSucceeded => exact alone

/-! ### What holds in every state -/

/-- A handle under a key was made for a request with that key, whose write
succeeded. -/
def HandleOf (state : SearchState Double) (id : RequestId) (key : UInt32) (handle : MsgHandle) :
    Prop :=
  ∃ request ec, state.issued id = some ⟨request, .handled ec⟩ ∧ ec.failed = false ∧
    request.key = key ∧ request.handle = handle

/-- The handles, saved or looked up, belong to requests. -/
structure Sound (state : SearchState Double) : Prop where
  continuation : ∀ id request write, state.issued id = some ⟨request, write⟩ →
    request.continuation = .request id
  headerKey : ∀ id request write, state.issued id = some ⟨request, write⟩ →
    OefSearchClient.headerKey request.header = request.key
  saved : ∀ key handle, state.client.handles.lookup key = some handle →
    ∃ id, state.HandleOf id key handle
  found : ∀ answer handle erased, state.processing = some ⟨answer, handle, erased⟩ →
    handle = .ofId answer.key ∨ ∃ id, state.HandleOf id answer.key handle

/-- A request is the one its continuation names. -/
theorem Sound.named (sound : state.Sound) {id other : RequestId} {request : SendRequest Double}
    {write : WriteState} (issued : state.issued other = some ⟨request, write⟩)
    (named : request.continuation = .request id) : other = id := by
  rw [sound.continuation other request write issued] at named
  cases named
  rfl

theorem HandleOf.continuation {id : RequestId} {key : UInt32} {handle : MsgHandle}
    (sound : state.Sound) (belongs : state.HandleOf id key handle) :
    handle.continuation = .request id := by
  obtain ⟨request, ec, found, _, _, rfl⟩ := belongs
  exact sound.continuation id request _ found

theorem HandleOf.kept (stepped : Stepped host external state event next) {id : RequestId}
    {key : UInt32} {handle : MsgHandle} (belongs : state.HandleOf id key handle) :
    next.HandleOf id key handle := by
  obtain ⟨request, ec, found, rest⟩ := belongs
  exact ⟨request, ec, stepped.handled_kept found, rest⟩

theorem Sound.step (sound : state.Sound) (stepped : Stepped host external state event next) :
    next.Sound where
  continuation id request write issued := by
    rcases stepped.issued_origin issued with ⟨before, earlier⟩ | ⟨_, _, _, _, _, _, rfl⟩
    · exact sound.continuation id request before earlier
    · exact OefSearchClient.call_continuation ..
  headerKey id request write issued := by
    rcases stepped.issued_origin issued with ⟨before, earlier⟩ | ⟨_, _, _, _, _, _, rfl⟩
    · exact sound.headerKey id request before earlier
    · exact OefSearchClient.call_headerKey ..
  saved key handle saved := by
    rcases stepped.saved_origin saved with earlier | ⟨_, id, request, ec, _, _, found, rest⟩
    · obtain ⟨id, belongs⟩ := sound.saved key handle earlier
      exact ⟨id, belongs.kept stepped⟩
    · exact ⟨id, request, ec, found, rest⟩
  found answer handle erased processing := by
    have kept : ∀ before, state.processing = some ⟨answer, handle, before⟩ →
        handle = .ofId answer.key ∨ ∃ id, next.HandleOf id answer.key handle := by
      intro before earlier
      rcases sound.found answer handle before earlier with none | ⟨id, belongs⟩
      · exact Or.inl none
      · exact Or.inr ⟨id, belongs.kept stepped⟩
    rcases stepped.processing_origin processing with earlier | ⟨earlier, _⟩ | ⟨_, _, _, rfl⟩
    · exact kept erased earlier
    · exact kept false earlier
    · unfold OefSearchClient.msgHandleGet
      cases saved : state.client.handles.lookup answer.key with
      | none => exact Or.inl rfl
      | some handle =>
          obtain ⟨id, belongs⟩ := sound.saved _ _ saved
          exact Or.inr ⟨id, belongs.kept stepped⟩

theorem HandleOf.unique {id : RequestId} {key key' : UInt32} {handle handle' : MsgHandle}
    (first : state.HandleOf id key handle) (second : state.HandleOf id key' handle') :
    key = key' ∧ handle = handle' := by
  obtain ⟨request, ec, found, _, rfl, rfl⟩ := first
  obtain ⟨request', ec', found', _, rfl, rfl⟩ := second
  rw [found] at found'
  cases found'
  exact ⟨rfl, rfl⟩

/-- A handle belongs to the request its continuation names. -/
theorem HandleOf.named (sound : state.Sound) {id other : RequestId} {key : UInt32}
    {handle : MsgHandle} (belongs : state.HandleOf other key handle)
    (named : handle.continuation = .request id) : other = id := by
  obtain ⟨request, ec, issued, _, _, rfl⟩ := belongs
  exact sound.named issued named

theorem HandleOf.of_next (sound : state.Sound) (stepped : Stepped host external state event next)
    {id other : RequestId} {key key' : UInt32} {handle : MsgHandle}
    (belongs : state.HandleOf other key handle) (after : next.HandleOf id key' handle) :
    state.HandleOf id key handle := by
  have same : other = id := belongs.named sound (after.continuation (sound.step stepped))
  exact same ▸ belongs

theorem sound_initial (client : OefSearchClient) (empty : client.handles = ∅) :
    (initial client : SearchState Double).Sound where
  continuation _ _ _ issued := nomatch issued
  headerKey _ _ _ issued := nomatch issued
  saved key handle saved := by
    change client.handles.lookup key = some handle at saved
    rw [empty, UnorderedMap.lookup_empty_eq_none] at saved
    cases saved
  found _ _ _ processing := nomatch processing

/-- Every state of every run is sound. -/
theorem run_sound {condition : SearchState Double → SearchEvent Double → Prop}
    {client : OefSearchClient} (empty : client.handles = ∅) {events : List (SearchEvent Double)}
    (run : RunWithin condition (step host external) (initial client) events state) :
    state.Sound :=
  run.invariant Sound (sound_initial client empty) fun _ _ _ sound _ taken =>
    sound.step (stepped_of_step taken)

/-! ### The search service -/

section Service

variable (host) (external)

/-- A frame for the request arrived. -/
def Answered (state : SearchState Double) (id : RequestId) : Prop :=
  ∃ bytes, (some id, bytes) ∈ state.arrived

/-- The search service answers a request once, after it received all of it, under
the id in its header. -/
def HonestService (state : SearchState Double) (event : SearchEvent Double) : Prop :=
  ∀ origin bytes, event = .frame origin bytes → ∃ id request write,
    origin = some id ∧ state.issued id = some ⟨request, write⟩ ∧
      (write = .written ∨ ∃ ec, write = .handled ec ∧ ec.failed = false) ∧
      ¬ state.Answered id ∧
      ∀ answer, messageOf host external origin bytes = some answer →
        answer.header.id = request.header.id

end Service

theorem messageOf_origin {origin : Option RequestId} {bytes : Buffer} {answer : Answer}
    (message : messageOf host external origin bytes = some answer) : answer.origin = origin := by
  unfold messageOf at message
  split at message
  · cases message
    rfl
  · cases message

theorem Stepped.answered_kept (stepped : Stepped host external state event next) {id : RequestId}
    (answered : state.Answered id) : next.Answered id := by
  obtain ⟨bytes, arrived⟩ := answered
  cases stepped with
  | unread | dropped | received => exact ⟨bytes, List.mem_append_left _ arrived⟩
  | called | written | sendFailed | sendSucceeded | erased | invoked => exact ⟨bytes, arrived⟩

/-- The answer to a request comes back under its key. -/
theorem HonestService.key (sound : state.Sound) {id : RequestId} {bytes : Buffer} {answer : Answer}
    (honest : HonestService host external state (.frame (some id) bytes))
    (message : messageOf host external (some id) bytes = some answer) :
    ∃ request write, state.issued id = some ⟨request, write⟩ ∧
      (write = .written ∨ ∃ ec, write = .handled ec ∧ ec.failed = false) ∧
      ¬ state.Answered id ∧ answer.key = request.key := by
  obtain ⟨other, request, write, same, found, sent, unanswered, echoed⟩ :=
    honest (some id) bytes rfl
  cases same
  refine ⟨request, write, found, sent, unanswered, ?_⟩
  rw [← sound.headerKey id request write found]
  unfold Answer.key OefSearchClient.headerKey
  rw [echoed answer message]

/-! ### Concrete parameters -/

/-- What protobuf makes of some short headers: no fields at all, an id below 128,
or such an id with a successful status. -/
def shortHeader : ParseFromArray TransportHeader
  | [] => (true, { uri := "", id := 0, success := false })
  | [0x10, id] => (id < 128, { uri := "", id := id.toUInt64, success := false })
  | [0x10, id, 0x1a, 0x02, 0x08, 0x01] =>
      (id < 128, { uri := "", id := id.toUInt64, success := true })
  | _ => (false, { uri := "", id := 0, success := false })

/-- Parameters for concrete runs: the hash of a name is its length, and search
responses are empty. -/
def shortExternal : External Int where
  hash name := UInt64.ofNat name.length
  transportHeader := shortHeader
  searchResponse buffer := (buffer.isEmpty, { result := [] })

/-- A client that has just been constructed. -/
def pluto : OefSearchClient := .make "oef-core-pluto" "127.0.0.1" 3333

/-- The client of a concrete run listens. -/
def listening : SearchState Int := initial pluto

/-- Where concrete events lead. -/
def after (events : List (SearchEvent Int)) : SearchState Int :=
  (execute (SearchState.step .little shortExternal) listening events).getD listening

/-- Alice searches for anything, under her message id 1. -/
def callAlice (id : RequestId) : SearchEvent Int :=
  .call id (.searchAgents { constraints := [], model := none }) "alice" 1

/-- The successful answer to a request of hers. -/
def answerAlice (id : RequestId) : SearchEvent Int :=
  .frame (some id) (OefSearchClient.frame [0x10, 0x08, 0x1a, 0x02, 0x08, 0x01] [])

/-- The header of her requests has the id of the answer. -/
theorem honestService_answerAlice {id : RequestId} {request : SendRequest Int} {write : WriteState}
    {state : SearchState Int} (issued : state.issued id = some ⟨request, write⟩)
    (sent : write = .written ∨ ∃ ec, write = .handled ec ∧ ec.failed = false)
    (unanswered : ¬ state.Answered id) (echoes : request.header.id = 8) :
    HonestService .little shortExternal state (answerAlice id) := by
  intro origin bytes same
  cases same
  refine ⟨id, request, write, rfl, issued, sent, unanswered, fun answer message => ?_⟩
  have decoded : messageOf .little shortExternal (some id)
      (OefSearchClient.frame [0x10, 0x08, 0x1a, 0x02, 0x08, 0x01] []) =
        some ⟨some id, { uri := "", id := 8, success := true }, none⟩ := rfl
  rw [decoded] at message
  cases message
  exact echoes.symm

theorem honestService_of_other {state : SearchState Double}
    (notFrame : ∀ origin bytes, event ≠ .frame origin bytes) :
    HonestService host external state event :=
  fun origin bytes same => absurd same (notFrame origin bytes)

end SearchState

end OefCore
