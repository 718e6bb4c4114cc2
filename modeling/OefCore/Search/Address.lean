import OefCore.Search.Machine

/-! # The address of the core

The Update messages are where the search service learns the network address of the
core. The client adds the address to the first Update it builds and takes its flag
back at once, before anything is sent; no error path sets it again.

So, as long as calls do not overlap, at most one Update carries the address, and it is
the one that was requested first. `OefCore.SearchState.run_addressFirst_iff` says exactly
in which runs it is also the first one to be sent: in those where no other Update is sent
before it, in particular not because its own send failed.
-/

namespace OefCore

variable {Double : Type}

/-- The Update a payload is, if it is one. -/
def SearchPayload.update? : SearchPayload Double → Option (Update Double)
  | .update message => some message
  | .remove _ => none
  | .search _ => none

/-- The operations that send an Update. -/
def SearchCall.isUpdate : SearchCall Double → Bool
  | .registerDescription _ => true
  | .unregisterDescription _ => false
  | .registerService _ => true
  | .unregisterService _ => false
  | .searchAgents _ => false
  | .searchService _ => false
  | .searchServiceWide _ => false

/-- An Update carries an address. -/
def Update.carries (update : Update Double) (ip : String) (port : UInt32) (key : String) : Bool :=
  update.attributes.any fun a =>
    a.address.ip == ip && a.address.port == port && a.address.key == key

namespace SearchState

/-- The requests for an Update, in the order of the calls. -/
def updateCalls (events : List (SearchEvent Double)) : List RequestId :=
  events.filterMap fun
    | .call id operation _ _ => if operation.isUpdate then some id else none
    | _ => none

/-- The requests that were sent successfully, in the order in which their last bytes
were written. -/
def sentRequests (events : List (SearchEvent Double)) : List RequestId :=
  events.filterMap fun
    | .written id => some id
    | _ => none

/-- The Update of a request. -/
def updateOf (state : SearchState Double) (id : RequestId) : Option (Update Double) :=
  (state.issued id).bind fun issued => issued.request.payload.update?

/-- The Updates that were sent successfully, in their order. -/
def sentUpdates (events : List (SearchEvent Double)) (state : SearchState Double) :
    List (Update Double) :=
  (sentRequests events).filterMap state.updateOf

/-- The first of some Updates carries the address, and at most one of them does. -/
def AddressFirst (ip : String) (port : UInt32) (key : String) (updates : List (Update Double)) :
    Prop :=
  (∀ update ∈ updates.head?, update.carries ip port key = true) ∧
    updates.countP (fun update => update.carries ip port key) ≤ 1

/-- The first Update to be sent is the one that was requested first. -/
def FirstRequestedFirst (events : List (SearchEvent Double)) : Prop :=
  ∀ id ∈ ((sentRequests events).filter fun id => (updateCalls events).contains id).head?,
    (updateCalls events).head? = some id

/-- Where the address is after some events: with the client while no Update was
requested, then in the Update that was requested first. -/
structure Addressed (ip : String) (port : UInt32) (key : String)
    (events : List (SearchEvent Double)) (state : SearchState Double) : Prop where
  sameIp : state.client.coreIpAddr = ip
  samePort : state.client.corePort = port
  sameKey : state.client.coreId = key
  pending : state.client.updatedAddress = true ↔ updateCalls events = []
  called : ∀ id, state.updateOf id ≠ none ↔ id ∈ updateCalls events
  carries : ∀ id update, state.updateOf id = some update →
    (update.carries ip port key = true ↔ (updateCalls events).head? = some id)
  written : ∀ id ∈ sentRequests events, ∃ request write,
    state.issued id = some ⟨request, write⟩ ∧ write ≠ .writing
  once : (sentRequests events).Nodup

/-- The address and the Updates stay where they are. -/
structure AddressKept (state next : SearchState Double) : Prop where
  ip : next.client.coreIpAddr = state.client.coreIpAddr
  port : next.client.corePort = state.client.corePort
  key : next.client.coreId = state.client.coreId
  flag : next.client.updatedAddress = state.client.updatedAddress
  updates : next.updateOf = state.updateOf

end SearchState

namespace OefSearchClient

variable (hash : String → UInt64) (self : OefSearchClient) (agent : String) (msgId : UInt32)
  (continuation : AgentSessionContinuation) (operation : SearchCall Double)

/-- An operation that sends no Update leaves the client as it is. -/
theorem call_of_not_update (noUpdate : operation.isUpdate = false) :
    (call hash self agent msgId continuation operation).1 = self ∧
      (call hash self agent msgId continuation operation).2.payload.update? = none := by
  cases operation with
  | registerDescription | registerService => cases noUpdate
  | unregisterDescription | unregisterService | searchAgents | searchService
    | searchServiceWide => exact ⟨rfl, rfl⟩

/-- The Update of a service takes the flag back, and carries the address if it was
set. -/
theorem registerService_address (service : Instance Double) :
    (registerService hash self agent msgId continuation service).1 =
        { self with updatedAddress := false } ∧
      ∃ update, (registerService hash self agent msgId continuation service).2.payload.update? =
        some update ∧
          update.carries self.coreIpAddr self.corePort self.coreId = self.updatedAddress := by
  obtain ⟨coreIpAddr, corePort, coreId, updatedAddress, handles⟩ := self
  cases updatedAddress with
  | false => exact ⟨rfl, _, rfl, rfl⟩
  | true =>
      refine ⟨rfl, _, rfl, ?_⟩
      simp [Update.carries]

/-- An operation that sends an Update takes the flag back, and adds the address if it
was set. -/
theorem call_of_update (isUpdate : operation.isUpdate = true) :
    (call hash self agent msgId continuation operation).1 =
        { self with updatedAddress := false } ∧
      ∃ update, (call hash self agent msgId continuation operation).2.payload.update? =
        some update ∧
          update.carries self.coreIpAddr self.corePort self.coreId = self.updatedAddress := by
  cases operation with
  | registerDescription desc | registerService desc =>
      exact registerService_address hash self agent msgId continuation desc
  | unregisterDescription | unregisterService | searchAgents | searchService
    | searchServiceWide => cases isUpdate

end OefSearchClient

namespace SearchState

variable {host : ByteOrder} {external : External Double} {ip : String} {port : UInt32}
  {key : String} {events : List (SearchEvent Double)} {state next : SearchState Double}
  {event : SearchEvent Double}

/-- The Update of a request does not depend on how far its write is. -/
theorem updateOf_of_issued {id : RequestId} {request : SendRequest Double} {write : WriteState}
    (found : state.issued id = some ⟨request, write⟩) :
    state.updateOf id = request.payload.update? := by
  rw [updateOf, found, Option.bind_some]

/-- A request that was issued keeps its Update. -/
theorem Stepped.updateOf_kept (stepped : Stepped host external state event next) {id : RequestId}
    (issued : state.issued id ≠ none) : next.updateOf id = state.updateOf id := by
  obtain ⟨⟨request, write⟩, found⟩ := Option.ne_none_iff_exists'.mp issued
  obtain ⟨after, kept⟩ := stepped.issued_kept found
  rw [updateOf_of_issued found, updateOf_of_issued kept]

/-- A step other than a call leaves the address and the Updates where they are. -/
theorem Stepped.address_kept (stepped : Stepped host external state event next)
    (noCall : ∀ id operation agent msgId, event ≠ .call id operation agent msgId) :
    AddressKept state next := by
  have sameUpdates : next.updateOf = state.updateOf := by
    funext id
    cases found : state.issued id with
    | some issued => exact stepped.updateOf_kept (found ▸ Option.some_ne_none issued)
    | none =>
        cases later : next.issued id with
        | none => rw [updateOf, updateOf, found, later]
        | some issued =>
            rcases stepped.issued_origin later with ⟨before, earlier⟩ | ⟨_, _, call⟩
            · rw [found] at earlier
              cases earlier
            · obtain ⟨operation, agent, msgId, called, _⟩ := call
              exact absurd called (noCall id operation agent msgId)
  cases stepped with
  | called fresh => exact absurd rfl (noCall _ _ _ _)
  | sendSucceeded found succeeded =>
      refine ⟨?_, ?_, ?_, ?_, sameUpdates⟩ <;>
        simp only [OefSearchClient.scheduleRcvCallback, OefSearchClient.msgHandleSave] <;>
        split <;> rfl
  | written | sendFailed | unread | dropped | received | erased | invoked =>
      exact ⟨rfl, rfl, rfl, rfl, sameUpdates⟩

/-- Issuing a request adds its Update, if it has one. -/
theorem updateOf_update {id : RequestId} {issued : Issued Double}
    (update : next.issued = Function.update state.issued id (some issued)) :
    next.updateOf = Function.update state.updateOf id issued.request.payload.update? := by
  funext other
  by_cases same : other = id
  · subst same
    rw [updateOf, update, Function.update_self, Function.update_self, Option.bind_some]
  · rw [updateOf, update, Function.update_of_ne same, Function.update_of_ne same, updateOf]

/-- What a call for an Update does: it adds an Update, which carries the address if
the flag was set, and takes the flag back. -/
theorem Stepped.address_call {id : RequestId} {operation : SearchCall Double} {agent : String}
    {msgId : UInt32} (stepped : Stepped host external state (.call id operation agent msgId) next)
    (isUpdate : operation.isUpdate = true) :
    state.updateOf id = none ∧ next.client = { state.client with updatedAddress := false } ∧
      ∃ update, next.updateOf = Function.update state.updateOf id (some update) ∧
        update.carries state.client.coreIpAddr state.client.corePort state.client.coreId =
          state.client.updatedAddress := by
  cases stepped with
  | called fresh =>
      obtain ⟨client, update, built, carried⟩ := OefSearchClient.call_of_update external.hash
        state.client agent msgId (.request id) operation isUpdate
      refine ⟨by rw [updateOf, fresh, Option.bind_none], client, update, ?_, carried⟩
      rw [updateOf_update rfl, built]

/-- A call of another operation adds no Update and leaves the flag. -/
theorem Stepped.address_otherCall {id : RequestId} {operation : SearchCall Double}
    {agent : String} {msgId : UInt32}
    (stepped : Stepped host external state (.call id operation agent msgId) next)
    (noUpdate : operation.isUpdate = false) :
    AddressKept state next := by
  cases stepped with
  | called fresh =>
      obtain ⟨client, built⟩ := OefSearchClient.call_of_not_update external.hash
        state.client agent msgId (.request id) operation noUpdate
      refine ⟨by rw [client], by rw [client], by rw [client], by rw [client], ?_⟩
      rw [updateOf_update rfl, built, Function.update_eq_self_iff, updateOf, fresh,
        Option.bind_none]

/-- Appending a call appends its request, if it is one for an Update. -/
theorem updateCalls_call (id : RequestId) (operation : SearchCall Double) (agent : String)
    (msgId : UInt32) :
    updateCalls (events ++ [.call id operation agent msgId]) =
      updateCalls events ++ if operation.isUpdate then [id] else [] := by
  rw [updateCalls, List.filterMap_append]
  cases isUpdate : operation.isUpdate <;> simp [isUpdate, updateCalls]

theorem updateCalls_other
    (noCall : ∀ id operation agent msgId, event ≠ .call id operation agent msgId) :
    updateCalls (events ++ [event]) = updateCalls events := by
  rw [updateCalls, List.filterMap_append, ← updateCalls]
  cases event with
  | call id operation agent msgId => exact absurd rfl (noCall id operation agent msgId)
  | written | sent | frame | erase | invoke => exact List.append_nil _

theorem sentRequests_written (id : RequestId) :
    sentRequests (events ++ [.written id]) = sentRequests events ++ [id] := by
  rw [sentRequests, List.filterMap_append, ← sentRequests]
  rfl

theorem sentRequests_other (notWritten : ∀ id, event ≠ .written id) :
    sentRequests (events ++ [event]) = sentRequests events := by
  rw [sentRequests, List.filterMap_append, ← sentRequests]
  cases event with
  | written id => exact absurd rfl (notWritten id)
  | call | sent | frame | erase | invoke => exact List.append_nil _

/-- A request whose bytes were written is not written again. -/
theorem Stepped.written_kept (stepped : Stepped host external state event next) {id : RequestId}
    {request : SendRequest Double} {write : WriteState}
    (found : state.issued id = some ⟨request, write⟩) (done : write ≠ .writing) :
    ∃ after, next.issued id = some ⟨request, after⟩ ∧ after ≠ .writing := by
  cases stepped with
  | @called other operation agent msgId fresh =>
      have different : id ≠ other := by
        rintro rfl
        rw [fresh] at found
        cases found
      exact ⟨write, by dsimp only; rw [Function.update_of_ne different, found], done⟩
  | @written other changed writing | @sendFailed other changed _ writing =>
      have different : id ≠ other := by
        rintro rfl
        rw [writing] at found
        cases found
        exact done rfl
      exact ⟨write, by dsimp only; rw [Function.update_of_ne different, found], done⟩
  | @sendSucceeded other changed ec written =>
      by_cases same : id = other
      · subst same
        rw [written] at found
        cases found
        exact ⟨.handled ec, Function.update_self .., WriteState.noConfusion⟩
      · exact ⟨write, by dsimp only; rw [Function.update_of_ne same, found], done⟩
  | unread | dropped | received | erased | invoked => exact ⟨write, found, done⟩

/-- A step that requests no Update keeps track of the address. -/
theorem Addressed.of_kept (before : Addressed ip port key events state)
    (kept : AddressKept state next)
    (calls : updateCalls (events ++ [event]) = updateCalls events)
    (sent : ∀ id ∈ sentRequests (events ++ [event]), ∃ request write,
      next.issued id = some ⟨request, write⟩ ∧ write ≠ .writing)
    (once : (sentRequests (events ++ [event])).Nodup) :
    Addressed ip port key (events ++ [event]) next where
  sameIp := kept.ip.trans before.sameIp
  samePort := kept.port.trans before.samePort
  sameKey := kept.key.trans before.sameKey
  pending := by rw [kept.flag, calls, before.pending]
  called := by rw [kept.updates, calls]; exact before.called
  carries := by rw [kept.updates, calls]; exact before.carries
  written := sent
  once := once

/-- A step that requests no Update and writes no request to its end. -/
theorem Addressed.of_unwritten (before : Addressed ip port key events state)
    (kept : AddressKept state next)
    (calls : updateCalls (events ++ [event]) = updateCalls events)
    (unwritten : ∀ id, event ≠ .written id)
    (sent : ∀ id ∈ sentRequests events, ∃ request write,
      next.issued id = some ⟨request, write⟩ ∧ write ≠ .writing) :
    Addressed ip port key (events ++ [event]) next := by
  apply before.of_kept kept calls
  · rw [sentRequests_other unwritten]
    exact sent
  · rw [sentRequests_other unwritten]
    exact before.once

/-- Where the address is after a call for an Update. -/
theorem Addressed.of_call (before : Addressed ip port key events state) {id : RequestId}
    {operation : SearchCall Double} {agent : String} {msgId : UInt32}
    (stepped : Stepped host external state (.call id operation agent msgId) next)
    (isUpdate : operation.isUpdate = true)
    (sent : ∀ id ∈ sentRequests events, ∃ request write,
      next.issued id = some ⟨request, write⟩ ∧ write ≠ .writing) :
    Addressed ip port key (events ++ [.call id operation agent msgId]) next := by
  have calls : updateCalls (events ++ [.call id operation agent msgId]) =
      updateCalls events ++ [id] := by
    rw [updateCalls_call, if_pos isUpdate]
  have sentBefore : sentRequests (events ++ [.call id operation agent msgId]) =
      sentRequests events := sentRequests_other fun _ => nofun
  have firstCall : ∀ other, (updateCalls events ++ [id]).head? = some other ↔
      (updateCalls events).head? = some other ∨ updateCalls events = [] ∧ id = other := by
    intro other
    cases updateCalls events with
    | nil => simp
    | cons first rest => simp
  obtain ⟨fresh, client, update, updates, carried⟩ := stepped.address_call isUpdate
  rw [before.sameIp, before.samePort, before.sameKey] at carried
  have notCalled : id ∉ updateCalls events := by
    rw [← before.called, fresh, ne_eq, not_not]
  refine ⟨?_, ?_, ?_, ?_, fun other => ?_, fun other found present => ?_, sentBefore ▸ sent,
    sentBefore ▸ before.once⟩
  · rw [client]
    exact before.sameIp
  · rw [client]
    exact before.samePort
  · rw [client]
    exact before.sameKey
  · rw [client, calls]
    simp
  · rw [calls, List.mem_append, List.mem_singleton, ← before.called, updates]
    by_cases same : other = id
    · subst same
      rw [Function.update_self]
      exact iff_of_true (Option.some_ne_none update) (Or.inr rfl)
    · rw [Function.update_of_ne same, or_iff_left same]
  · rw [calls, firstCall]
    rw [updates] at present
    by_cases same : other = id
    · -- The new Update: it carries the address exactly when no Update was requested before.
      subst same
      rw [Function.update_self] at present
      cases present
      have notFirst : (updateCalls events).head? ≠ some other :=
        fun first => notCalled (List.mem_of_mem_head? first)
      rw [carried, before.pending, or_iff_right notFirst, and_iff_left rfl]
    · rw [Function.update_of_ne same] at present
      have earlier : updateCalls events ≠ [] := by
        apply List.ne_nil_of_mem
        rw [← before.called other, present]
        exact Option.some_ne_none found
      rw [before.carries other found present, or_iff_left fun later => earlier later.1]

/-- One step keeps track of the address. -/
theorem Addressed.step (before : Addressed ip port key events state)
    (stepped : Stepped host external state event next) :
    Addressed ip port key (events ++ [event]) next := by
  have sent : ∀ id ∈ sentRequests events, ∃ request write,
      next.issued id = some ⟨request, write⟩ ∧ write ≠ .writing := by
    intro id inside
    obtain ⟨request, write, found, done⟩ := before.written id inside
    obtain ⟨after, kept, done⟩ := stepped.written_kept found done
    exact ⟨request, after, kept, done⟩
  cases event with
  | call id operation agent msgId =>
      cases isUpdate : operation.isUpdate with
      | true => exact before.of_call stepped isUpdate sent
      | false =>
          have calls : updateCalls (events ++ [.call id operation agent msgId]) =
              updateCalls events := by
            rw [updateCalls_call, isUpdate]
            exact List.append_nil _
          exact before.of_unwritten (stepped.address_otherCall isUpdate) calls (fun _ => nofun)
            sent
  | written id =>
      have noCall : ∀ other operation agent msgId,
          (.written id : SearchEvent Double) ≠ .call other operation agent msgId :=
        fun _ _ _ _ => nofun
      apply before.of_kept (stepped.address_kept noCall) (updateCalls_other noCall)
      · intro other inside
        rw [sentRequests_written, List.mem_append, List.mem_singleton] at inside
        rcases inside with earlier | rfl
        · exact sent other earlier
        · cases stepped with
          | written => exact ⟨_, .written, Function.update_self .., WriteState.noConfusion⟩
      · rw [sentRequests_written, List.nodup_append]
        refine ⟨before.once, List.nodup_singleton id, fun other inside again here same => ?_⟩
        rw [List.mem_singleton] at here
        subst same here
        obtain ⟨request, write, found, done⟩ := before.written _ inside
        cases stepped with
        | written writing =>
            rw [writing] at found
            cases found
            exact done rfl
  | sent | frame | erase | invoke =>
      apply before.of_unwritten (stepped.address_kept fun _ _ _ _ => nofun)
      · exact updateCalls_other fun _ _ _ _ => nofun
      · exact fun _ => nofun
      · exact sent

theorem addressed_initial :
    Addressed ip port key [] (initial (.make key ip port) : SearchState Double) where
  sameIp := rfl
  samePort := rfl
  sameKey := rfl
  pending := iff_of_true rfl rfl
  called _ := iff_of_false (fun issued => issued rfl) List.not_mem_nil
  carries _ _ found := by cases found
  written _ inside := (List.not_mem_nil inside).elim
  once := List.nodup_nil

/-- Where the address is along every run. -/
theorem run_addressed (run : Run (step host external) (initial (.make key ip port)) events state) :
    Addressed ip port key events state :=
  run.traceInvariant (Addressed ip port key) addressed_initial
    fun _ _ _ _ _ before _ taken => before.step (stepped_of_step taken)

/-- The first Update of some requests is that of the first one that was called for. -/
theorem Addressed.head_filterMap (addressed : Addressed ip port key events state)
    (ids : List RequestId) :
    (ids.filterMap state.updateOf).head? =
      (ids.filter fun id => (updateCalls events).contains id).head?.bind state.updateOf := by
  induction ids with
  | nil => rfl
  | cons id rest ih =>
      have called := addressed.called id
      cases found : state.updateOf id with
      | none =>
          have skipped : (updateCalls events).contains id = false := by
            rw [List.contains_eq_mem, decide_eq_false_iff_not, ← called, found]
            exact fun absent => absent rfl
          rw [List.filterMap_cons_none found,
            List.filter_cons_of_neg (skipped ▸ Bool.false_ne_true), ih]
      | some update =>
          have counted : (updateCalls events).contains id = true := by
            rw [List.contains_eq_mem, decide_eq_true_iff, ← called, found]
            exact Option.some_ne_none update
          rw [List.filterMap_cons_some found, List.filter_cons_of_pos counted, List.head?_cons,
            List.head?_cons, Option.bind_some, found]

/-- At most one of the Updates that were sent carries the address. -/
theorem Addressed.countP_le_one (addressed : Addressed ip port key events state) :
    (sentUpdates events state).countP (fun update => update.carries ip port key) ≤ 1 := by
  rw [sentUpdates, List.countP_filterMap]
  cases first : (updateCalls events).head? with
  | none =>
      have nothing : ∀ id, state.updateOf id = none := by
        intro id
        by_contra found
        have called := (addressed.called id).mp found
        rw [List.head?_eq_none_iff.mp first] at called
        exact List.not_mem_nil called
      simp [nothing]
  | some head =>
      have onlyHead : ∀ id ∈ sentRequests events,
          ((state.updateOf id).map fun update => update.carries ip port key).getD false = true →
            (id == head) = true := by
        intro id _ carried
        cases found : state.updateOf id with
        | none => simp [found] at carried
        | some update =>
            rw [found, Option.map_some, Option.getD_some, addressed.carries id update found,
              first] at carried
            exact beq_iff_eq.mpr (Option.some.inj carried).symm
      have atHead : (sentRequests events).countP (fun id => id == head) ≤ 1 :=
        List.nodup_iff_count_le_one.mp addressed.once head
      exact le_trans (List.countP_mono_left onlyHead) atHead

/-- **The address of the core comes first** in a run, and at most once, exactly when
no Update is sent before the one that was requested first. -/
theorem run_addressFirst_iff
    (run : Run (step host external) (initial (.make key ip port)) events state) :
    AddressFirst ip port key (sentUpdates events state) ↔ FirstRequestedFirst events := by
  have addressed := run_addressed run
  rw [AddressFirst, and_iff_left addressed.countP_le_one, FirstRequestedFirst, sentUpdates,
    addressed.head_filterMap]
  cases first : ((sentRequests events).filter fun id =>
      (updateCalls events).contains id).head? with
  | none => exact iff_of_true nofun nofun
  | some id =>
      have called : id ∈ updateCalls events := by
        have kept := List.mem_filter.mp (List.mem_of_mem_head? first)
        rw [List.contains_eq_mem, decide_eq_true_iff] at kept
        exact kept.2
      obtain ⟨update, found⟩ := Option.ne_none_iff_exists'.mp ((addressed.called id).mpr called)
      simp only [Option.bind_some, found, Option.mem_def, Option.some.injEq, forall_eq']
      exact addressed.carries id update found

/-! ### A failed first send -/

/-- A registration of some agent. -/
def someone : Instance Int :=
  Instance.ofMessage { model := { name := "Person", attributes := [] }, values := [] }

/-- Two registrations, of which both are sent. -/
def bothSent : List (SearchEvent Int) :=
  [.call 1 (.registerService someone) "alice" 1, .call 2 (.registerService someone) "bob" 1,
    .written 1, .sent 1 .success, .written 2, .sent 2 .success]

theorem run_addressFirst_iff_bothSent :
    Run (step .little shortExternal) listening bothSent (after bothSent) ∧
      (AddressFirst "127.0.0.1" 3333 "oef-core-pluto" (sentUpdates bothSent (after bothSent)) ↔
        FirstRequestedFirst bothSent) := by
  have run : Run (step .little shortExternal) listening bothSent (after bothSent) :=
    run_of_execute rfl
  exact ⟨run, run_addressFirst_iff run⟩

/-- Two registrations, of which the first one cannot be sent. -/
def firstFailed : List (SearchEvent Int) :=
  [.call 1 (.registerService someone) "alice" 1, .sent 1 ⟨32⟩,
    .call 2 (.registerService someone) "bob" 1, .written 2, .sent 2 .success]

/-- The Update that is sent carries no address, and neither will any later one. -/
theorem firstFailed_withoutAddress :
    Run (step .little shortExternal) listening firstFailed (after firstFailed) ∧
      (sentUpdates firstFailed (after firstFailed)).length = 1 ∧
      (after firstFailed).client.updatedAddress = false ∧
      ¬ AddressFirst "127.0.0.1" 3333 "oef-core-pluto"
        (sentUpdates firstFailed (after firstFailed)) := by
  refine ⟨run_of_execute rfl, rfl, rfl, fun addressFirst => ?_⟩
  have carried := addressFirst.1 _ rfl
  exact absurd carried (by decide)

end SearchState

end OefCore
