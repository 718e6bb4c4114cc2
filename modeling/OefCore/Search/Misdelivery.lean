import OefCore.Search.Machine

/-! # Answers and keys

An answer finds its request by a key of 32 bits, computed from the name of an
agent and a message id of its choice. Nothing keeps the keys of requests in
flight apart: an agent may use an id twice, the shift drops the highest bit of
the id, and the hashes of names collide. The second request with a key has no
handle of its own, and its answer goes to the first one.

`OefCore.SearchState.run_undisturbed` says when no answer is misdelivered: when a
request is issued only under a key that is not in use.
-/

namespace OefCore

namespace SearchState

variable {Double : Type}

/-- A request waits for its completion handler or, after a successful write, for
its answer. -/
def InFlight (state : SearchState Double) (id : RequestId) (write : WriteState) : Prop :=
  (∀ ec, write ≠ .handled ec) ∨
    (∃ ec, write = .handled ec ∧ ec.failed = false) ∧ ¬ state.Answered id

/-- A key is in use by a request in flight or by a handle in the table. -/
def Occupied (state : SearchState Double) (key : UInt32) : Prop :=
  (∃ id request write, state.issued id = some ⟨request, write⟩ ∧ state.InFlight id write ∧
    request.key = key) ∨ state.client.handles.lookup key ≠ none

/-- A request is issued under a key that is not in use. -/
def FreeKey (external : External Double) (state : SearchState Double)
    (event : SearchEvent Double) : Prop :=
  ∀ id operation agent msgId, event = .call id operation agent msgId →
    ¬ state.Occupied (OefSearchClient.generateSmsgId external.hash agent msgId).toUInt32

/-- An invocation with a message is for the request the message was produced for,
decoded under its operation. -/
def WellAddressed (external : External Double) (state : SearchState Double)
    (invocation : Invocation Double) : Prop :=
  ∀ id answer, invocation.continuation = .request id → invocation.cause = some answer →
    answer.origin = some id ∧ ∃ request write, state.issued id = some ⟨request, write⟩ ∧
      invocation = invocationOf external request.handle answer

/-- Two requests in flight never share a key. -/
def KeysApart (state : SearchState Double) : Prop :=
  ∀ id other request request' write write',
    state.issued id = some ⟨request, write⟩ → state.issued other = some ⟨request', write'⟩ →
      state.InFlight id write → state.InFlight other write' → request.key = request'.key →
        id = other

/-- A request holds a key while it is in flight and while its handle is saved
there. -/
def Holds (state : SearchState Double) (id : RequestId) (key : UInt32) : Prop :=
  (∃ request write, state.issued id = some ⟨request, write⟩ ∧ state.InFlight id write ∧
    request.key = key) ∨
  ∃ handle, state.client.handles.lookup key = some handle ∧ state.HandleOf id key handle

/-- What holds when requests are issued under free keys. -/
structure Undisturbed (external : External Double) (state : SearchState Double) : Prop where
  sound : state.Sound
  single : ∀ id other key, state.Holds id key → state.Holds other key → id = other
  found : ∀ answer handle erased, state.processing = some ⟨answer, handle, erased⟩ →
    handle = .ofId answer.key ∨ ∃ id request write, answer.origin = some id ∧
      state.issued id = some ⟨request, write⟩ ∧ handle = request.handle
  invoked : ∀ invocation ∈ state.invoked, state.WellAddressed external invocation

variable {host : ByteOrder} {external : External Double} {state next : SearchState Double}
  {event : SearchEvent Double}

/-- A key that is held is in use. -/
theorem Holds.occupied {id : RequestId} {key : UInt32} (holds : state.Holds id key) :
    state.Occupied key := by
  rcases holds with ⟨request, write, flight⟩ | ⟨handle, saved, _⟩
  · exact Or.inl ⟨id, request, write, flight⟩
  · right
    rw [saved]
    exact Option.some_ne_none handle

/-- A request gets hold of a key only by its call. -/
theorem Holds.before (sound : state.Sound) (stepped : Stepped host external state event next)
    {id : RequestId} {key : UInt32} (holds : next.Holds id key) :
    state.Holds id key ∨ ∃ operation agent msgId, event = .call id operation agent msgId ∧
      key = (OefSearchClient.generateSmsgId external.hash agent msgId).toUInt32 := by
  rcases holds with ⟨request, write, issued, flight, rfl⟩ | ⟨handle, saved, belongs⟩
  · rcases stepped.issued_origin issued with
      ⟨earlier, issued'⟩ | ⟨_, _, operation, agent, msgId, rfl, rfl⟩
    · left
      left
      refine ⟨request, earlier, issued', ?_, rfl⟩
      cases earlier with
      | writing | written => exact Or.inl fun _ => WriteState.noConfusion
      | handled ec =>
          rw [stepped.handled_kept issued'] at issued
          cases issued
          rcases flight with unhandled | ⟨succeeded, unanswered⟩
          · exact absurd rfl (unhandled ec)
          · exact Or.inr ⟨succeeded, fun answered => unanswered (stepped.answered_kept answered)⟩
    · exact Or.inr ⟨operation, agent, msgId, rfl, OefSearchClient.call_key ..⟩
  · left
    rcases stepped.saved_origin saved with
      earlier | ⟨_, other, request, ec, _, written, _, _, rfl, rfl⟩
    · obtain ⟨other, owner⟩ := sound.saved key handle earlier
      exact Or.inr ⟨handle, earlier, owner.of_next sound stepped belongs⟩
    · have same : other = id :=
        sound.named written (belongs.continuation (sound.step stepped))
      subst same
      exact Or.inl ⟨request, _, written, Or.inl fun _ => WriteState.noConfusion, rfl⟩

/-- The request an honest answer is for still holds its key. -/
theorem HonestService.holds (sound : state.Sound) {id : RequestId} {bytes : Buffer}
    {answer : Answer} (honest : HonestService host external state (.frame (some id) bytes))
    (message : messageOf host external (some id) bytes = some answer) :
    state.Holds id answer.key := by
  obtain ⟨request, write, issued, sent, unanswered, key⟩ := honest.key sound message
  refine Or.inl ⟨request, write, issued, ?_, key.symm⟩
  rcases sent with rfl | succeeded
  · exact Or.inl fun _ => WriteState.noConfusion
  · exact Or.inr ⟨succeeded, unanswered⟩

theorem WellAddressed.kept (stepped : Stepped host external state event next)
    {invocation : Invocation Double} (addressed : state.WellAddressed external invocation) :
    next.WellAddressed external invocation := by
  intro id answer named caused
  obtain ⟨origin, request, write, issued, same⟩ := addressed id answer named caused
  obtain ⟨after, kept⟩ := stepped.issued_kept issued
  exact ⟨origin, request, after, kept, same⟩

/-- The handle that is found for an honest answer, if any, is that of its request. -/
theorem Undisturbed.looked_up (undisturbed : state.Undisturbed external) {id : RequestId}
    {bytes : Buffer} {answer : Answer}
    (honest : HonestService host external state (.frame (some id) bytes))
    (message : messageOf host external (some id) bytes = some answer) :
    state.client.msgHandleGet answer.key = .ofId answer.key ∨ ∃ request write,
      state.issued id = some ⟨request, write⟩ ∧
        state.client.msgHandleGet answer.key = request.handle := by
  unfold OefSearchClient.msgHandleGet
  cases saved : state.client.handles.lookup answer.key with
  | none => exact Or.inl rfl
  | some handle =>
      obtain ⟨owner, belongs⟩ := undisturbed.sound.saved _ _ saved
      have holds : state.Holds owner answer.key := Or.inr ⟨handle, saved, belongs⟩
      have same : owner = id :=
        undisturbed.single owner id answer.key holds (honest.holds undisturbed.sound message)
      subst same
      obtain ⟨request, ec, issued, _, _, same⟩ := belongs
      exact Or.inr ⟨request, _, issued, same.symm⟩

theorem Undisturbed.step (undisturbed : state.Undisturbed external)
    (honest : HonestService host external state event) (free : FreeKey external state event)
    (stepped : Stepped host external state event next) : next.Undisturbed external where
  sound := undisturbed.sound.step stepped
  single id other key holds holds' := by
    rcases holds.before undisturbed.sound stepped with
      before | ⟨operation, agent, msgId, called, rfl⟩
    · rcases holds'.before undisturbed.sound stepped with
        before' | ⟨operation, agent, msgId, called, rfl⟩
      · exact undisturbed.single id other key before before'
      · exact absurd before.occupied (free other operation agent msgId called)
    · rcases holds'.before undisturbed.sound stepped with before' | ⟨_, _, _, called', _⟩
      · exact absurd before'.occupied (free id operation agent msgId called)
      · rw [called] at called'
        cases called'
        rfl
  found answer handle erased processing := by
    have kept : ∀ earlier, state.processing = some ⟨answer, handle, earlier⟩ →
        handle = .ofId answer.key ∨ ∃ id request write, answer.origin = some id ∧
          next.issued id = some ⟨request, write⟩ ∧ handle = request.handle := by
      intro earlier processing
      rcases undisturbed.found answer handle earlier processing with
        missing | ⟨id, request, write, origin, issued, same⟩
      · exact Or.inl missing
      · obtain ⟨after, issued⟩ := stepped.issued_kept issued
        exact Or.inr ⟨id, request, after, origin, issued, same⟩
    cases stepped with
    | @received origin bytes answer idle _ message =>
        cases processing
        obtain ⟨id, _, _, rfl, _⟩ := honest origin bytes rfl
        rcases undisturbed.looked_up honest message with missing | ⟨request, write, issued, own⟩
        · exact Or.inl missing
        · exact Or.inr ⟨id, request, write, messageOf_origin message, issued, own⟩
    | erased found =>
        cases processing
        exact kept false found
    | invoked => cases processing
    | called | written | sendFailed | sendSucceeded | unread | dropped =>
        exact kept erased processing
  invoked invocation member := by
    rcases stepped.invoked_cases with unchanged | ⟨last, appended, cause⟩
    · exact (undisturbed.invoked invocation (unchanged ▸ member)).kept stepped
    rw [appended] at member
    rcases List.mem_append.mp member with earlier | now
    · exact (undisturbed.invoked invocation earlier).kept stepped
    rw [List.mem_singleton.mp now]
    intro id answer named caused
    rcases cause with ⟨_, _, _, _, _, _, _, _, _, rfl⟩ |
        ⟨message, handle, _, processing, _, _, rfl⟩
    · cases caused
    · cases caused
      change handle.continuation = _ at named
      rcases undisturbed.found answer handle true processing with
        rfl | ⟨owner, request, write, origin, issued, rfl⟩
      · cases named
      · have same : owner = id := undisturbed.sound.named issued named
        subst same
        obtain ⟨after, kept⟩ := stepped.issued_kept issued
        exact ⟨origin, request, after, kept, rfl⟩

theorem undisturbed_initial (client : OefSearchClient) (empty : client.handles = ∅) :
    (initial client : SearchState Double).Undisturbed external where
  sound := sound_initial client empty
  single id other key holds := by
    rcases holds with ⟨_, _, issued, _⟩ | ⟨_, saved, _⟩
    · cases issued
    · change client.handles.lookup key = _ at saved
      rw [empty, UnorderedMap.lookup_empty_eq_none] at saved
      cases saved
  found _ _ _ processing := nomatch processing
  invoked _ member := nomatch member

/-- **No answer is misdelivered** in a run with an honest service, if no request
is issued under a key that an earlier request still uses. -/
theorem run_undisturbed {client : OefSearchClient} (empty : client.handles = ∅)
    {events : List (SearchEvent Double)}
    (run : RunWithin (fun state event =>
        HonestService host external state event ∧ FreeKey external state event)
      (SearchState.step host external) (initial client) events state) :
    (∀ invocation ∈ state.invoked, state.WellAddressed external invocation) ∧ state.KeysApart := by
  have undisturbed : state.Undisturbed external :=
    run.invariant (Undisturbed external) (undisturbed_initial client empty)
      fun _ _ _ undisturbed conditions taken =>
        undisturbed.step conditions.1 conditions.2 (stepped_of_step taken)
  refine ⟨undisturbed.invoked, ?_⟩
  intro id other request request' write write' issued issued' flight flight' key
  exact undisturbed.single id other request.key (Or.inl ⟨request, write, issued, flight, rfl⟩)
    (Or.inl ⟨request', write', issued', flight', key.symm⟩)

/-! ### One key, used once and twice -/

/-- The first request of an agent, answered. -/
def answeredOnce : List (SearchEvent Int) :=
  [callAlice 0, .written 0, .sent 0 .success, answerAlice 0, .erase, .invoke]

/-- The agent uses its message id again, and the second request is answered
first. -/
def reusedId : List (SearchEvent Int) :=
  [callAlice 0, callAlice 1, .written 0, .written 1, .sent 0 .success, .sent 1 .success,
    answerAlice 1, .erase, .invoke]

theorem freeKey_of_other {state : SearchState Double}
    (notCall : ∀ id operation agent msgId, event ≠ .call id operation agent msgId) :
    FreeKey external state event :=
  fun id operation agent msgId same => absurd same (notCall id operation agent msgId)

theorem answeredOnce_conditions :
    AlongExecution (fun state event =>
        HonestService .little shortExternal state event ∧ FreeKey shortExternal state event)
      (SearchState.step .little shortExternal) listening answeredOnce := by
  have other : ∀ (state : SearchState Int) (event : SearchEvent Int),
      (∀ id operation agent msgId, event ≠ .call id operation agent msgId) →
        (∀ origin bytes, event ≠ .frame origin bytes) →
          HonestService .little shortExternal state event ∧ FreeKey shortExternal state event :=
    fun _ _ notCall notFrame => ⟨honestService_of_other notFrame, freeKey_of_other notCall⟩
  refine And.intro ⟨honestService_of_other nofun, ?_⟩ <| And.intro (other _ _ nofun nofun) <|
    And.intro (other _ _ nofun nofun) <| And.intro ⟨?_, freeKey_of_other nofun⟩ <|
      And.intro (other _ _ nofun nofun) <| And.intro (other _ _ nofun nofun) trivial
  · rintro id operation agent msgId _ (⟨_, _, _, issued, _⟩ | saved)
    · cases issued
    · exact saved rfl
  · exact honestService_answerAlice rfl (Or.inr ⟨_, rfl, rfl⟩) nofun rfl

/-- The only request in flight gets its own answer. -/
theorem run_undisturbed_alice :
    (∀ invocation ∈ (after answeredOnce).invoked,
      (after answeredOnce).WellAddressed shortExternal invocation) ∧
        (after answeredOnce).KeysApart := by
  have executed : execute (SearchState.step .little shortExternal) listening answeredOnce =
      some (after answeredOnce) := rfl
  exact run_undisturbed rfl (runWithin_of_execute executed answeredOnce_conditions)

theorem reusedId_conditions :
    AlongExecution (HonestService .little shortExternal) (SearchState.step .little shortExternal)
      listening reusedId := by
  refine And.intro (honestService_of_other nofun) <| And.intro (honestService_of_other nofun) <|
    And.intro (honestService_of_other nofun) <| And.intro (honestService_of_other nofun) <|
      And.intro (honestService_of_other nofun) <| And.intro (honestService_of_other nofun) <|
        And.intro ?_ <| And.intro (honestService_of_other nofun) <|
          And.intro (honestService_of_other nofun) trivial
  exact honestService_answerAlice rfl (Or.inr ⟨_, rfl, rfl⟩) nofun rfl

/-- **The answer to the second request with a key goes to the first one**: the
service is honest, and the continuation of request 0 is invoked with the answer
that was produced for request 1. -/
theorem reusedId_misdelivered :
    RunWithin (HonestService .little shortExternal) (SearchState.step .little shortExternal)
        listening reusedId (after reusedId) ∧
      (∃ invocation ∈ (after reusedId).invoked, invocation.continuation = .request 0 ∧
        ∃ answer, invocation.cause = some answer ∧ answer.origin = some 1) ∧
      ¬ ∀ invocation ∈ (after reusedId).invoked,
        (after reusedId).WellAddressed shortExternal invocation := by
  refine ⟨runWithin_of_execute rfl reusedId_conditions,
    ⟨_, List.mem_singleton_self _, rfl, _, rfl, rfl⟩, fun addressed => ?_⟩
  obtain ⟨origin, _⟩ := addressed _ (List.mem_singleton_self _) 0 _ rfl rfl
  cases origin

end SearchState

end OefCore
