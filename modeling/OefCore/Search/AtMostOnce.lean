import OefCore.Search.Machine

/-! # Continuations are invoked at most once

Whatever the agents ask for, whatever the results of the writes are and whatever
arrives on the search connection, no request has its continuation invoked twice
(`OefCore.SearchState.run_fired_le_one`). This also holds when the keys of
requests collide and when a handle is saved between the lookup and the erasure of
another one under the same key.

A continuation that can still be invoked is in one place: with the completion
handler of its write, in the table, or with the message being processed. The
invariant `OefCore.SearchState.Once` says so.
-/

namespace OefCore

namespace SearchState

variable {Double : Type}

/-- How often the continuation of a request was invoked. -/
def fired (state : SearchState Double) (id : RequestId) : Nat :=
  state.invoked.countP fun invocation => invocation.continuation == .request id

/-- A request whose continuation was invoked is done with: its write was handled,
its handle is neither in the table nor with the message being processed. After an
erasure, the handle found for that message is not in the table either. -/
structure Once (state : SearchState Double) : Prop where
  most : ∀ id, state.fired id ≤ 1
  handled : ∀ id, state.fired id ≠ 0 → ∃ request ec, state.issued id = some ⟨request, .handled ec⟩
  saved : ∀ id key handle, state.client.handles.lookup key = some handle →
    state.HandleOf id key handle → state.fired id = 0
  found : ∀ id answer handle erased, state.processing = some ⟨answer, handle, erased⟩ →
    state.HandleOf id answer.key handle → state.fired id = 0
  erased : ∀ answer handle, state.processing = some ⟨answer, handle, true⟩ →
    state.client.handles.lookup answer.key ≠ some handle

variable {host : ByteOrder} {external : External Double}
  {state next : SearchState Double} {event : SearchEvent Double}

theorem fired_of_invoked (id : RequestId) (same : next.invoked = state.invoked) :
    next.fired id = state.fired id := by
  rw [fired, same, fired]

theorem fired_append {id : RequestId} {invocation : Invocation Double}
    (appended : next.invoked = state.invoked ++ [invocation]) :
    next.fired id = state.fired id +
      if invocation.continuation = .request id then 1 else 0 := by
  rw [fired, appended, List.countP_append, List.countP_singleton, fired]
  simp only [beq_iff_eq]

theorem fired_of_mem {id : RequestId} {invocation : Invocation Double}
    (member : invocation ∈ state.invoked) (named : invocation.continuation = .request id) :
    state.fired id ≠ 0 :=
  Nat.pos_iff_ne_zero.mp (List.countP_pos_iff.mpr ⟨invocation, member, beq_iff_eq.mpr named⟩)

/-- Nothing was invoked for a request whose completion handler did not run. -/
theorem Once.unfired (once : state.Once) {id : RequestId} {request : SendRequest Double}
    {write : WriteState} (found : state.issued id = some ⟨request, write⟩)
    (unhandled : ∀ ec, write ≠ .handled ec) : state.fired id = 0 := by
  by_contra fired
  obtain ⟨_, ec, handled⟩ := once.handled id fired
  rw [found] at handled
  cases handled
  exact unhandled ec rfl

/-- A step that invokes a continuation does it for the first time, and takes it
from the completion handler or from the message being processed. -/
theorem Once.fired_step (once : state.Once) (sound : state.Sound)
    (stepped : Stepped host external state event next) (id : RequestId) :
    next.fired id = state.fired id ∨ state.fired id = 0 ∧ next.fired id = 1 ∧
      ((∃ request ec, next.issued id = some ⟨request, .handled ec⟩ ∧ ec.failed = true ∧
          next.processing = state.processing ∧ state.issued id = some ⟨request, .writing⟩) ∨
        ∃ answer handle, state.processing = some ⟨answer, handle, true⟩ ∧
          next.processing = none ∧ next.client = state.client ∧
            state.HandleOf id answer.key handle) := by
  rcases stepped.invoked_cases with unchanged | ⟨invocation, appended, cause⟩
  · exact Or.inl (fired_of_invoked id unchanged)
  have count : next.fired id = state.fired id +
      if invocation.continuation = .request id then 1 else 0 := fired_append appended
  by_cases here : invocation.continuation = .request id
  case neg =>
    rw [if_neg here] at count
    exact Or.inl count
  rw [if_pos here] at count
  right
  rcases cause with ⟨other, request, ec, _, writing, handled, failed, _, processing, rfl⟩ |
      ⟨answer, handle, _, found, done, client, rfl⟩
  · have same : other = id := sound.named writing here
    subst same
    have unfired := once.unfired writing fun _ => WriteState.noConfusion
    exact ⟨unfired, by rw [count, unfired],
      Or.inl ⟨request, ec, handled, failed, processing, writing⟩⟩
  · rcases sound.found answer handle true found with missing | ⟨other, belongs⟩
    · rw [missing] at here
      cases here
    · have same : other = id := belongs.named sound here
      subst same
      have unfired := once.found other answer handle true found belongs
      exact ⟨unfired, by rw [count, unfired],
        Or.inr ⟨answer, handle, found, done, client, belongs⟩⟩

/-- A request with a handle is past the completion handler of its write. -/
theorem HandleOf.handled {id : RequestId} {key : UInt32} {handle : MsgHandle}
    {request : SendRequest Double} {write : WriteState} (belongs : state.HandleOf id key handle)
    (issued : state.issued id = some ⟨request, write⟩) : ∃ ec, write = .handled ec := by
  obtain ⟨_, ec, handled, _⟩ := belongs
  rw [issued] at handled
  cases handled
  exact ⟨ec, rfl⟩

/-- A continuation is not invoked by a step that neither fails its write nor ends the
processing of a message for it. -/
theorem Once.still_unfired (once : state.Once) (sound : state.Sound)
    (stepped : Stepped host external state event next) {id : RequestId}
    (unfired : state.fired id = 0)
    (notWriting : ∀ request, state.issued id ≠ some ⟨request, .writing⟩)
    (notProcessed : ∀ answer handle, state.processing = some ⟨answer, handle, true⟩ →
      next.processing = none → ¬ state.HandleOf id answer.key handle) : next.fired id = 0 := by
  rcases once.fired_step sound stepped id with same | ⟨_, _, cause⟩
  · rw [same, unfired]
  · exfalso
    rcases cause with ⟨request, _, _, _, _, writing⟩ | ⟨answer, handle, found, done, _, belongs⟩
    · exact notWriting request writing
    · exact notProcessed answer handle found done belongs

/-- A handle that is saved after a step belongs to a request that was not invoked. -/
theorem Once.saved_unfired (once : state.Once) (sound : state.Sound)
    (stepped : Stepped host external state event next) {id : RequestId} {key : UInt32}
    {handle : MsgHandle} (saved : next.client.handles.lookup key = some handle)
    (belongs : next.HandleOf id key handle) : next.fired id = 0 := by
  rcases stepped.saved_origin saved with
    earlier | ⟨_, other, request, ec, sent, written, found, succeeded, rfl, rfl⟩
  · obtain ⟨other, owner⟩ := sound.saved key handle earlier
    have before : state.HandleOf id key handle := owner.of_next sound stepped belongs
    have unfired := once.saved id key handle earlier before
    refine once.still_unfired sound stepped unfired (fun request writing => ?_)
      fun answer other processing _ found => ?_
    · obtain ⟨_, wrong⟩ := before.handled writing
      cases wrong
    · obtain ⟨rfl, rfl⟩ := before.unique found
      exact once.erased _ _ processing earlier
  · have same : other = id :=
      sound.named written (belongs.continuation (sound.step stepped))
    subst same
    have unfired := once.unfired written fun _ => WriteState.noConfusion
    refine once.still_unfired sound stepped unfired (fun request writing => ?_)
      fun answer handle _ _ found => ?_
    · rw [written] at writing
      cases writing
    · obtain ⟨_, wrong⟩ := found.handled written
      cases wrong

/-- A handle that is with a message after a step belongs to a request that was not
invoked. -/
theorem Once.found_unfired (once : state.Once) (sound : state.Sound)
    (stepped : Stepped host external state event next) {id : RequestId} {answer : Answer}
    {handle : MsgHandle} {erased : Bool}
    (processing : next.processing = some ⟨answer, handle, erased⟩)
    (belongs : next.HandleOf id answer.key handle) : next.fired id = 0 := by
  have named := belongs.continuation (sound.step stepped)
  have kept : ∀ before, state.processing = some ⟨answer, handle, before⟩ →
      state.HandleOf id answer.key handle ∧ state.fired id = 0 := by
    intro before earlier
    rcases sound.found answer handle before earlier with rfl | ⟨other, owner⟩
    · cases named
    · have owned := owner.of_next sound stepped belongs
      exact ⟨owned, once.found id answer handle before earlier owned⟩
  have before : state.HandleOf id answer.key handle ∧ state.fired id = 0 := by
    rcases stepped.processing_origin processing with earlier | ⟨earlier, _⟩ | ⟨_, _, _, looked⟩
    · exact kept erased earlier
    · exact kept false earlier
    · unfold OefSearchClient.msgHandleGet at looked
      split at looked
      · rename_i found saved
        subst looked
        obtain ⟨other, owner⟩ := sound.saved _ _ saved
        have owned := owner.of_next sound stepped belongs
        exact ⟨owned, once.saved id _ _ saved owned⟩
      · subst looked
        cases named
  refine once.still_unfired sound stepped before.2 (fun request writing => ?_)
    fun _ _ _ done => ?_
  · obtain ⟨_, wrong⟩ := before.1.handled writing
    cases wrong
  · rw [done] at processing
    cases processing

theorem Once.step (once : state.Once) (sound : state.Sound)
    (stepped : Stepped host external state event next) : next.Once where
  most id := by
    rcases once.fired_step sound stepped id with same | ⟨_, first, _⟩
    · rw [same]
      exact once.most id
    · exact Nat.le_of_eq first
  handled id fired := by
    rcases once.fired_step sound stepped id with same | ⟨_, _, cause⟩
    · rw [same] at fired
      obtain ⟨request, ec, found⟩ := once.handled id fired
      exact ⟨request, ec, stepped.handled_kept found⟩
    · rcases cause with ⟨request, ec, found, _⟩ | ⟨_, _, _, _, _, request, ec, found, _⟩
      · exact ⟨request, ec, found⟩
      · exact ⟨request, ec, stepped.handled_kept found⟩
  saved _ _ _ saved belongs := once.saved_unfired sound stepped saved belongs
  found _ _ _ _ processing belongs := once.found_unfired sound stepped processing belongs
  erased answer handle processing saved := by
    rcases stepped.processing_origin processing with earlier | ⟨_, _, free⟩ | ⟨_, wrong, _⟩
    · rcases stepped.saved_origin saved with
        before | ⟨_, id, request, ec, _, written, _, _, _, rfl⟩
      · exact once.erased answer handle earlier before
      · -- The handle that was just saved belongs to a request nothing was found for before.
        rcases sound.found answer _ true earlier with missing | ⟨other, belongs⟩
        · have named := congrArg MsgHandle.continuation missing
          change request.continuation = _ at named
          rw [sound.continuation id request _ written] at named
          cases named
        · have same : id = other := sound.named written (belongs.continuation sound)
          subst same
          obtain ⟨_, wrong⟩ := belongs.handled written
          cases wrong
    · rw [free] at saved
      cases saved
    · cases wrong

theorem once_initial (client : OefSearchClient) : (initial client : SearchState Double).Once where
  most _ := Nat.zero_le 1
  handled _ fired := absurd rfl fired
  saved _ _ _ _ _ := rfl
  found _ _ _ _ _ _ := rfl
  erased _ _ processing := nomatch processing

theorem run_once {condition : SearchState Double → SearchEvent Double → Prop}
    {client : OefSearchClient} (empty : client.handles = ∅) {events : List (SearchEvent Double)}
    (run : RunWithin condition (SearchState.step host external) (initial client) events state) :
    state.Once := by
  have both : state.Sound ∧ state.Once :=
    run.invariant (fun state => state.Sound ∧ state.Once)
      ⟨sound_initial client empty, once_initial client⟩
      fun _ _ _ before _ taken =>
        ⟨before.1.step (stepped_of_step taken), before.2.step before.1 (stepped_of_step taken)⟩
  exact both.2

theorem run_fired_le_one {client : OefSearchClient} (empty : client.handles = ∅)
    {events : List (SearchEvent Double)}
    (run : Run (SearchState.step host external) (initial client) events state) (id : RequestId) :
    state.fired id ≤ 1 :=
  (run_once empty run).most id

/-! ### Messages without a handle -/

/-- The message being processed stays the same until its continuation is invoked. -/
theorem run_processing {start : SearchState Double} {answer : Answer} {handle : MsgHandle}
    {events : List (SearchEvent Double)}
    (found : ∃ erased, start.processing = some ⟨answer, handle, erased⟩)
    (run : RunWithin (fun _ event => event ≠ .invoke) (SearchState.step host external) start events
      state) :
    ∃ erased, state.processing = some ⟨answer, handle, erased⟩ :=
  run.invariant (fun state => ∃ erased,
      state.processing = some ⟨answer, handle, erased⟩) found
    fun _ _ _ ⟨_, processing⟩ other taken =>
      (stepped_of_step taken).processing_kept other processing

/-- A message that found no handle when it was looked up has the continuation
invoked that only logs, whatever happens before that. -/
theorem unmatched_invoke {start later : SearchState Double} {origin : Option RequestId}
    {bytes : Buffer} {answer : Answer} {events : List (SearchEvent Double)}
    (taken : SearchState.step host external start (.frame origin bytes) = some state)
    (listening : start.reads ≠ 0) (message : messageOf host external origin bytes = some answer)
    (missing : start.client.handles.lookup answer.key = none)
    (run : RunWithin (fun _ event => event ≠ .invoke) (SearchState.step host external) state events
      later)
    (invoke : SearchState.step host external later .invoke = some next) :
    next.invoked = later.invoked ++ [invocationOf external (.ofId answer.key) answer] := by
  have looked := (stepped_of_step taken).looked_up listening message
  rw [OefSearchClient.msgHandleGet, missing] at looked
  obtain ⟨erased, processing⟩ := run_processing ⟨false, looked⟩ run
  cases stepped_of_step invoke with
  | invoked found =>
      rw [processing] at found
      cases found
      rfl

/-- It invokes the continuation of no request. -/
theorem unmatched_fired (answer : Answer)
    (invoked : next.invoked = state.invoked ++ [invocationOf external (.ofId answer.key) answer])
    (id : RequestId) : next.fired id = state.fired id := by
  rw [fired_append invoked, if_neg (fun same => nomatch same), Nat.add_zero]

end SearchState

end OefCore
