import OefCore.Search.AtMostOnce
import OefCore.Search.Misdelivery

/-! # Answers and completion handlers

The handle of a request is saved by the completion handler of its write. Nothing
makes that handler run before the answer is read: when the answer is read first,
it finds no handle, its continuation is never invoked, and the handle that is
saved later stays.

Under free keys, no answer is lost when each one is read after the completion handler of
its request ran, and no header stops the receive loop: the invariant
`OefCore.SearchState.Timely` says where every request is then.
`OefCore.SearchState.run_delivered` is about runs with distinct keys, in which the
handles of answered requests are gone as well.
-/

namespace OefCore

namespace SearchState

variable {Double : Type} (host : ByteOrder) (external : External Double)

/-- The keys of requests, in the 32 bits that are used, are pairwise distinct. -/
def DistinctKey (state : SearchState Double) (event : SearchEvent Double) : Prop :=
  ∀ id operation agent msgId, event = .call id operation agent msgId →
    ∀ other request write, state.issued other = some ⟨request, write⟩ →
      request.key ≠ (OefSearchClient.generateSmsgId external.hash agent msgId).toUInt32

/-- The answer of a request arrives after the completion handler of its write ran,
and its header decodes. -/
def TimelyAnswer (state : SearchState Double) (event : SearchEvent Double) : Prop :=
  ∀ id bytes, event = .frame (some id) bytes →
    (∀ request write, state.issued id = some ⟨request, write⟩ → ∃ ec, write = .handled ec) ∧
      messageOf host external (some id) bytes ≠ none

/-- The continuation of the request was invoked with the answer that arrived for
it, decoded under its operation, and its handle is gone. -/
def Delivered (state : SearchState Double) (id : RequestId) (request : SendRequest Double) :
    Prop :=
  (∃ bytes answer, (some id, bytes) ∈ state.arrived ∧
    messageOf host external (some id) bytes = some answer ∧
      invocationOf external request.handle answer ∈ state.invoked) ∧
  state.client.handles.lookup request.key = none

/-- Where the answer of a request is when no answer comes early: not yet possible,
awaited with the handle saved, processed, or with the continuation. -/
inductive Stage (state : SearchState Double) (id : RequestId) (request : SendRequest Double) :
    WriteState → Prop where
  | unsent {write} (unanswered : ¬ state.Answered id) (unhandled : ∀ ec, write ≠ .handled ec) :
      Stage state id request write
  | failed {ec} (unanswered : ¬ state.Answered id) (failed : ec.failed = true) :
      Stage state id request (.handled ec)
  | awaited {ec} (unanswered : ¬ state.Answered id) (succeeded : ec.failed = false)
      (saved : state.client.handles.lookup request.key = some request.handle) :
      Stage state id request (.handled ec)
  | processed {ec bytes answer erased} (succeeded : ec.failed = false)
      (arrived : (some id, bytes) ∈ state.arrived)
      (message : messageOf host external (some id) bytes = some answer)
      (processing : state.processing = some ⟨answer, request.handle, erased⟩)
      (saved : erased = false →
        state.client.handles.lookup request.key = some request.handle) :
      Stage state id request (.handled ec)
  | invoked {ec bytes answer} (succeeded : ec.failed = false)
      (arrived : (some id, bytes) ∈ state.arrived)
      (message : messageOf host external (some id) bytes = some answer)
      (invoked : invocationOf external request.handle answer ∈ state.invoked)
      (finished : ∀ processing, state.processing = some processing →
        processing.answer.origin ≠ some id) :
      Stage state id request (.handled ec)

/-- What holds when answers are timely and keys are free. -/
structure Timely (state : SearchState Double) : Prop where
  undisturbed : state.Undisturbed external
  alone : state.reads + (if state.processing = none then 0 else 1) = 1
  stage : ∀ id request write, state.issued id = some ⟨request, write⟩ →
    state.Stage host external id request write
  answered : ∀ id, state.Answered id → ∃ request write, state.issued id = some ⟨request, write⟩
  processing : ∀ answer handle erased, state.processing = some ⟨answer, handle, erased⟩ →
    ∃ id request write, state.issued id = some ⟨request, write⟩ ∧ state.Answered id ∧
      answer.origin = some id ∧ answer.key = request.key ∧ handle = request.handle

variable {host external} {state next : SearchState Double} {event : SearchEvent Double}

theorem Timely.sound (timely : state.Timely host external) : state.Sound :=
  timely.undisturbed.sound

/-- An event that changes neither the arrivals of a request nor its handle nor what is
processed for it keeps its stage. -/
theorem Stage.kept {id : RequestId} {request : SendRequest Double} {write : WriteState}
    (stage : state.Stage host external id request write)
    (arrived : ∀ bytes, (some id, bytes) ∈ next.arrived ↔ (some id, bytes) ∈ state.arrived)
    (saved : state.client.handles.lookup request.key = some request.handle →
      next.client.handles.lookup request.key = some request.handle)
    (processing : ∀ answer handle erased, answer.origin = some id →
      (next.processing = some ⟨answer, handle, erased⟩ ↔
        state.processing = some ⟨answer, handle, erased⟩))
    (invoked : state.invoked ⊆ next.invoked) :
    next.Stage host external id request write := by
  have answered : next.Answered id ↔ state.Answered id := exists_congr arrived
  cases stage with
  | unsent unanswered unhandled => exact .unsent (answered.not.mpr unanswered) unhandled
  | failed unanswered failed => exact .failed (answered.not.mpr unanswered) failed
  | awaited unanswered succeeded there =>
      exact .awaited (answered.not.mpr unanswered) succeeded (saved there)
  | processed succeeded here message found there =>
      exact .processed succeeded ((arrived _).mpr here) message
        ((processing _ _ _ (messageOf_origin message)).mpr found)
        fun erased => saved (there erased)
  | invoked succeeded here message member finished =>
      refine .invoked succeeded ((arrived _).mpr here) message (invoked member) ?_
      rintro ⟨answer, handle, erased⟩ found origin
      exact finished _ ((processing _ _ _ origin).mp found) origin

/-- Before the completion handler of its write, a request has no answer. -/
theorem Stage.unhandled {id : RequestId} {request : SendRequest Double} {write : WriteState}
    (stage : state.Stage host external id request write) (unhandled : ∀ ec, write ≠ .handled ec) :
    ¬ state.Answered id := by
  cases stage with
  | unsent unanswered => exact unanswered
  | failed | awaited | processed | invoked => exact absurd rfl (unhandled _)

/-- Before the completion handler of its write, the key of a request has no handle. -/
theorem Timely.unsaved (timely : state.Timely host external) {id : RequestId}
    {request : SendRequest Double} {write : WriteState}
    (issued : state.issued id = some ⟨request, write⟩) (unhandled : ∀ ec, write ≠ .handled ec) :
    state.client.handles.lookup request.key = none := by
  by_contra saved
  obtain ⟨handle, saved⟩ := Option.ne_none_iff_exists'.mp saved
  obtain ⟨owner, belongs⟩ := timely.sound.saved _ _ saved
  have same : owner = id := timely.undisturbed.single owner id request.key
    (Or.inr ⟨handle, saved, belongs⟩)
    (Or.inl ⟨request, write, issued, Or.inl unhandled, rfl⟩)
  subst same
  obtain ⟨ec, handled⟩ := belongs.handled issued
  exact unhandled ec handled

/-- A timely answer finds the handle of its request. -/
theorem Timely.received (timely : state.Timely host external) {id : RequestId} {bytes : Buffer}
    {answer : Answer} (honest : HonestService host external state (.frame (some id) bytes))
    (prompt : TimelyAnswer host external state (.frame (some id) bytes))
    (message : messageOf host external (some id) bytes = some answer) :
    ∃ request ec, state.issued id = some ⟨request, .handled ec⟩ ∧ ec.failed = false ∧
      ¬ state.Answered id ∧ answer.key = request.key ∧
        state.client.handles.lookup answer.key = some request.handle := by
  obtain ⟨request, write, issued, sent, unanswered, key⟩ := honest.key timely.sound message
  obtain ⟨ec, rfl⟩ := (prompt id bytes rfl).1 request write issued
  have succeeded : ec.failed = false := by
    rcases sent with sent | ⟨_, sent, succeeded⟩
    · cases sent
    · cases sent
      exact succeeded
  refine ⟨request, ec, issued, succeeded, unanswered, key, ?_⟩
  cases timely.stage id request _ issued with
  | unsent _ unhandled => exact absurd rfl (unhandled ec)
  | failed _ failed =>
      rw [failed] at succeeded
      cases succeeded
  | awaited _ _ saved => rw [key, saved]
  | processed _ here | invoked _ here => exact absurd ⟨_, here⟩ unanswered

/-- A step that issues or moves on one request, and leaves the stages of the others. -/
theorem stage_of_update {other : RequestId} {sent : SendRequest Double} {after : WriteState}
    (updated : next.issued = Function.update state.issued other (some ⟨sent, after⟩))
    (own : next.Stage host external other sent after)
    (others : ∀ id request write, id ≠ other → state.issued id = some ⟨request, write⟩ →
      next.Stage host external id request write)
    {id : RequestId} {request : SendRequest Double} {write : WriteState}
    (issued : next.issued id = some ⟨request, write⟩) :
    next.Stage host external id request write := by
  rcases issued_of_update updated issued with ⟨different, earlier⟩ | ⟨rfl, rfl, rfl⟩
  · exact others id request write different earlier
  · exact own

/-- A timely answer is processed for its request, and the others stay where they are. -/
theorem Timely.stage_received (timely : state.Timely host external)
    {origin : Option RequestId} {bytes : Buffer} {answer : Answer}
    (honest : HonestService host external state (.frame origin bytes))
    (prompt : TimelyAnswer host external state (.frame origin bytes))
    (idle : state.processing = none)
    (message : messageOf host external origin bytes = some answer)
    {id : RequestId} {request : SendRequest Double} {write : WriteState}
    (issued : state.issued id = some ⟨request, write⟩) :
    Stage host external { state with
      arrived := state.arrived ++ [(origin, bytes)]
      reads := state.reads - 1
      processing := some {
        answer, handle := state.client.msgHandleGet answer.key, erased := false } }
      id request write := by
  obtain ⟨other, _, _, rfl, _⟩ := honest origin bytes rfl
  obtain ⟨asked, ec, found, succeeded, unanswered, key, saved⟩ :=
    timely.received honest prompt message
  by_cases same : id = other
  · subst same
    rw [issued] at found
    cases found
    have arrived : (some id, bytes) ∈ state.arrived ++ [(some id, bytes)] :=
      List.mem_append_right _ (List.mem_singleton_self _)
    have processing : some (Processing.mk answer (state.client.msgHandleGet answer.key) false)
        = some ⟨answer, request.handle, false⟩ := by rw [OefSearchClient.msgHandleGet, saved]
    exact .processed succeeded arrived message processing fun _ => key ▸ saved
  · have arrived : ∀ there, (some id, there) ∈ state.arrived ++ [(some other, bytes)] ↔
        (some id, there) ∈ state.arrived := by
      intro there
      rw [List.mem_append, List.mem_singleton, Prod.mk.injEq, Option.some.injEq]
      exact or_iff_left fun wrong => same wrong.1
    refine (timely.stage id request write issued).kept arrived (fun saved => saved)
      (fun answer' _ _ named => ?_)
      (List.Subset.refl _)
    rw [idle]
    refine iff_of_false (fun found => ?_) (fun found => ?_)
    · cases found
      rw [messageOf_origin message] at named
      cases named
      exact same rfl
    · cases found

/-- The handle that was found for a message stays saved until it is erased. -/
theorem Timely.found_saved (timely : state.Timely host external) {answer : Answer}
    {handle : MsgHandle} (found : state.processing = some ⟨answer, handle, false⟩) :
    state.client.handles.lookup answer.key = some handle := by
  obtain ⟨id, request, write, issued, answered, origin, key, rfl⟩ :=
    timely.processing answer handle false found
  cases timely.stage id request write issued with
  | unsent unanswered | failed unanswered | awaited unanswered => exact absurd answered unanswered
  | processed _ _ _ processing saved =>
      rw [found] at processing
      cases processing
      rw [key]
      exact saved rfl
  | invoked _ _ _ _ finished => exact absurd origin (finished _ found)

/-- The erasure of the handle that was found leaves the handles of other requests. -/
theorem Timely.stage_erased (timely : state.Timely host external) {answer : Answer}
    {handle : MsgHandle} (found : state.processing = some ⟨answer, handle, false⟩)
    {id : RequestId} {request : SendRequest Double} {write : WriteState}
    (issued : state.issued id = some ⟨request, write⟩) :
    Stage host external { state with
      client := (state.client.msgHandleErase answer.key).1
      processing := some ⟨answer, handle, true⟩ } id request write := by
  have there := timely.found_saved found
  obtain ⟨other, asked, status, earlier, answered, origin, key, rfl⟩ :=
    timely.processing answer handle false found
  have stage := timely.stage id request write issued
  by_cases same : id = other
  · subst same
    rw [issued] at earlier
    cases earlier
    cases stage with
    | unsent unanswered | failed unanswered | awaited unanswered =>
        exact absurd answered unanswered
    | processed succeeded here message processing =>
        rw [found] at processing
        cases processing
        exact .processed succeeded here message rfl Bool.noConfusion
    | invoked _ _ _ _ finished => exact absurd origin (finished _ found)
  · refine stage.kept (fun _ => Iff.rfl) (fun saved => ?_) (fun answer' _ _ named => ?_)
      (List.Subset.refl _)
    · have apart : request.key ≠ answer.key := by
        intro wrong
        rw [wrong, there] at saved
        have continuations := congrArg MsgHandle.continuation (Option.some.inj saved)
        exact same (timely.sound.named earlier
          (continuations.trans (timely.sound.continuation id request write issued))).symm
      dsimp only
      rw [OefSearchClient.msgHandleErase_lookup, if_neg apart]
      exact saved
    · rw [found]
      refine iff_of_false (fun processing => ?_) (fun processing => ?_) <;>
      · cases processing
        rw [origin] at named
        cases named
        exact same rfl

/-- The invocation delivers the answer of the request that is processed. -/
theorem Timely.stage_invoked (timely : state.Timely host external) {answer : Answer}
    {handle : MsgHandle} (found : state.processing = some ⟨answer, handle, true⟩)
    {id : RequestId} {request : SendRequest Double} {write : WriteState}
    (issued : state.issued id = some ⟨request, write⟩) :
    Stage host external { state with
      processing := none
      reads := state.reads + 1
      invoked := state.invoked ++ [invocationOf external handle answer] } id request write := by
  obtain ⟨other, asked, status, earlier, answered, origin, key, rfl⟩ :=
    timely.processing answer handle true found
  have stage := timely.stage id request write issued
  by_cases same : id = other
  · subst same
    rw [issued] at earlier
    cases earlier
    cases stage with
    | unsent unanswered | failed unanswered | awaited unanswered =>
        exact absurd answered unanswered
    | processed succeeded here message processing =>
        rw [found] at processing
        cases processing
        refine .invoked succeeded here message
          (List.mem_append_right _ (List.mem_singleton_self _)) fun _ processing => ?_
        cases processing
    | invoked _ _ _ _ finished => exact absurd origin (finished _ found)
  · refine stage.kept (fun _ => Iff.rfl) (fun saved => saved) (fun answer' _ _ named => ?_)
      (List.subset_append_left _ _)
    rw [found]
    refine iff_of_false (fun processing => ?_) (fun processing => ?_)
    · cases processing
    · cases processing
      rw [origin] at named
      cases named
      exact same rfl

theorem Timely.step_stage (timely : state.Timely host external)
    (honest : HonestService host external state event)
    (prompt : TimelyAnswer host external state event)
    (stepped : Stepped host external state event next) (id : RequestId)
    (request : SendRequest Double) (write : WriteState)
    (issued : next.issued id = some ⟨request, write⟩) :
    next.Stage host external id request write := by
  cases stepped with
  | @called other operation agent msgId fresh =>
      have unanswered : ¬ state.Answered other := by
        intro answered
        obtain ⟨_, _, found⟩ := timely.answered other answered
        rw [fresh] at found
        cases found
      refine stage_of_update rfl ?_ (fun id request write _ issued => ?_) issued
      · exact .unsent unanswered fun _ => WriteState.noConfusion
      · refine (timely.stage id request write issued).kept (fun _ => Iff.rfl) (fun saved => ?_)
          (fun _ _ _ _ => Iff.rfl) (List.Subset.refl _)
        dsimp only
        rw [OefSearchClient.call_handles]
        exact saved
  | @written other sent found =>
      have unanswered := (timely.stage other sent _ found).unhandled fun _ => WriteState.noConfusion
      refine stage_of_update rfl ?_ (fun id request write _ issued => ?_) issued
      · exact .unsent unanswered fun _ => WriteState.noConfusion
      · exact (timely.stage id request write issued).kept (fun _ => Iff.rfl) (fun saved => saved)
          (fun _ _ _ _ => Iff.rfl) (List.Subset.refl _)
  | @sendFailed other sent ec found failed =>
      have unanswered := (timely.stage other sent _ found).unhandled fun _ => WriteState.noConfusion
      refine stage_of_update rfl ?_ (fun id request write _ issued => ?_) issued
      · exact .failed unanswered failed
      · exact (timely.stage id request write issued).kept (fun _ => Iff.rfl) (fun saved => saved)
          (fun _ _ _ _ => Iff.rfl) (List.subset_append_left _ _)
  | @sendSucceeded other sent ec found succeeded =>
      have unanswered := (timely.stage other sent _ found).unhandled fun _ => WriteState.noConfusion
      have free := timely.unsaved found fun _ => WriteState.noConfusion
      refine stage_of_update rfl ?_ (fun id request write _ issued => ?_) issued
      · refine .awaited unanswered succeeded ?_
        dsimp only
        rw [OefSearchClient.scheduleRcvCallback_lookup, if_pos ⟨free, rfl⟩]
      · refine (timely.stage id request write issued).kept (fun _ => Iff.rfl) (fun saved => ?_)
          (fun _ _ _ _ => Iff.rfl) (List.Subset.refl _)
        dsimp only
        rw [OefSearchClient.scheduleRcvCallback_lookup, if_neg]
        · exact saved
        · rintro ⟨_, key⟩
          rw [key, free] at saved
          cases saved
  | unread idle stopped =>
      have alone := timely.alone
      rw [if_pos idle, stopped] at alone
      cases alone
  | @dropped origin bytes idle _ noMessage =>
      obtain ⟨other, _, _, rfl, _⟩ := honest origin bytes rfl
      exact absurd noMessage (prompt other bytes rfl).2
  | received idle _ message => exact timely.stage_received honest prompt idle message issued
  | erased found => exact timely.stage_erased found issued
  | invoked found => exact timely.stage_invoked found issued

theorem Timely.step (timely : state.Timely host external)
    (free : FreeKey external state event) (honest : HonestService host external state event)
    (prompt : TimelyAnswer host external state event)
    (stepped : Stepped host external state event next) : next.Timely host external where
  undisturbed := timely.undisturbed.step honest free stepped
  alone := by
    refine stepped.reads_kept ?_ timely.alone
    rintro origin bytes rfl
    obtain ⟨id, _, _, rfl, _⟩ := honest origin bytes rfl
    exact (prompt id bytes rfl).2
  stage := timely.step_stage honest prompt stepped
  answered id answered := by
    have before : state.Answered id →
        ∃ request write, next.issued id = some ⟨request, write⟩ := by
      intro answered
      obtain ⟨request, write, issued⟩ := timely.answered id answered
      obtain ⟨after, kept⟩ := stepped.issued_kept issued
      exact ⟨request, after, kept⟩
    cases stepped with
    | @unread origin bytes | @dropped origin bytes | @received origin bytes =>
        obtain ⟨there, arrived⟩ := answered
        rcases List.mem_append.mp arrived with earlier | now
        · exact before ⟨there, earlier⟩
        · cases List.mem_singleton.mp now
          obtain ⟨other, request, write, same, issued, _⟩ := honest _ _ rfl
          cases same
          exact ⟨request, write, issued⟩
    | called | written | sendFailed | sendSucceeded | erased | invoked => exact before answered
  processing answer handle erased processing := by
    have before : ∀ earlier, state.processing = some ⟨answer, handle, earlier⟩ →
        ∃ id request write, next.issued id = some ⟨request, write⟩ ∧ next.Answered id ∧
          answer.origin = some id ∧ answer.key = request.key ∧ handle = request.handle := by
      intro earlier found
      obtain ⟨id, request, write, issued, answered, rest⟩ :=
        timely.processing answer handle earlier found
      obtain ⟨after, kept⟩ := stepped.issued_kept issued
      exact ⟨id, request, after, kept, stepped.answered_kept answered, rest⟩
    cases stepped with
    | @received origin bytes answer idle _ message =>
        obtain ⟨id, _, _, rfl, _⟩ := honest origin bytes rfl
        obtain ⟨request, ec, issued, _, _, key, saved⟩ := timely.received honest prompt message
        cases processing
        refine ⟨id, request, _, issued,
          ⟨bytes, List.mem_append_right _ (List.mem_singleton_self _)⟩,
          messageOf_origin message, key, ?_⟩
        rw [OefSearchClient.msgHandleGet, saved]
    | erased found =>
        cases processing
        exact before false found
    | invoked => cases processing
    | called | written | sendFailed | sendSucceeded | unread | dropped =>
        exact before erased processing

theorem timely_initial (client : OefSearchClient) (empty : client.handles = ∅) :
    (initial client : SearchState Double).Timely host external where
  undisturbed := undisturbed_initial client empty
  alone := rfl
  stage _ _ _ issued := nomatch issued
  answered _ answered := nomatch answered
  processing _ _ _ processing := nomatch processing

/-! ### Distinct keys -/

/-- A request whose key differs from those of all others has a free key. -/
theorem Sound.free (sound : state.Sound) (distinct : DistinctKey external state event) :
    FreeKey external state event := by
  rintro id operation agent msgId called (⟨other, request, write, issued, _, key⟩ | saved)
  · exact distinct id operation agent msgId called other request write issued key
  · obtain ⟨handle, saved⟩ := Option.ne_none_iff_exists'.mp saved
    obtain ⟨other, request, ec, issued, _, key, _⟩ := sound.saved _ _ saved
    exact distinct id operation agent msgId called other request _ issued key

/-- No two requests have the same key. -/
def DistinctKeys (state : SearchState Double) : Prop :=
  ∀ id other request request' write write',
    state.issued id = some ⟨request, write⟩ → state.issued other = some ⟨request', write'⟩ →
      request.key = request'.key → id = other

theorem DistinctKeys.step (keys : state.DistinctKeys)
    (distinct : DistinctKey external state event)
    (stepped : Stepped host external state event next) : next.DistinctKeys := by
  intro id other request request' write write' issued issued' key
  rcases stepped.issued_origin issued with
    ⟨_, earlier⟩ | ⟨fresh, _, operation, agent, msgId, rfl, rfl⟩
  · rcases stepped.issued_origin issued' with
      ⟨_, earlier'⟩ | ⟨_, _, operation, agent, msgId, rfl, rfl⟩
    · exact keys id other request request' _ _ earlier earlier' key
    · rw [OefSearchClient.call_key] at key
      exact absurd key (distinct other operation agent msgId rfl id request _ earlier)
  · rcases stepped.issued_origin issued' with
      ⟨_, earlier'⟩ | ⟨_, _, operation', agent', msgId', same, _⟩
    · rw [OefSearchClient.call_key] at key
      exact absurd key.symm (distinct id operation agent msgId rfl other request' _ earlier')
    · cases same
      rfl

/-- With distinct keys, no handle is left of a request whose continuation was invoked. -/
theorem DistinctKeys.unsaved (keys : state.DistinctKeys) (sound : state.Sound)
    (once : state.Once) {id : RequestId} {request : SendRequest Double} {write : WriteState}
    (issued : state.issued id = some ⟨request, write⟩) (fired : state.fired id ≠ 0) :
    state.client.handles.lookup request.key = none := by
  by_contra saved
  obtain ⟨handle, saved⟩ := Option.ne_none_iff_exists'.mp saved
  obtain ⟨owner, belongs⟩ := sound.saved _ _ saved
  have same : owner = id := by
    obtain ⟨request', ec, issued', _, key, _⟩ := belongs
    exact keys owner id request' request _ write issued' issued key
  subst same
  exact fired (once.saved owner request.key handle saved belongs)

/-- **No answer is lost** in a run with distinct keys and an honest service, if
every answer arrives after the completion handler of its request ran, with a
header that decodes. Once its processing is over, the continuation was invoked
with it and the handle is gone. -/
theorem run_delivered {client : OefSearchClient} (empty : client.handles = ∅)
    {events : List (SearchEvent Double)}
    (run : RunWithin (fun state event => DistinctKey external state event ∧
        HonestService host external state event ∧ TimelyAnswer host external state event)
      (SearchState.step host external) (initial client) events state)
    {id : RequestId} {request : SendRequest Double} {write : WriteState}
    (issued : state.issued id = some ⟨request, write⟩) (answered : state.Answered id)
    (finished : ∀ processing, state.processing = some processing →
      processing.answer.origin ≠ some id) :
    state.Delivered host external id request := by
  obtain ⟨timely, keys⟩ : state.Timely host external ∧ state.DistinctKeys := by
    refine run.invariant (fun state => state.Timely host external ∧ state.DistinctKeys)
      ⟨timely_initial client empty, fun _ _ _ _ _ _ issued => nomatch issued⟩ ?_
    rintro state event next ⟨timely, keys⟩ ⟨distinct, honest, prompt⟩ taken
    have stepped := stepped_of_step taken
    exact ⟨timely.step (timely.sound.free distinct) honest prompt stepped,
      keys.step distinct stepped⟩
  cases timely.stage id request write issued with
  | unsent unanswered | failed unanswered | awaited unanswered => exact absurd answered unanswered
  | processed _ _ message processing _ =>
      exact absurd (messageOf_origin message) (finished _ processing)
  | invoked _ arrived message member =>
      refine ⟨⟨_, _, arrived, message, member⟩, ?_⟩
      exact keys.unsaved timely.sound (run_once empty run) issued
        (fired_of_mem member (timely.sound.continuation id request _ issued))

/-! ### One request, answered late and early -/

/-- The answer is read after the completion handler ran. -/
def answeredLate : List (SearchEvent Int) :=
  [callAlice 0, .written 0, .sent 0 .success, answerAlice 0, .erase, .invoke]

/-- The answer is read before the completion handler runs. -/
def answeredEarly : List (SearchEvent Int) :=
  [callAlice 0, .written 0, answerAlice 0, .erase, .invoke, .sent 0 .success]

/-- Events other than calls and frames meet the conditions. -/
theorem conditions_of_other
    (notCall : ∀ id operation agent msgId, event ≠ .call id operation agent msgId)
    (notFrame : ∀ origin bytes, event ≠ .frame origin bytes) :
    DistinctKey external state event ∧ HonestService host external state event ∧
      TimelyAnswer host external state event :=
  ⟨fun id operation agent msgId same => absurd same (notCall id operation agent msgId),
    fun origin bytes same => absurd same (notFrame origin bytes),
    fun id bytes same => absurd same (notFrame (some id) bytes)⟩

theorem answeredLate_conditions :
    AlongExecution (fun state event => DistinctKey shortExternal state event ∧
        HonestService .little shortExternal state event ∧
        TimelyAnswer .little shortExternal state event)
      (SearchState.step .little shortExternal) listening answeredLate := by
  refine And.intro ?_ <| And.intro (conditions_of_other nofun nofun) <|
    And.intro (conditions_of_other nofun nofun) <| And.intro ?_ <|
      And.intro (conditions_of_other nofun nofun) <|
        And.intro (conditions_of_other nofun nofun) trivial
  · exact ⟨fun _ _ _ _ _ _ _ _ issued => (nomatch issued), fun _ _ same => (nomatch same),
      fun _ _ same => (nomatch same)⟩
  · refine ⟨fun _ _ _ _ same => (nomatch same),
      honestService_answerAlice rfl (Or.inr ⟨_, rfl, rfl⟩) nofun rfl, ?_⟩
    intro id bytes same
    cases same
    refine ⟨fun request write issued => ?_, by decide⟩
    cases issued
    exact ⟨_, rfl⟩

/-- The answer that is read late enough is delivered. -/
theorem run_delivered_alice : ∃ request,
    (after answeredLate).issued 0 = some ⟨request, .handled .success⟩ ∧
      (after answeredLate).Delivered .little shortExternal 0 request := by
  have executed : execute (SearchState.step .little shortExternal) listening answeredLate =
      some (after answeredLate) := rfl
  have run := runWithin_of_execute executed answeredLate_conditions
  refine ⟨_, rfl, run_delivered rfl run rfl ⟨_, List.mem_singleton_self _⟩ fun _ processing => ?_⟩
  cases processing

theorem answeredEarly_conditions :
    AlongExecution (fun state event => DistinctKey shortExternal state event ∧
        HonestService .little shortExternal state event)
      (SearchState.step .little shortExternal) listening answeredEarly := by
  have other : ∀ (state : SearchState Int) (event : SearchEvent Int),
      (∀ id operation agent msgId, event ≠ .call id operation agent msgId) →
        (∀ origin bytes, event ≠ .frame origin bytes) →
          DistinctKey shortExternal state event ∧ HonestService .little shortExternal state event :=
    fun _ _ notCall notFrame =>
      let conditions := @conditions_of_other Int .little shortExternal _ _ notCall notFrame
      ⟨conditions.1, conditions.2.1⟩
  refine And.intro ?_ <| And.intro (other _ _ nofun nofun) <| And.intro ?_ <|
    And.intro (other _ _ nofun nofun) <| And.intro (other _ _ nofun nofun) <|
      And.intro (other _ _ nofun nofun) trivial
  · exact ⟨fun _ _ _ _ _ _ _ _ issued => (nomatch issued), fun _ _ same => (nomatch same)⟩
  · exact ⟨fun _ _ _ _ same => (nomatch same),
      honestService_answerAlice rfl (Or.inl rfl) nofun rfl⟩

/-- **The answer that is read too early is lost**, with a key of its own, an
honest service and a header that decodes: both handlers ran, the continuation of
the request was not invoked, and its handle is still saved. -/
theorem answeredEarly_lost : ∃ request,
    RunWithin (fun state event => DistinctKey shortExternal state event ∧
        HonestService .little shortExternal state event)
      (SearchState.step .little shortExternal) listening answeredEarly (after answeredEarly) ∧
    (after answeredEarly).issued 0 = some ⟨request, .handled .success⟩ ∧
    (after answeredEarly).Answered 0 ∧ (after answeredEarly).processing = none ∧
    (after answeredEarly).client.handles.lookup request.key = some request.handle ∧
    (after answeredEarly).invoked.all (fun invocation => invocation.continuation != .request 0) ∧
    ¬ (after answeredEarly).Delivered .little shortExternal 0 request := by
  refine ⟨_, runWithin_of_execute rfl answeredEarly_conditions, rfl,
    ⟨_, List.mem_singleton_self _⟩, rfl, rfl, rfl, ?_⟩
  rintro ⟨_, free⟩
  cases free

end SearchState

end OefCore
