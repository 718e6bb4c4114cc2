import OefCore.Search.Delivery
import OefCore.Search.Misdelivery

/-! # Where invocations come from

A continuation is invoked with a message that was read, or because its request could not
be written (`OefCore.SearchState.Caused`), whatever the service and the keys are. An honest
service answers no request twice (`OefCore.SearchState.AnsweredOnce`). When answers are timely,
the requests whose continuations were not invoked are the unanswered ones
(`OefCore.SearchState.Timely.unanswered_iff`).
-/

namespace OefCore

variable {Double : Type}

namespace SearchState

/-- What is processed was read, and so was what continuations are invoked with. Only the
request that could not be written is invoked without an answer. -/
structure Caused (host : ByteOrder) (external : External Double) (state : SearchState Double) :
    Prop where
  processing : ∀ processing, state.processing = some processing →
    ∃ bytes, (processing.answer.origin, bytes) ∈ state.arrived ∧
      messageOf host external processing.answer.origin bytes = some processing.answer
  answered : ∀ invocation ∈ state.invoked, ∀ answer, invocation.cause = some answer →
    ∃ bytes, (answer.origin, bytes) ∈ state.arrived ∧
      messageOf host external answer.origin bytes = some answer
  unwritten : ∀ invocation ∈ state.invoked, invocation.cause = none →
    ∃ id request, invocation.continuation = .request id ∧ invocation.ec.failed = true ∧
      state.issued id = some ⟨request, .handled invocation.ec⟩
  reported : ∀ id request ec, state.issued id = some ⟨request, .handled ec⟩ → ec.failed = true →
    ∃ response cause, ⟨.request id, ec, response, cause⟩ ∈ state.invoked

variable {host : ByteOrder} {external : External Double} {state next : SearchState Double}
  {event : SearchEvent Double}

theorem Stepped.arrived_kept (stepped : Stepped host external state event next) :
    state.arrived ⊆ next.arrived := by
  cases stepped with
  | unread | dropped | received => exact List.subset_append_left _ _
  | called | written | sendFailed | sendSucceeded | erased | invoked => exact List.Subset.refl _

theorem Caused.step (caused : state.Caused host external) (sound : state.Sound)
    (stepped : Stepped host external state event next) : next.Caused host external where
  processing processing there := by
    have before : ∀ earlier, state.processing = some earlier →
        earlier.answer = processing.answer →
          ∃ bytes, (processing.answer.origin, bytes) ∈ next.arrived ∧
            messageOf host external processing.answer.origin bytes = some processing.answer := by
      intro earlier found same
      obtain ⟨bytes, arrived, message⟩ := caused.processing earlier found
      rw [same] at arrived message
      exact ⟨bytes, stepped.arrived_kept arrived, message⟩
    cases stepped with
    | @received origin bytes answer idle _ message =>
        cases there
        refine ⟨bytes, ?_, ?_⟩
        · rw [messageOf_origin message]
          exact List.mem_append_right _ (List.mem_singleton_self _)
        · rw [messageOf_origin message]
          exact message
    | erased found =>
        cases there
        exact before _ found rfl
    | invoked => cases there
    | called | written | sendFailed | sendSucceeded | unread | dropped =>
        exact before _ there rfl
  answered invocation member answer cause := by
    have before : invocation ∈ state.invoked →
        ∃ bytes, (answer.origin, bytes) ∈ next.arrived ∧
          messageOf host external answer.origin bytes = some answer := by
      intro earlier
      obtain ⟨bytes, arrived, message⟩ := caused.answered invocation earlier answer cause
      exact ⟨bytes, stepped.arrived_kept arrived, message⟩
    rcases stepped.invoked_cases with unchanged | ⟨last, appended, origin⟩
    · exact before (unchanged ▸ member)
    · rw [appended] at member
      rcases List.mem_append.mp member with earlier | now
      · exact before earlier
      · rw [List.mem_singleton.mp now] at cause
        rcases origin with ⟨_, _, _, _, _, _, _, _, _, rfl⟩ | ⟨read, handle, _, found, _, _, rfl⟩
        · cases cause
        · cases cause
          obtain ⟨bytes, arrived, message⟩ := caused.processing _ found
          exact ⟨bytes, stepped.arrived_kept arrived, message⟩
  unwritten invocation member cause := by
    have before : invocation ∈ state.invoked →
        ∃ id request, invocation.continuation = .request id ∧ invocation.ec.failed = true ∧
          next.issued id = some ⟨request, .handled invocation.ec⟩ := by
      intro earlier
      obtain ⟨id, request, named, failed, issued⟩ := caused.unwritten invocation earlier cause
      exact ⟨id, request, named, failed, stepped.handled_kept issued⟩
    rcases stepped.invoked_cases with unchanged | ⟨last, appended, origin⟩
    · exact before (unchanged ▸ member)
    · rw [appended] at member
      rcases List.mem_append.mp member with earlier | now
      · exact before earlier
      · rw [List.mem_singleton.mp now] at cause ⊢
        rcases origin with
          ⟨id, request, ec, _, issued, handled, failed, _, _, rfl⟩ | ⟨_, _, _, _, _, _, rfl⟩
        · exact ⟨id, request, sound.continuation id request _ issued, failed, handled⟩
        · cases cause
  reported id request ec issued failed := by
    have before : state.issued id = some ⟨request, .handled ec⟩ →
        ∃ response cause, ⟨.request id, ec, response, cause⟩ ∈ next.invoked := by
      intro earlier
      obtain ⟨response, cause, member⟩ := caused.reported id request ec earlier failed
      rcases stepped.invoked_cases with unchanged | ⟨last, appended, _⟩
      · exact ⟨response, cause, unchanged ▸ member⟩
      · refine ⟨response, cause, ?_⟩
        rw [appended]
        exact List.mem_append_left _ member
    cases stepped with
    | unread | dropped | received | erased | invoked => exact before issued
    | called | written =>
        rcases issued_of_update rfl issued with ⟨_, earlier⟩ | ⟨_, _, handled⟩
        · exact before earlier
        · cases handled
    | @sendFailed other sent status found =>
        rcases issued_of_update rfl issued with ⟨_, earlier⟩ | ⟨rfl, rfl, handled⟩
        · exact before earlier
        · cases handled
          refine ⟨{}, none, ?_⟩
          rw [← sound.continuation _ _ _ found]
          exact List.mem_append_right _ (List.mem_singleton_self _)
    | @sendSucceeded other sent status found succeeded =>
        rcases issued_of_update rfl issued with ⟨_, earlier⟩ | ⟨rfl, rfl, handled⟩
        · exact before earlier
        · cases handled
          rw [succeeded] at failed
          cases failed

theorem caused_initial (client : OefSearchClient) :
    (initial client : SearchState Double).Caused host external where
  processing _ processing := nomatch processing
  answered _ member := nomatch member
  unwritten _ member := nomatch member
  reported _ _ _ issued := nomatch issued

/-- No request has two answers. -/
def AnsweredOnce (state : SearchState Double) : Prop :=
  ∀ id bytes bytes', (some id, bytes) ∈ state.arrived → (some id, bytes') ∈ state.arrived →
    bytes = bytes'

theorem AnsweredOnce.step (once : state.AnsweredOnce)
    (honest : HonestService host external state event)
    (stepped : Stepped host external state event next) : next.AnsweredOnce := by
  intro id bytes bytes' member member'
  have fresh : ∀ {origin : Option RequestId} {frame : Buffer}, event = .frame origin frame →
      (some id, bytes) ∈ state.arrived ++ [(origin, frame)] →
        (some id, bytes') ∈ state.arrived ++ [(origin, frame)] → bytes = bytes' := by
    intro origin frame same member member'
    obtain ⟨other, _, _, rfl, _, _, unanswered, _⟩ := honest origin frame same
    rcases List.mem_append.mp member with earlier | now
    · rcases List.mem_append.mp member' with earlier' | now'
      · exact once id bytes bytes' earlier earlier'
      · cases List.mem_singleton.mp now'
        exact absurd ⟨bytes, earlier⟩ unanswered
    · cases List.mem_singleton.mp now
      rcases List.mem_append.mp member' with earlier' | now'
      · exact absurd ⟨bytes', earlier'⟩ unanswered
      · cases List.mem_singleton.mp now'
        rfl
  cases stepped with
  | unread | dropped | received => exact fresh rfl member member'
  | called | written | sendFailed | sendSucceeded | erased | invoked =>
      exact once id bytes bytes' member member'

/-! ### Unanswered requests -/

/-- The service is honest, no request is made under a key that another one uses, and an
answer arrives after the completion handler of its request, with a header that decodes. -/
structure Punctual (host : ByteOrder) (external : External Double) (state : SearchState Double)
    (event : SearchEvent Double) : Prop where
  honest : HonestService host external state event
  free : FreeKey external state event
  prompt : TimelyAnswer host external state event

theorem punctual_of_other
    (notCall : ∀ id operation agent msgId, event ≠ .call id operation agent msgId)
    (notFrame : ∀ origin bytes, event ≠ .frame origin bytes) :
    Punctual host external state event where
  honest := honestService_of_other notFrame
  free := freeKey_of_other notCall
  prompt id bytes same := absurd same (notFrame (some id) bytes)

/-- The search service still owes an answer to a request: its write did not fail, and no
answer arrived for it, or one is being processed. -/
def Unanswered (state : SearchState Double) (id : RequestId) : Prop :=
  (∀ request ec, state.issued id = some ⟨request, .handled ec⟩ → ec.failed = false) ∧
    (state.Answered id → ∃ processing, state.processing = some processing ∧
      processing.answer.origin = some id)

/-- When answers are timely and keys are free, the continuations that were invoked are those
of the requests that are not unanswered. -/
theorem Timely.unanswered_iff (timely : state.Timely host external)
    (caused : state.Caused host external) (once : state.Once) (id : RequestId) :
    state.Unanswered id ↔ state.fired id = 0 := by
  cases found : state.issued id with
  | none =>
      refine iff_of_true ⟨fun request ec issued => ?_, fun answered => ?_⟩ ?_
      · rw [found] at issued
        cases issued
      · obtain ⟨_, _, issued⟩ := timely.answered id answered
        rw [found] at issued
        cases issued
      · by_contra fired
        obtain ⟨_, _, issued⟩ := once.handled id fired
        rw [found] at issued
        cases issued
  | some issued =>
      obtain ⟨request, write⟩ := issued
      have named := timely.sound.continuation id request write found
      have handled : ∀ {ec : ErrorCode}, write = .handled ec → ec.failed = false →
          ∀ request ec, state.issued id = some ⟨request, .handled ec⟩ → ec.failed = false := by
        rintro ec rfl succeeded request ec issued
        rw [found] at issued
        cases issued
        exact succeeded
      cases timely.stage id request write found with
      | unsent unanswered unhandled =>
          refine iff_of_true ⟨fun _ ec issued => ?_, fun answered => absurd answered unanswered⟩
            (once.unfired found unhandled)
          rw [found] at issued
          cases issued
          exact absurd rfl (unhandled ec)
      | @failed ec _ failed =>
          refine iff_of_false (fun unanswered => ?_) ?_
          · rw [unanswered.1 request ec found] at failed
            cases failed
          · obtain ⟨response, cause, member⟩ := caused.reported id request ec found failed
            exact fired_of_mem member rfl
      | @awaited ec unanswered succeeded saved =>
          exact iff_of_true ⟨handled rfl succeeded, fun answered => absurd answered unanswered⟩
            (once.saved id request.key request.handle saved
              ⟨request, ec, found, succeeded, rfl, rfl⟩)
      | @processed ec bytes answer erased succeeded arrived message processing =>
          refine iff_of_true ⟨handled rfl succeeded, fun _ => ⟨_, processing,
            messageOf_origin message⟩⟩ ?_
          obtain ⟨other, asked, _, issued, _, origin, key, _⟩ :=
            timely.processing answer request.handle erased processing
          rw [messageOf_origin message] at origin
          cases origin
          rw [found] at issued
          cases issued
          exact once.found id answer request.handle erased processing
            ⟨request, ec, found, succeeded, key.symm, rfl⟩
      | @invoked ec bytes answer _ arrived message member finished =>
          refine iff_of_false (fun unanswered => ?_) (fired_of_mem member named)
          obtain ⟨processing, there, origin⟩ := unanswered.2 ⟨bytes, arrived⟩
          exact finished processing there origin

theorem run_punctual {client : OefSearchClient} (empty : client.handles = ∅)
    {events : List (SearchEvent Double)}
    (run : RunWithin (Punctual host external) (SearchState.step host external) (initial client)
      events state) : state.Timely host external ∧ state.Caused host external := by
  refine run.invariant (fun state => state.Timely host external ∧ state.Caused host external)
    ⟨timely_initial client empty, caused_initial client⟩ ?_
  rintro state event next ⟨timely, caused⟩ punctual taken
  have stepped := stepped_of_step taken
  exact ⟨timely.step punctual.free punctual.honest punctual.prompt stepped,
    caused.step timely.sound stepped⟩

end SearchState

end OefCore
