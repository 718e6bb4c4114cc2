import OefCore.Schema.TypeSoundness
import OefCore.Session.Description
import OefCore.Session.Requests

/-! # Failed description requests

A session changes its description when it processes the envelope that registers one,
and clears it when an unregistration was answered successfully. An error is answered
with an error message and undoes nothing.

`OefCore.CoreState.leftUnchanged_iff` says when a description request that is answered
with an error leaves the session as it was: when it registers nothing but the
description the session has. Between the request and its answer the session may process
anything but description requests; an earlier unregistration may still be answered.
-/

namespace OefCore

variable {Double : Type}

/-- `AgentSession::match`. -/
def AgentSession.matchQuery [Doubles Double] (self : AgentSession Double)
    (query : Query.Model Double) : Bool :=
  match self.description with
  | none => false
  | some description => QueryModel.check query description

/-- An envelope that registers or unregisters a description. -/
def Envelope.AsksDescription (envelope : Envelope Double) : Prop :=
  (∃ desc, envelope.payload = .registerDescription desc) ∨
    envelope.payload = .unregisterDescription

/-- What a continuation leaves of the description. -/
theorem AgentSession.description_answered (self : AgentSession Double)
    (continuation : SessionContinuation) (ec : ErrorCode) (response : OefSearchResponse Double) :
    (self.answered continuation ec response).1.description =
      if continuation.operation = .unregisterDescription ∧ ec.failed = false then none
      else self.description := by
  obtain ⟨kept, gone⟩ := @AgentSession.answered_description _ self continuation ec response
  split
  · rename_i cleared
    exact gone cleared.1 cleared.2
  · rename_i uncleared
    by_cases operation : continuation.operation = .unregisterDescription
    · cases failed : ec.failed with
      | true => rw [self.answered_failed continuation failed]
      | false => exact absurd ⟨operation, failed⟩ uncleared
    · rw [kept operation]

/-- Such an envelope changes what the description is asked to be. -/
theorem Envelope.AsksDescription.changes {envelope : Envelope Double}
    (asksDescription : envelope.AsksDescription) : ¬ ∀ asked, envelope.asks asked = asked := by
  intro kept
  rcases asksDescription with ⟨desc, payload⟩ | payload
  · have asked := kept none
    rw [Envelope.asks, payload] at asked
    cases asked
  · let description : Instance Double :=
      { handle := { model := { name := "", attributes := [] }, values := [] }, values := ∅ }
    have asked := kept (some description)
    rw [Envelope.asks, payload] at asked
    cases asked

/-- An event that answers a request with an error: its write failed, or a message for
it has an unsuccessful status. -/
inductive SearchState.Fails (state : SearchState Double) (id : RequestId) :
    SearchEvent Double → Prop where
  | sendFailed {ec} (failed : ec.failed = true) : Fails state id (.sent id ec)
  | unsuccessful {answer handle} (found : state.processing = some ⟨answer, handle, true⟩)
      (named : handle.continuation = .request id) (status : answer.header.success = false) :
      Fails state id .invoke

/-- Whatever the payload of an unsuccessful message is, it is answered as an error. -/
theorem OefSearchClient.answer_failed (external : External Double) (operation : String)
    {header : TransportHeader} (status : header.success = false) (payload : Option Buffer) :
    (answer external operation header payload).1 = .noMessageAvailable := by
  unfold answer
  rw [status]
  cases payload with
  | none => rfl
  | some payload =>
      dsimp only
      split
      · rfl
      · split
        · rfl
        · split
          · rfl
          · split <;> rfl

theorem SearchState.Fails.concludes {state : SearchState Double} {id : RequestId}
    {event : SearchEvent Double} (fails : state.Fails id event) (external : External Double) :
    ∃ ec response, ec.failed = true ∧ state.Concludes external id event ec response := by
  cases fails with
  | sendFailed failed => exact ⟨_, _, failed, .sendFailed failed⟩
  | unsuccessful found named status =>
      refine ⟨_, _, ?_, .answered found named⟩
      rw [OefSearchClient.answer_failed external _ status]
      rfl

namespace CoreState

/-- The session processes no description request. -/
def NoDescriptionRequest (parse : ParseFromArray (Envelope Double)) (session : SessionId)
    (_state : CoreState Double) (event : CoreEvent Double) : Prop :=
  ∀ directory buffer, event = .envelope session directory buffer →
    ¬ (Pbs.deserialize parse buffer).AsksDescription

/-- A description request of a session, with the states before it, after it, before
its answer and after its answer, which is an error. -/
structure FailedRequest (host : ByteOrder) (external : External Double)
    (parse : ParseFromArray (Envelope Double)) (session : SessionId) (envelope : Envelope Double)
    (continuation : SessionContinuation) (before asked pending next : CoreState Double) :
    Prop where
  asking : ∃ directory buffer, envelope = Pbs.deserialize parse buffer ∧
    step host external parse before (.envelope session directory buffer) = some asked
  asks : envelope.AsksDescription
  request : ∃ call,
    asked.log[before.log.length]? = some ⟨session, envelope, .request call continuation⟩
  between : ∃ events, RunWithin (NoDescriptionRequest parse session) (step host external parse)
    asked events pending
  failing : ∃ event, pending.search.Fails before.log.length event ∧
    step host external parse pending (.search event) = some next

/-- The session has the description it had and matches what it matched, and its agent
was sent one error because of the request, under its message id. -/
structure LeftUnchanged [Doubles Double] (session : SessionId) (envelope : Envelope Double)
    (continuation : SessionContinuation) (before next : CoreState Double) : Prop where
  description : next.description session = before.description session
  matching : ∀ self after, before.sessions session = some self →
    next.sessions session = some after → ∀ query, after.matchQuery query = self.matchQuery query
  error : next.answersTo before.log.length = [⟨before.log.length, session, {
    answerId := envelope.msgId
    payload := .oefError (AgentSession.errorOperation continuation.operation) }⟩]

/-- The invocation answers an unregistration of the session successfully. -/
def Clears (state : CoreState Double) (session : SessionId) (invocation : Invocation Double) :
    Prop :=
  invocation.ec.failed = false ∧ ∃ id envelope call continuation,
    invocation.continuation = .request id ∧
      state.log[id]? = some ⟨session, envelope, .request call continuation⟩ ∧
        continuation.operation = .unregisterDescription

/-- An unregistration of the session was answered successfully since some state. -/
def ClearedSince (start state : CoreState Double) (session : SessionId) : Prop :=
  ∃ invocation ∈ state.search.invoked.drop start.search.invoked.length,
    state.Clears session invocation

variable {host : ByteOrder} {external : External Double} {parse : ParseFromArray (Envelope Double)}
  {state next : CoreState Double} {event : CoreEvent Double} {session : SessionId}

/-! ### What a step does to a description -/

theorem description_of_session {self : AgentSession Double}
    (found : state.sessions session = some self) :
    state.description session = self.description := by
  rw [description, found, Option.bind_some]

/-- The continuation of a request of a session clears its description when it answers
an unregistration successfully, and leaves it alone otherwise. -/
theorem answer_description (state : CoreState Double) (invocation : Invocation Double)
    (present : state.sessions session ≠ none) :
    (state.Clears session invocation ∧ (state.answer invocation).description session = none) ∨
      (¬ state.Clears session invocation ∧
        (state.answer invocation).description session = state.description session) := by
  rcases state.answer_cases invocation with
    ⟨same, orphan⟩ | ⟨id, owner, envelope, call, continuation, self, named, logged, found, same⟩
  · rw [same]
    refine Or.inr ⟨?_, rfl⟩
    intro ⟨_, id, envelope, call, continuation, named, logged, _⟩
    exact present (orphan id session envelope call continuation named logged)
  · have clears : state.Clears session invocation ↔ owner = session ∧
        continuation.operation = .unregisterDescription ∧ invocation.ec.failed = false := by
      constructor
      · intro ⟨succeeded, id', envelope', call', continuation', named', logged', operation⟩
        rw [named] at named'
        cases named'
        rw [logged] at logged'
        cases logged'
        exact ⟨rfl, operation, succeeded⟩
      · intro ⟨mine, operation, succeeded⟩
        subst mine
        exact ⟨succeeded, id, envelope, call, continuation, named, logged, operation⟩
    rw [clears, same]
    by_cases mine : owner = session
    · subst mine
      rw [description_of_session found, description_of_session (Function.update_self ..),
        self.description_answered]
      by_cases cleared : continuation.operation = .unregisterDescription ∧
          invocation.ec.failed = false
      · exact Or.inl ⟨⟨rfl, cleared⟩, if_pos cleared⟩
      · exact Or.inr ⟨fun wrong => cleared wrong.2, if_neg cleared⟩
    · refine Or.inr ⟨fun wrong => mine wrong.1, ?_⟩
      simp only [description, Function.update_of_ne (Ne.symm mine)]

/-- No other step of a session without a description request changes its description
or invokes anything. -/
theorem Stepped.description_cases (stepped : Stepped host external parse state event next)
    (none : NoDescriptionRequest parse session state event)
    (present : state.sessions session ≠ Option.none) :
    (next.search.invoked = state.search.invoked ∧
        next.description session = state.description session) ∨
      ∃ search invocation, search.invoked = state.search.invoked ++ [invocation] ∧
        next = answer { state with search } invocation := by
  cases stepped with
  | @started other _ fresh =>
      have different : session ≠ other := fun same => present (same ▸ fresh)
      exact Or.inl ⟨rfl, by simp only [description, Function.update_of_ne different]⟩
  | forwarded => exact Or.inl ⟨rfl, rfl⟩
  | quiet _ _ same => exact Or.inl ⟨same, rfl⟩
  | @answered _ search invocation _ _ appended =>
      exact Or.inr ⟨search, invocation, appended, rfl⟩
  | @processed other directory buffer self after action search found result requested =>
      refine Or.inl ⟨requestSearch_invoked requested, ?_⟩
      by_cases mine : other = session
      case neg => simp only [description, Function.update_of_ne (Ne.symm mine)]
      subst mine
      rw [description_of_session found, description_of_session (Function.update_self ..)]
      have effect := self.processEnvelope_description directory (Pbs.deserialize parse buffer)
      have quiet := none directory buffer rfl
      rw [AgentSession.process] at result
      rw [result] at effect
      rcases effect with ⟨desc, payload, _⟩ | ⟨payload, _⟩ | ⟨_, unchanged, _⟩
      · exact absurd (Or.inl ⟨desc, payload⟩) quiet
      · exact absurd (Or.inr payload) quiet
      · exact unchanged

/-! ### Between a request and its answer -/

/-- An invocation has the same effect in later states. -/
theorem Stepped.clears_iff (stepped : Stepped host external parse state event next)
    (numbered : state.Numbered) (once : state.search.Once) {invocation : Invocation Double}
    (earlier : invocation ∈ state.search.invoked) :
    next.Clears session invocation ↔ state.Clears session invocation := by
  constructor
  · intro ⟨succeeded, id, envelope, call, continuation, named, logged, operation⟩
    rcases stepped.log_origin logged with before | ⟨here, _⟩
    · exact ⟨succeeded, id, envelope, call, continuation, named, before, operation⟩
    · have fired : 0 < state.search.fired id :=
        List.countP_pos_iff.mpr ⟨invocation, earlier, beq_iff_eq.mpr named⟩
      rw [here, fired_next numbered once] at fired
      cases fired
  · intro ⟨succeeded, id, envelope, call, continuation, named, logged, operation⟩
    exact ⟨succeeded, id, envelope, call, continuation, named, stepped.log_kept logged, operation⟩

/-- The states of a run after a request: the description is the one that the request
left, unless an unregistration was answered successfully. -/
structure Since (host : ByteOrder) (external : External Double)
    (parse : ParseFromArray (Envelope Double)) (client : OefSearchClient) (session : SessionId)
    (start state : CoreState Double) : Prop where
  reached : ∃ events, Run (CoreState.step host external parse) (initial client) events state
  present : state.sessions session ≠ none
  invoked : ∃ later, state.search.invoked = start.search.invoked ++ later
  description : (ClearedSince start state session ∧ state.description session = none) ∨
    (¬ ClearedSince start state session ∧ state.description session = start.description session)

theorem clearedSince_self (start : CoreState Double) : ¬ ClearedSince start start session := by
  intro ⟨invocation, member, _⟩
  rw [List.drop_length] at member
  exact List.not_mem_nil member

/-- What was cleared stays cleared, and more may be cleared by the invocations of a
step. -/
theorem Stepped.clearedSince_iff {start : CoreState Double}
    (stepped : Stepped host external parse state event next) (numbered : state.Numbered)
    (once : state.search.Once) {later more : List (Invocation Double)}
    (invoked : state.search.invoked = start.search.invoked ++ later)
    (appended : next.search.invoked = state.search.invoked ++ more) :
    ClearedSince start next session ↔
      ClearedSince start state session ∨ ∃ invocation ∈ more, next.Clears session invocation := by
  have old : ∀ invocation ∈ later, next.Clears session invocation ↔
      state.Clears session invocation := by
    intro invocation member
    apply stepped.clears_iff numbered once
    rw [invoked]
    exact List.mem_append_right _ member
  unfold ClearedSince
  rw [appended, invoked, List.append_assoc, List.drop_left, List.drop_left]
  constructor
  · intro ⟨invocation, member, clears⟩
    rcases List.mem_append.mp member with before | now
    · exact Or.inl ⟨invocation, before, (old invocation before).mp clears⟩
    · exact Or.inr ⟨invocation, now, clears⟩
  · rintro (⟨invocation, before, clears⟩ | ⟨invocation, now, clears⟩)
    · exact ⟨invocation, List.mem_append_left _ before, (old invocation before).mpr clears⟩
    · exact ⟨invocation, List.mem_append_right _ now, clears⟩

theorem Since.step {client : OefSearchClient} (empty : client.handles = ∅)
    {start : CoreState Double} (since : Since host external parse client session start state)
    (none : NoDescriptionRequest parse session state event)
    (taken : CoreState.step host external parse state event = some next) :
    Since host external parse client session start next := by
  have stepped := stepped_of_step taken
  obtain ⟨events, run⟩ := since.reached
  obtain ⟨_, searching⟩ := run_search run
  obtain ⟨later, invoked⟩ := since.invoked
  have cleared := fun more => @Stepped.clearedSince_iff _ _ _ _ _ _ _ session start stepped
    (run_numbered run) (SearchState.run_once empty searching) later more invoked
  refine ⟨⟨_, .snoc run trivial taken⟩, stepped.session_kept since.present, ?_, ?_⟩
  · rcases stepped.description_cases none since.present with
      ⟨same, _⟩ | ⟨search, invocation, appended, rfl⟩
    · exact ⟨later, same.trans invoked⟩
    · exact ⟨later ++ [invocation], by rw [answer_search, appended, invoked, List.append_assoc]⟩
  · rcases stepped.description_cases none since.present with
      ⟨same, unchanged⟩ | ⟨search, invocation, appended, rfl⟩
    · have still : ClearedSince start next session ↔ ClearedSince start state session := by
        rw [cleared [] (by rw [same, List.append_nil])]
        simp only [List.not_mem_nil, false_and, exists_false, or_false]
      rw [still, unchanged]
      exact since.description
    · have more := cleared [invocation] (by rw [answer_search, appended])
      have here : (answer { state with search } invocation).Clears session invocation ↔
          state.Clears session invocation := by
        unfold Clears
        rw [answer_log]
      simp only [List.mem_singleton, exists_eq_left, here] at more
      rw [more]
      rcases answer_description { state with search } invocation since.present with
        ⟨clears, gone⟩ | ⟨keeps, unchanged⟩
      · exact Or.inl ⟨Or.inr clears, gone⟩
      · have keeps : ¬ state.Clears session invocation := keeps
        rw [unchanged, or_iff_left keeps]
        exact since.description

/-- A session without a description request between two states. -/
theorem since_of_run {client : OefSearchClient} (empty : client.handles = ∅)
    {earlier between : List (CoreEvent Double)} {start : CoreState Double}
    (run : Run (CoreState.step host external parse) (initial client) earlier start)
    (present : start.sessions session ≠ none)
    (later : RunWithin (NoDescriptionRequest parse session) (CoreState.step host external parse)
      start between state) : Since host external parse client session start state :=
  later.invariant (Since host external parse client session start)
    ⟨⟨earlier, run⟩, present, ⟨[], (List.append_nil _).symm⟩,
      Or.inr ⟨clearedSince_self start, rfl⟩⟩
    fun _ _ _ since none taken => since.step empty none taken

/-! ### Failed requests -/

variable {envelope : Envelope Double} {continuation : SessionContinuation}
  {before asked pending : CoreState Double}

/-- What a description request does at once, and what its errors are under. -/
theorem FailedRequest.effect {coreId coreIpAddr : String} {corePort : UInt32}
    {events : List (CoreEvent Double)}
    (run : Run (CoreState.step host external parse) (initial (.make coreId coreIpAddr corePort))
      events before)
    (failed : FailedRequest host external parse session envelope continuation before asked pending
      next) :
    asked.sessions session ≠ none ∧ continuation.msgId.toInt32 = envelope.msgId ∧
      ((∃ desc, envelope.payload = .registerDescription desc ∧
          asked.description session = some (Instance.ofMessage desc.description)) ∨
        (envelope.payload = .unregisterDescription ∧
          asked.description session = before.description session)) := by
  obtain ⟨directory, buffer, rfl, taken⟩ := failed.asking
  obtain ⟨call, logged⟩ := failed.request
  have under := (run_answering (RunWithin.snoc run trivial taken)).logged _ _ logged
  cases stepped_of_step taken with
  | @processed _ _ _ self after action search found result requested =>
      refine ⟨?_, under, ?_⟩
      · change Function.update before.sessions session (some after) session ≠ none
        rw [Function.update_self]
        exact Option.some_ne_none after
      rw [description_of_session (Function.update_self ..), description_of_session found]
      have effect := self.processEnvelope_description directory (Pbs.deserialize parse buffer)
      rw [AgentSession.process] at result
      rw [result] at effect
      rcases effect with ⟨desc, payload, _, registered⟩ | ⟨payload, unchanged, _⟩ | ⟨asks, _, _⟩
      · exact Or.inl ⟨desc, payload, registered⟩
      · exact Or.inr ⟨payload, unchanged⟩
      · exact absurd asks failed.asks.changes

/-- The answer of a failed request: the description stays what it is by then, and the
agent is sent one error. -/
theorem FailedRequest.answered {coreId coreIpAddr : String} {corePort : UInt32}
    {events : List (CoreEvent Double)}
    (run : Run (CoreState.step host external parse) (initial (.make coreId coreIpAddr corePort))
      events before)
    (failed : FailedRequest host external parse session envelope continuation before asked pending
      next) :
    Since host external parse (.make coreId coreIpAddr corePort) session asked pending ∧
      next.description session = pending.description session ∧
      next.answersTo before.log.length = [⟨before.log.length, session, {
        answerId := envelope.msgId
        payload := .oefError (AgentSession.errorOperation continuation.operation) }⟩] := by
  obtain ⟨present, under, _⟩ := failed.effect run
  obtain ⟨directory, buffer, _, asking⟩ := failed.asking
  obtain ⟨call, logged⟩ := failed.request
  obtain ⟨between, waiting⟩ := failed.between
  obtain ⟨event, fails, taken⟩ := failed.failing
  have since := since_of_run rfl (RunWithin.snoc run trivial asking) present waiting
  obtain ⟨reachedEvents, reached⟩ := since.reached
  have stillLogged : pending.log[before.log.length]? =
      some ⟨session, envelope, .request call continuation⟩ :=
    waiting.invariant (fun state => state.log[before.log.length]? = some _) logged
      fun _ _ _ found _ taken => (stepped_of_step taken).log_kept found
  obtain ⟨ec, response, error, concludes⟩ := fails.concludes external
  obtain ⟨self, concluded⟩ := run_concluded reached stillLogged concludes taken
  have left := self.answered_failed continuation error response
  refine ⟨since, ?_, ?_⟩
  · rw [description_of_session concluded.waiting, description, concluded.sessions,
      Function.update_self, Option.bind_some, left]
  · rw [concluded.answers, left, AgentSession.sendError, under]
    rfl

/-- **A failed description request leaves the session as it was** exactly when it is an
unregistration or registers the description the session has, and no earlier
unregistration was answered successfully in between; or when one was and the session
had no description. -/
theorem leftUnchanged_iff [Doubles Double] {coreId coreIpAddr : String} {corePort : UInt32}
    {events : List (CoreEvent Double)}
    (run : Run (CoreState.step host external parse) (initial (.make coreId coreIpAddr corePort))
      events before)
    (failed : FailedRequest host external parse session envelope continuation before asked pending
      next) :
    LeftUnchanged session envelope continuation before next ↔
      (¬ ClearedSince asked pending session ∧ (envelope.payload = .unregisterDescription ∨
        ∃ desc, envelope.payload = .registerDescription desc ∧
          before.description session = some (Instance.ofMessage desc.description))) ∨
      (ClearedSince asked pending session ∧ before.description session = none) := by
  obtain ⟨_, _, effect⟩ := failed.effect run
  obtain ⟨since, kept, told⟩ := failed.answered run
  have unchanged : LeftUnchanged session envelope continuation before next ↔
      pending.description session = before.description session := by
    constructor
    · exact fun unchanged => kept.symm.trans unchanged.description
    · intro same
      refine ⟨kept.trans same, fun first last found there query => ?_, told⟩
      have descriptions := kept.trans same
      rw [description_of_session found, description_of_session there] at descriptions
      rw [AgentSession.matchQuery, AgentSession.matchQuery, descriptions]
  rw [unchanged]
  rcases since.description with ⟨cleared, gone⟩ | ⟨keeps, same⟩
  · simp only [cleared, gone, not_true_eq_false, false_and, true_and, false_or]
    exact eq_comm
  · simp only [keeps, same, not_false_eq_true, true_and, false_and, or_false]
    rcases effect with ⟨desc, payload, registered⟩ | ⟨payload, asked⟩
    · rw [registered]
      constructor
      · exact fun had => Or.inr ⟨desc, payload, had.symm⟩
      · rintro (wrong | ⟨other, payload', had⟩)
        · rw [payload] at wrong
          cases wrong
        · rw [payload] at payload'
          cases payload'
          exact had.symm
    · exact iff_of_true asked (Or.inl payload)

section Registered

attribute [local instance] wholeDoubles

/-- Alice, who has the description "a", asks for something under her message id 2, and
the request is not sent. -/
def brokenPipe (request : Buffer) : List (CoreEvent Int) :=
  registerOnce ++ [.envelope 0 ∅ request, .search (.sent 1 ⟨32⟩)]

/-- Her attempt to unregister it. -/
theorem unregister_failed : FailedRequest .little SearchState.shortExternal shortEnvelope 0
    { msgId := 2, payload := .unregisterDescription } ⟨.unregisterDescription, 2⟩
    (after registerOnce) (after (registerOnce ++ [.envelope 0 ∅ [0x08, 0x02, 0x32, 0x00]]))
    (after (registerOnce ++ [.envelope 0 ∅ [0x08, 0x02, 0x32, 0x00]]))
    (after (brokenPipe [0x08, 0x02, 0x32, 0x00])) where
  asking := ⟨∅, [0x08, 0x02, 0x32, 0x00], rfl, rfl⟩
  asks := Or.inr rfl
  request := ⟨_, rfl⟩
  between := ⟨[], .nil⟩
  failing := ⟨.sent 1 ⟨32⟩, .sendFailed rfl, rfl⟩

theorem leftUnchanged_iff_unregister :
    (¬ ClearedSince (after (registerOnce ++ [.envelope 0 ∅ [0x08, 0x02, 0x32, 0x00]]))
      (after (registerOnce ++ [.envelope 0 ∅ [0x08, 0x02, 0x32, 0x00]])) 0) ∧
    LeftUnchanged 0 { msgId := 2, payload := .unregisterDescription } ⟨.unregisterDescription, 2⟩
      (after registerOnce) (after (brokenPipe [0x08, 0x02, 0x32, 0x00])) := by
  have executed : execute shortStep (initial SearchState.pluto) registerOnce =
      some (after registerOnce) := rfl
  refine ⟨clearedSince_self _, ?_⟩
  exact (leftUnchanged_iff (run_of_execute executed) unregister_failed).mpr
    (Or.inl ⟨clearedSince_self _, Or.inl rfl⟩)

/-- Her attempt to register the description "b". -/
def registerB : Buffer := [0x08, 0x02, 0x2a, 0x07, 0x0a, 0x05, 0x0a, 0x03, 0x0a, 0x01, 0x62]

def descriptionB : AgentDescription Int where
  description := { model := { name := "b", attributes := [] }, values := [] }

/-- **A failed registration replaces the description**: Alice is told that it failed,
and her session matches queries for "b" from then on. -/
theorem register_failed : FailedRequest .little SearchState.shortExternal shortEnvelope 0
      { msgId := 2, payload := .registerDescription descriptionB } ⟨.registerDescription, 2⟩
      (after registerOnce) (after (registerOnce ++ [.envelope 0 ∅ registerB]))
      (after (registerOnce ++ [.envelope 0 ∅ registerB])) (after (brokenPipe registerB)) ∧
    ((after registerOnce).description 0).map (fun had => had.model.name) = some "a" ∧
    ((after (brokenPipe registerB)).description 0).map (fun has => has.model.name) = some "b" ∧
    ((after (brokenPipe registerB)).sessions 0).map (fun alice =>
      alice.matchQuery { constraints := [], model := some { name := "b", attributes := [] } }) =
        some true ∧
    ¬ LeftUnchanged 0 { msgId := 2, payload := .registerDescription descriptionB }
      ⟨.registerDescription, 2⟩ (after registerOnce) (after (brokenPipe registerB)) := by
  refine ⟨⟨⟨∅, registerB, rfl, rfl⟩, Or.inl ⟨_, rfl⟩, ⟨_, rfl⟩, ⟨[], .nil⟩,
    ⟨.sent 1 ⟨32⟩, .sendFailed rfl, rfl⟩⟩, rfl, rfl, rfl, fun unchanged => ?_⟩
  have names := congrArg (Option.map fun has => has.model.name) unchanged.description
  exact absurd names (by decide)

end Registered

end CoreState

end OefCore
