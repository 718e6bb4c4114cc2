import OefCore.Session.Machine

/-! # Answers per envelope

A session answers an envelope at most once, under the message id of the envelope:
either at once, or when the continuation of its request to the search service is
invoked, which happens at most once.

`OefCore.CoreState.run_atMostOnce` puts this together with what holds of the search
client alone.
-/

namespace OefCore

variable {Double : Type}

/-- Every answer that an action can lead to is under the given message id. -/
def SessionAction.AnswersUnder (msgId : Int32) : SessionAction Double → Prop
  | .nothing => True
  | .request _ continuation => continuation.msgId.toInt32 = msgId
  | .send answer => answer.answerId = msgId
  | .forward _ _ continuation => continuation.msgId.toInt32 = msgId

namespace AgentSession

/-- At most one answer, under the given message id. -/
def OneAnswer (msgId : UInt32) (messages : List (Server.AgentMessage Double)) : Prop :=
  messages.length ≤ 1 ∧ ∀ message ∈ messages, message.answerId = msgId.toInt32

theorem oneAnswer_nil (msgId : UInt32) :
    OneAnswer msgId ([] : List (Server.AgentMessage Double)) :=
  ⟨Nat.zero_le 1, fun _ member => nomatch member⟩

theorem oneAnswer_singleton {msgId : UInt32} {message : Server.AgentMessage Double}
    (under : message.answerId = msgId.toInt32) : OneAnswer msgId [message] :=
  ⟨Nat.le_refl 1, fun _ member => List.mem_singleton.mp member ▸ under⟩

theorem registrationAnswered_oneAnswer (msgId : UInt32) (errorOp : Server.AgentMessage.Operation)
    (ec : ErrorCode) :
    OneAnswer msgId
      (registrationAnswered msgId errorOp ec : List (Server.AgentMessage Double)) := by
  unfold registrationAnswered
  split
  · exact oneAnswer_singleton rfl
  · exact oneAnswer_nil msgId

theorem searchAnswered_oneAnswer {msgId : UInt32} {answer : Server.AgentMessage Double}
    (under : answer.answerId = msgId.toInt32) (ec : ErrorCode) :
    OneAnswer msgId (searchAnswered msgId answer ec) := by
  unfold searchAnswered
  split
  · exact oneAnswer_singleton rfl
  · exact oneAnswer_singleton under

/-- The continuation of a request answers once, under the message id it captured. -/
theorem answered_oneAnswer (self : AgentSession Double) (continuation : SessionContinuation)
    (ec : ErrorCode) (response : OefSearchResponse Double) :
    OneAnswer continuation.msgId (self.answered continuation ec response).2 := by
  obtain ⟨operation, msgId⟩ := continuation
  cases operation with
  | registerDescription | unregisterDescription | registerService | unregisterService =>
      exact registrationAnswered_oneAnswer _ _ _
  | searchAgents | searchService | searchServiceWide => exact searchAnswered_oneAnswer rfl _

/-- The continuation of a message to another agent answers once. -/
theorem forwardCompleted_oneAnswer (continuation : MessageContinuation) (ec : ErrorCode)
    (length : Nat) :
    OneAnswer continuation.msgId
      (forwardCompleted continuation ec length : List (Server.AgentMessage Double)) := by
  unfold forwardCompleted AsioComm.sendCompleted messageSent
  split
  · exact oneAnswer_nil _
  · exact oneAnswer_nil _

/-- An envelope is answered under its message id. -/
theorem processEnvelope_answersUnder (directory : UnorderedMap String SessionId)
    (self : AgentSession Double) (envelope : Envelope Double) :
    (processEnvelope directory self envelope).2.AnswersUnder envelope.msgId := by
  have back : envelope.msgId.toUInt32.toInt32 = envelope.msgId := Int32.toInt32_toUInt32 _
  obtain ⟨msgId, payload⟩ := envelope
  cases payload with
  | sendMessage message =>
      simp only [processEnvelope, processMessage]
      split
      · exact back
      · exact back
  | unregisterDescription =>
      simp only [processEnvelope, processUnregisterDescription]
      split
      · trivial
      · exact back
  | payloadNotSet => trivial
  | registerService | unregisterService | registerDescription | searchServices
  | searchServicesWide | searchAgents => exact back

end AgentSession

namespace CoreState

/-- How many messages sessions sent to their own agents because of an envelope. -/
def answersFor (state : CoreState Double) (id : RequestId) : Nat :=
  state.answers.countP fun sent => sent.cause == id

/-- How many answers an envelope can have led to so far. -/
def allowance (state : CoreState Double) (id : RequestId) : Nat :=
  match state.log[id]? with
  | none => 0
  | some ⟨_, _, .nothing⟩ => 0
  | some ⟨_, _, .send _⟩ => 1
  | some ⟨_, _, .forward _ _ _⟩ => if id ∈ state.forwarding then 0 else 1
  | some ⟨_, _, .request _ _⟩ => state.search.fired id

/-- Answers go to the session of their envelope, under its message id, and no
envelope exceeds its allowance. -/
structure Answering (state : CoreState Double) : Prop where
  logged : ∀ (id : RequestId) (processed : ProcessedEnvelope Double),
    state.log[id]? = some processed → processed.action.AnswersUnder processed.envelope.msgId
  writing : state.forwarding.Nodup ∧ ∀ id ∈ state.forwarding, id < state.log.length
  addressed : ∀ sent ∈ state.answers, ∃ processed, state.log[sent.cause]? = some processed ∧
    sent.session = processed.session ∧ sent.message.answerId = processed.envelope.msgId
  counted : ∀ id, state.answersFor id ≤ state.allowance id

variable {host : ByteOrder} {external : External Double} {parse : ParseFromArray (Envelope Double)}
  {state next : CoreState Double} {event : CoreEvent Double}

theorem answersFor_append (cause : RequestId) {sent : List (SentAnswer Double)}
    (appended : next.answers = state.answers ++ sent)
    (caused : ∀ answer ∈ sent, answer.cause = cause) (id : RequestId) :
    next.answersFor id = state.answersFor id + if cause = id then sent.length else 0 := by
  rw [answersFor, appended, List.countP_append, answersFor]
  congr 1
  by_cases same : cause = id
  · rw [if_pos same, List.countP_eq_length]
    intro answer member
    exact beq_iff_eq.mpr ((caused answer member).trans same)
  · rw [if_neg same, List.countP_eq_zero]
    intro answer member
    rw [beq_iff_eq, caused answer member]
    exact same

/-- A step of the search client that invokes no continuation leaves the counts. -/
theorem allowance_of_search {search : SearchState Double}
    (same : search.invoked = state.search.invoked) (id : RequestId) :
    allowance { state with search } id = state.allowance id := by
  unfold allowance
  rw [SearchState.fired_of_invoked id same]

/-- More invocations of continuations allow more answers. -/
theorem allowance_mono {id : RequestId} {search : SearchState Double}
    {sessions : SessionId → Option (AgentSession Double)} {answers : List (SentAnswer Double)}
    (more : state.search.fired id ≤ search.fired id) :
    state.allowance id ≤ allowance { state with search, sessions, answers } id := by
  unfold allowance
  dsimp only
  split <;> first | exact Nat.le_refl _ | exact more

/-- An envelope is allowed no more than the invocations of its request. -/
theorem allowance_le_one (once : ∀ id, state.search.fired id ≤ 1) (id : RequestId) :
    state.allowance id ≤ 1 := by
  unfold allowance
  split
  · exact Nat.zero_le 1
  · exact Nat.zero_le 1
  · exact Nat.le_refl 1
  · split
    · exact Nat.zero_le 1
    · exact Nat.le_refl 1
  · exact once id

theorem answersAtOnce_cause (id : RequestId) (session : SessionId) (action : SessionAction Double) :
    ∀ sent ∈ answersAtOnce id session action, sent.cause = id := by
  cases action with
  | nothing | request | forward => exact fun _ member => nomatch member
  | send message =>
      intro sent member
      rw [List.mem_singleton.mp member]

theorem mem_forwardedBy {id number : RequestId} {action : SessionAction Double}
    (member : id ∈ forwardedBy number action) : id = number := by
  cases action with
  | nothing | request | send => cases member
  | forward => exact List.mem_singleton.mp member

theorem nodup_forwardedBy (number : RequestId) (action : SessionAction Double) :
    (forwardedBy number action).Nodup := by
  cases action with
  | nothing | request | send => exact List.nodup_nil
  | forward => exact List.nodup_singleton number

/-- An envelope that is processed is counted for itself only. -/
theorem Answering.counted_processed (answering : state.Answering) {search : SearchState Double}
    (same : search.invoked = state.search.invoked)
    (sessions : SessionId → Option (AgentSession Double)) (last : ProcessedEnvelope Double)
    (id : RequestId) :
    answersFor {
        search, sessions, log := state.log ++ [last]
        forwarding := state.forwarding ++ forwardedBy state.log.length last.action
        answers :=
          state.answers ++ answersAtOnce state.log.length last.session last.action } id ≤
      allowance {
        search, sessions, log := state.log ++ [last]
        forwarding := state.forwarding ++ forwardedBy state.log.length last.action
        answers :=
          state.answers ++ answersAtOnce state.log.length last.session last.action } id := by
  have before := answering.counted id
  rw [answersFor_append state.log.length rfl (answersAtOnce_cause _ _ _)]
  by_cases here : state.log.length = id
  · subst here
    have none : state.allowance state.log.length = 0 := by
      unfold allowance
      rw [List.getElem?_eq_none (Nat.le_refl _)]
    rw [none] at before
    rw [if_pos rfl, Nat.le_zero.mp before, Nat.zero_add]
    unfold allowance
    rw [List.getElem?_concat_length]
    obtain ⟨session, envelope, action⟩ := last
    cases action with
    | nothing | request | forward => exact Nat.zero_le _
    | send => exact Nat.le_refl 1
  · rw [if_neg here, Nat.add_zero]
    refine Nat.le_trans before (Nat.le_of_eq ?_)
    have membership : id ∈ state.forwarding ++ forwardedBy state.log.length last.action ↔
        id ∈ state.forwarding := by
      rw [List.mem_append]
      exact or_iff_left fun member => here (mem_forwardedBy member).symm
    unfold allowance
    rw [log_append_other (Ne.symm here), SearchState.fired_of_invoked id same]
    simp only [membership]

/-- A continuation that answers at most once sends to the session of its envelope, and
uses up what its invocation allowed. -/
theorem Answering.continued (answering : state.Answering) {id : RequestId} {session : SessionId}
    {envelope : Envelope Double} {action : SessionAction Double} {msgId : UInt32}
    {messages : List (Server.AgentMessage Double)}
    (found : state.log[id]? = some ⟨session, envelope, action⟩)
    (under : msgId.toInt32 = envelope.msgId) (one : AgentSession.OneAnswer msgId messages)
    (log : next.log = state.log)
    (answers : next.answers = state.answers ++ messages.map fun message => ⟨id, session, message⟩)
    (more : ∀ other, state.allowance other + (if id = other then 1 else 0) ≤
      next.allowance other) :
    (∀ sent ∈ next.answers, ∃ processed, next.log[sent.cause]? = some processed ∧
      sent.session = processed.session ∧ sent.message.answerId = processed.envelope.msgId) ∧
    ∀ other, next.answersFor other ≤ next.allowance other := by
  have caused : ∀ sent ∈ messages.map fun message => SentAnswer.mk id session message,
      sent.cause = id := by
    intro sent member
    obtain ⟨message, _, rfl⟩ := List.mem_map.mp member
    rfl
  constructor
  · intro sent member
    rw [log]
    rw [answers] at member
    rcases List.mem_append.mp member with earlier | now
    · exact answering.addressed sent earlier
    · obtain ⟨message, answered, rfl⟩ := List.mem_map.mp now
      exact ⟨_, found, rfl, (one.2 message answered).trans under⟩
  · intro other
    have bounded : (if id = other then messages.length else 0) ≤ if id = other then 1 else 0 := by
      split
      · exact one.1
      · exact Nat.le_refl 0
    calc next.answersFor other
        = state.answersFor other + if id = other then messages.length else 0 := by
          rw [answersFor_append id answers caused, List.length_map]
      _ ≤ state.allowance other + if id = other then 1 else 0 :=
          Nat.add_le_add (answering.counted other) bounded
      _ ≤ next.allowance other := more other

/-- An envelope is processed: it may be answered at once, or its message forwarded. -/
theorem Answering.step_processed (answering : state.Answering) {search : SearchState Double}
    (same : search.invoked = state.search.invoked)
    (sessions : SessionId → Option (AgentSession Double)) (last : ProcessedEnvelope Double)
    (under : last.action.AnswersUnder last.envelope.msgId) :
    Answering {
      search, sessions, log := state.log ++ [last]
      forwarding := state.forwarding ++ forwardedBy state.log.length last.action
      answers :=
        state.answers ++ answersAtOnce state.log.length last.session last.action } where
  logged id processed logged := by
    rcases log_append logged with earlier | ⟨_, rfl⟩
    · exact answering.logged id processed earlier
    · exact under
  writing := by
    constructor
    · refine List.nodup_append.mpr ⟨answering.writing.1, nodup_forwardedBy _ _, ?_⟩
      rintro id member other member' rfl
      have below := answering.writing.2 id member
      rw [mem_forwardedBy member'] at below
      exact Nat.lt_irrefl _ below
    · intro id member
      rw [List.length_append, List.length_singleton]
      rcases List.mem_append.mp member with earlier | now
      · exact Nat.lt_succ_of_lt (answering.writing.2 id earlier)
      · rw [mem_forwardedBy now]
        exact Nat.lt_succ_self _
  addressed sent member := by
    rcases List.mem_append.mp member with earlier | now
    · obtain ⟨processed, found, rest⟩ := answering.addressed sent earlier
      obtain ⟨below, _⟩ := List.getElem?_eq_some_iff.mp found
      exact ⟨processed, (List.getElem?_append_left below).trans found, rest⟩
    · obtain ⟨session, envelope, action⟩ := last
      cases action with
      | nothing | request | forward => cases now
      | send message =>
          rw [List.mem_singleton.mp now]
          exact ⟨_, List.getElem?_concat_length, rfl, under⟩
  counted := answering.counted_processed same sessions last

/-- The write of a message to another agent completes. -/
theorem Answering.step_forwarded (answering : state.Answering) {id : RequestId} {ec : ErrorCode}
    {length : Nat} {session : SessionId} {envelope : Envelope Double} {destination : SessionId}
    {message : Server.AgentMessage Double} {continuation : MessageContinuation}
    (writing : id ∈ state.forwarding)
    (found : state.log[id]? =
      some ⟨session, envelope, .forward destination message continuation⟩)
    (log : next.log = state.log) (search : next.search = state.search)
    (forwarding : next.forwarding = state.forwarding.erase id)
    (answers : next.answers = state.answers ++
      (AgentSession.forwardCompleted continuation ec length).map fun message =>
        ⟨id, session, message⟩) :
    next.Answering := by
  obtain ⟨nodup, below⟩ := answering.writing
  have more : ∀ other, state.allowance other + (if id = other then 1 else 0) ≤
      next.allowance other := by
    intro other
    unfold allowance
    rw [log, search, forwarding]
    by_cases here : id = other
    · subst here
      have gone : id ∉ state.forwarding.erase id :=
        fun member => (nodup.mem_erase_iff.mp member).1 rfl
      simp only [found, writing, gone, ↓reduceIte, Nat.zero_add, Nat.le_refl]
    · have membership : other ∈ state.forwarding.erase id ↔ other ∈ state.forwarding :=
        List.mem_erase_of_ne (Ne.symm here)
      simp only [membership, if_neg here, Nat.add_zero, Nat.le_refl]
  have one := @AgentSession.forwardCompleted_oneAnswer Double continuation ec length
  have under := answering.logged id _ found
  obtain ⟨addressed, counted⟩ := answering.continued found under one log answers more
  have kept : ∀ other ∈ next.forwarding, other < next.log.length := by
    intro other member
    rw [forwarding] at member
    rw [log]
    exact below other (List.mem_of_mem_erase member)
  exact ⟨log.symm ▸ answering.logged, ⟨forwarding.symm ▸ nodup.erase id, kept⟩, addressed, counted⟩

/-- The continuation of a request is invoked, or one that belongs to no session. -/
theorem Answering.step_answered (answering : state.Answering) {search : SearchState Double}
    {invocation : Invocation Double}
    (appended : search.invoked = state.search.invoked ++ [invocation]) :
    Answering (answer { state with search } invocation) := by
  have more : ∀ id, search.fired id = state.search.fired id +
      if invocation.continuation = .request id then 1 else 0 :=
    fun id => SearchState.fired_append appended
  have grown : ∀ id, state.search.fired id ≤ search.fired id :=
    fun id => (more id).symm ▸ Nat.le_add_right _ _
  rcases answer_cases { state with search } invocation with
    ⟨same, _⟩ | ⟨id, session, envelope, call, continuation, self, named, found, _, same⟩
  · rw [same]
    exact ⟨answering.logged, answering.writing, answering.addressed, fun id =>
      Nat.le_trans (answering.counted id) (allowance_mono (grown id))⟩
  · have allowed : ∀ other, state.allowance other + (if id = other then 1 else 0) ≤
        (answer { state with search } invocation).allowance other := by
      intro other
      rw [same]
      by_cases here : id = other
      · subst here
        have request : state.log[id]? = some ⟨session, envelope, .request call continuation⟩ :=
          found
        have later : search.fired id = state.search.fired id + 1 := by
          rw [more id, if_pos named]
        unfold allowance
        simp only [request, later, ↓reduceIte, Nat.le_refl]
      · rw [if_neg here, Nat.add_zero]
        exact allowance_mono (grown other)
    have one := self.answered_oneAnswer continuation invocation.ec invocation.response
    have log : (answer { state with search } invocation).log = state.log := answer_log ..
    have answers : (answer { state with search } invocation).answers = state.answers ++
        (self.answered continuation invocation.ec invocation.response).2.map fun message =>
          ⟨id, session, message⟩ := by
      rw [same]
    obtain ⟨addressed, counted⟩ :=
      answering.continued found (answering.logged id _ found) one log answers allowed
    rw [same] at addressed counted ⊢
    exact ⟨answering.logged, answering.writing, addressed, counted⟩

theorem Answering.step (answering : state.Answering)
    (stepped : Stepped host external parse state event next) : next.Answering := by
  cases stepped with
  | started => exact ⟨answering.logged, answering.writing, answering.addressed, answering.counted⟩
  | quiet _ taken same =>
      refine ⟨answering.logged, answering.writing, answering.addressed, fun id => ?_⟩
      rw [allowance_of_search same]
      exact answering.counted id
  | @processed session directory buffer self next action search found result requested =>
      have under : action.AnswersUnder (Pbs.deserialize parse buffer).msgId := by
        have whole := self.processEnvelope_answersUnder directory (Pbs.deserialize parse buffer)
        rwa [show action = _ from (congrArg Prod.snd result).symm]
      exact answering.step_processed (requestSearch_invoked requested) _
        ⟨session, Pbs.deserialize parse buffer, action⟩ under
  | forwarded writing found => exact answering.step_forwarded writing found rfl rfl rfl rfl
  | answered _ _ appended => exact answering.step_answered appended

theorem answering_initial (client : OefSearchClient) :
    (initial client : CoreState Double).Answering where
  logged _ _ found := nomatch found
  writing := ⟨List.nodup_nil, fun _ member => nomatch member⟩
  addressed _ member := nomatch member
  counted _ := Nat.zero_le _

theorem run_answering {condition : CoreState Double → CoreEvent Double → Prop}
    {client : OefSearchClient} {events : List (CoreEvent Double)}
    (run : RunWithin condition (CoreState.step host external parse) (initial client) events state) :
    state.Answering :=
  run.invariant Answering (answering_initial client) fun _ _ _ answering _ taken =>
    answering.step (stepped_of_step taken)

/-- Sessions answer every envelope at most once. -/
theorem run_answersFor_le_one {condition : CoreState Double → CoreEvent Double → Prop}
    {client : OefSearchClient} (empty : client.handles = ∅) {events : List (CoreEvent Double)}
    (run : RunWithin condition (CoreState.step host external parse) (initial client) events state)
    (id : RequestId) : state.answersFor id ≤ 1 := by
  obtain ⟨searchEvents, searching⟩ := run_search run
  exact Nat.le_trans ((run_answering run).counted id)
    (allowance_le_one (SearchState.run_fired_le_one empty searching) id)

/-- **At most once.** In every run of the search client, the continuation of a
request is invoked at most once. So in every run of the sessions that use it, an
envelope is answered at most once, to the agent that sent it and under its message
id. And a message that finds no handle invokes the continuation of no request. -/
theorem run_atMostOnce (host : ByteOrder) (external : External Double)
    (parse : ParseFromArray (Envelope Double)) (coreId coreIpAddr : String) (corePort : UInt32) :
    (∀ events state,
      Run (SearchState.step host external) (.initial (.make coreId coreIpAddr corePort)) events
        state → ∀ id, state.fired id ≤ 1) ∧
    (∀ events state,
      Run (CoreState.step host external parse) (.initial (.make coreId coreIpAddr corePort)) events
        state → ∀ id, state.answersFor id ≤ 1 ∧
          ∀ sent ∈ state.answers, sent.cause = id → ∃ processed, state.log[id]? = some processed ∧
            sent.session = processed.session ∧
              sent.message.answerId = processed.envelope.msgId) ∧
    ∀ (start state later next : SearchState Double) origin bytes answer events,
      SearchState.step host external start (.frame origin bytes) = some state →
      start.reads ≠ 0 → SearchState.messageOf host external origin bytes = some answer →
      start.client.handles.lookup answer.key = none →
      RunWithin (fun _ event => event ≠ .invoke) (SearchState.step host external) state events
        later →
      SearchState.step host external later .invoke = some next →
      ∀ id, next.fired id = later.fired id := by
  refine ⟨fun events state run => SearchState.run_fired_le_one rfl run, ?_, ?_⟩
  · intro events state run id
    refine ⟨run_answersFor_le_one rfl run id, ?_⟩
    rintro sent member rfl
    exact (run_answering run).addressed sent member
  · intro start state later next origin bytes answer events taken listening message missing run
      invoke id
    exact SearchState.unmatched_fired answer
      (SearchState.unmatched_invoke taken listening message missing run invoke) id

/-- Alice searches, and is answered. -/
def searchAnswered : List (CoreEvent Int) :=
  [.start 0 "alice", .envelope 0 ∅ [0x08, 0x01, 0x3a, 0x02, 0x0a, 0x00]] ++ answeredUnder 0 0x08

/-- The answer to her search is the only one, and an unsolicited message to a new
client invokes nothing of hers. -/
theorem run_atMostOnce_alice :
    (after searchAnswered).search.fired 0 ≤ 1 ∧ (after searchAnswered).answersFor 0 ≤ 1 ∧
      (SearchState.after [SearchState.answerAlice 0, .erase, .invoke]).fired 0 =
        (SearchState.after [SearchState.answerAlice 0, .erase]).fired 0 := by
  have once := run_atMostOnce .little SearchState.shortExternal shortEnvelope "oef-core-pluto"
    "127.0.0.1" 3333
  have executed : execute shortStep (initial SearchState.pluto) searchAnswered =
      some (after searchAnswered) := rfl
  have run := run_of_execute executed
  obtain ⟨searchEvents, searching⟩ := run_search run
  have erased : RunWithin (fun _ event => event ≠ .invoke)
      (SearchState.step .little SearchState.shortExternal)
      (SearchState.after [SearchState.answerAlice 0]) [.erase]
      (SearchState.after [SearchState.answerAlice 0, .erase]) :=
    .snoc .nil nofun rfl
  exact ⟨once.1 _ _ searching 0, (once.2.1 _ _ run 0).1,
    once.2.2 SearchState.listening _ _ (SearchState.after _) (some 0)
      (OefSearchClient.frame [0x10, 0x08, 0x1a, 0x02, 0x08, 0x01] [])
      ⟨some 0, { uri := "", id := 8, success := true }, none⟩ _ rfl nofun rfl rfl erased rfl 0⟩

end CoreState

end OefCore
