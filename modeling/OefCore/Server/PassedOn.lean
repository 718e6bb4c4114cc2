import OefCore.Server.Components

/-! # What sessions pass on

The continuation of a request sends what it makes of its arguments to the agent of its
session. In every run of the whole core, the messages that were sent because of the search
service are exactly those that follow from the invocations of continuations
(`OefCore.SystemState.run_passedOn`).

A condition on the steps of the search client is one on the steps of the core
(`OefCore.SystemState.OnSearch`), and the search client of a run that meets it is in a run
that does (`OefCore.SystemState.run_searchWithin`).
-/

namespace OefCore

variable {Double : Type}

namespace AgentSession

/-- What the continuation of a request sends does not depend on its session. -/
theorem answered_messages (self other : AgentSession Double) (continuation : SessionContinuation)
    (ec : ErrorCode) (response : OefSearchResponse Double) :
    (self.answered continuation ec response).2 = (other.answered continuation ec response).2 := by
  obtain ⟨operation, msgId⟩ := continuation
  cases operation <;> rfl

end AgentSession

namespace NodeState

variable {parsers : NodeParsers Double} {state next : NodeState Double} {event : NodeEvent Double}

/-- Only the continuation of a request sends something because of the search service. -/
theorem Stepped.mem_sent_iff (stepped : Stepped parsers state event next)
    (notAnswer : event.isAnswer = false) {entry : Sent Double} (search : entry.cause = .search) :
    entry ∈ next.sent ↔ entry ∈ state.sent := by
  have send : ∀ {connection : SessionId} {cause : Cause} {messages : List (ServerMessage Double)},
      cause ≠ .search → (entry ∈ (state.send connection cause messages).sent ↔
        entry ∈ state.sent) := by
    intro connection cause messages other
    rw [NodeState.send, List.mem_append]
    apply or_iff_left
    intro member
    obtain ⟨message, _, rfl⟩ := List.mem_map.mp member
    exact other search
  cases stepped with
  | phraseSent | failureSent | statusSent => exact send Cause.noConfusion
  | answerSent | forwarded => exact send Cause.noConfusion
  | searchAnswered => cases notAnswer
  | accepted | unidentified | identified | unanswered | added | rejected | started | ended
    | processed | requested | answering | forwarding | written => exact Iff.rfl

end NodeState

namespace SystemState

variable (host : ByteOrder) (external : External Double) (parsers : NodeParsers Double)

/-- The step of the search client that an event stands for. -/
def searchEvent (state : SystemState Double) : SystemEvent Double → Option (SearchEvent Double)
  | .node (.read session ec buffer) =>
      match processing parsers state.node session ec buffer with
      | some (self, ⟨_, _, .request call continuation⟩) =>
          some (.call state.log.length call self.publicKey continuation.msgId)
      | _ => none
  | .node _ => none
  | .search event => some event

/-- The step of the search client meets a condition. -/
def OnSearch (condition : SearchState Double → SearchEvent Double → Prop)
    (state : SystemState Double) (event : SystemEvent Double) : Prop :=
  ∀ searchEvent, state.searchEvent parsers event = some searchEvent →
    condition state.search searchEvent

variable {host external parsers} {state next : SystemState Double} {event : SystemEvent Double}
  {events : List (SystemEvent Double)}
  {condition : SearchState Double → SearchEvent Double → Prop}

/-- The search client takes the step that the event stands for, or none. -/
theorem Stepped.search_event (stepped : Stepped host external parsers state event next) :
    next.search = state.search ∨ ∃ searchEvent,
      state.searchEvent parsers event = some searchEvent ∧
        state.search.step host external searchEvent = some next.search := by
  cases stepped with
  | moved => exact Or.inl rfl
  | @processed session ec buffer node self after action search there read result taken requested =>
      cases action with
      | nothing | send | forward =>
          cases requested
          exact Or.inl rfl
      | request call continuation =>
          refine Or.inr ⟨.call state.log.length call after.publicKey continuation.msgId, ?_,
            requested⟩
          simp only [SystemState.searchEvent, processing, there, read, Bool.false_eq_true,
            ↓reduceIte, result]
  | quiet notCall taken => exact Or.inr ⟨_, rfl, taken⟩
  | resumed notCall taken =>
      refine Or.inr ⟨_, rfl, ?_⟩
      rw [resume_search]
      exact taken

/-- A run whose steps meet a condition on the search client has it in a run that does. -/
theorem run_searchWithin {client : OefSearchClient}
    (run : RunWithin (OnSearch parsers condition) (SystemState.step host external parsers)
      (initial client) events state) :
    ∃ searchEvents, RunWithin condition (SearchState.step host external) (.initial client)
      searchEvents state.search := by
  have matched : ∃ searchEvents search, RunWithin condition (SearchState.step host external)
      (.initial client) searchEvents search ∧ state.search = search := by
    refine run.simulates (fun state search => state.search = search) rfl ?_
    rintro events state event next search before meets taken rfl
    rcases (stepped_of_step taken).search_event with same | ⟨searchEvent, stands, moved⟩
    · exact Or.inl same
    · exact Or.inr ⟨searchEvent, _, meets searchEvent stands, moved, rfl⟩
  obtain ⟨searchEvents, _, searching, rfl⟩ := matched
  exact ⟨searchEvents, searching⟩

/-! ### What sessions send because of the search service -/

/-- A session sends this when the continuation of its request is invoked. -/
inductive Follows (log : List (ProcessedEnvelope Double)) (invocation : Invocation Double) :
    Sent Double → Prop where
  | intro {id : RequestId} {session : SessionId} {envelope : Envelope Double}
      {call : SearchCall Double} {continuation : SessionContinuation}
      {message : Server.AgentMessage Double} (self : AgentSession Double)
      (named : invocation.continuation = .request id)
      (logged : log[id]? = some ⟨session, envelope, .request call continuation⟩)
      (sends : message ∈ (self.answered continuation invocation.ec invocation.response).2) :
      Follows log invocation ⟨session, .search, .agentMessage message⟩

theorem Follows.cause {log : List (ProcessedEnvelope Double)} {invocation : Invocation Double}
    {entry : Sent Double} (follows : Follows log invocation entry) : entry.cause = .search := by
  cases follows
  rfl

/-- Sessions have sent exactly what follows from the invocations of continuations. -/
def PassedOn (state : SystemState Double) : Prop :=
  ∀ entry : Sent Double, entry.cause = .search →
    (entry ∈ state.node.sent ↔ ∃ invocation ∈ state.search.invoked,
      Follows state.log invocation entry)

/-- The request of an invocation is in the log. -/
theorem Waiting.invoked_below (waiting : state.Waiting) (once : state.search.Once)
    {invocation : Invocation Double} (member : invocation ∈ state.search.invoked)
    {id : RequestId} (named : invocation.continuation = .request id) : id < state.log.length := by
  have fired : state.search.fired id ≠ 0 := by
    apply Nat.ne_of_gt
    exact List.countP_pos_iff.mpr ⟨invocation, member, beq_iff_eq.mpr named⟩
  obtain ⟨request, ec, issued⟩ := once.handled id fired
  exact waiter_below (waiting.asked id (issued ▸ Option.some_ne_none _))

/-- What a session that goes on has sent. -/
theorem mem_answered_sent (node : NodeState Double) (session : SessionId)
    (waiter : AgentSession Double) (continuation : SessionContinuation) (ec : ErrorCode)
    (response : OefSearchResponse Double) (entry : Sent Double) :
    entry ∈ (answered node session waiter continuation ec response).sent ↔
      entry ∈ node.sent ∨ ∃ message ∈ (waiter.answered continuation ec response).2,
        entry = ⟨session, .search, .agentMessage message⟩ := by
  have sent : (answered node session waiter continuation ec response).sent = node.sent ++
      ((waiter.answered continuation ec response).2.map ServerMessage.agentMessage).map
        fun message => ⟨session, .search, message⟩ := rfl
  rw [sent, List.mem_append, List.map_map, List.mem_map]
  simp only [Function.comp_apply, eq_comm]

theorem PassedOn.step (passed : state.PassedOn) (waiting : state.Waiting)
    (once : state.search.Once) (onceAfter : next.search.Once)
    (stepped : Stepped host external parsers state event next) : next.PassedOn := by
  intro entry cause
  cases stepped with
  | moved taken _ notAnswer =>
      exact ((NodeState.stepped_of_step taken).mem_sent_iff notAnswer cause).trans
        (passed entry cause)
  | @processed session ec buffer node self after action search there read result taken requested =>
      have sent : entry ∈ node.sent ↔ entry ∈ state.node.sent :=
        (NodeState.stepped_of_step taken).mem_sent_iff rfl cause
      have invoked := CoreState.requestSearch_invoked requested
      refine (sent.trans (passed entry cause)).trans ?_
      dsimp only
      rw [invoked]
      apply exists_congr
      intro invocation
      apply and_congr_right
      intro member
      constructor
      · rintro ⟨self, named, logged, sends⟩
        have below := waiting.invoked_below once member named
        exact .intro self named ((List.getElem?_append_left below).trans logged) sends
      · rintro ⟨self, named, logged, sends⟩
        have below := waiting.invoked_below once member named
        rw [List.getElem?_append_left below] at logged
        exact .intro self named logged sends
  | quiet _ taken same =>
      dsimp only
      rw [same]
      exact passed entry cause
  | @resumed _ search invocation notCall taken appended =>
      rw [resume_search] at onceAfter
      have split : (∃ other ∈ search.invoked, Follows state.log other entry) ↔
          entry ∈ state.node.sent ∨ Follows state.log invocation entry := by
        rw [appended, passed entry cause]
        simp only [List.mem_append, List.mem_singleton, or_and_right, exists_or, exists_eq_left]
      rw [resume_search, resume_log, split]
      rcases waiting.resume_eq appended (fun _ => issued_earlier taken notCall) onceAfter with
        ⟨⟨smsgId, named⟩, same⟩ | ⟨id, session, waiter, continuation, named, resumes, same⟩
      · rw [same]
        refine (or_iff_left ?_).symm
        rintro ⟨_, named', _, _⟩
        rw [named] at named'
        cases named'
      · rw [same, mem_answered_sent]
        apply or_congr_right
        obtain ⟨envelope, call, logged⟩ := waiter_eq_some.mp resumes.asked
        constructor
        · rintro ⟨message, sends, rfl⟩
          exact .intro waiter named logged sends
        · rintro ⟨self, named', logged', sends⟩
          rw [named] at named'
          cases named'
          rw [logged] at logged'
          cases logged'
          rw [self.answered_messages waiter] at sends
          exact ⟨_, sends, rfl⟩

theorem run_passedOn {condition : SystemState Double → SystemEvent Double → Prop}
    {client : OefSearchClient} (empty : client.handles = ∅)
    (run : RunWithin condition (SystemState.step host external parsers) (initial client) events
      state) : state.PassedOn := by
  refine run.traceInvariant (fun _ state => state.PassedOn) ?_ ?_
  · intro entry _
    constructor
    · intro member
      cases member
    · rintro ⟨_, member, _⟩
      cases member
  · intro events state event next run passed allowed taken
    exact passed.step (run_waits empty run) (run_once empty run)
      (run_once empty (.snoc run allowed taken)) (stepped_of_step taken)

end SystemState

end OefCore
