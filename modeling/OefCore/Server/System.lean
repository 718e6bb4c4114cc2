import OefCore.Server.Order
import OefCore.Session.Requests

/-! # The whole core

The core as it runs: the interleaved handlers of all connections together with the
search client that all sessions share. When a session reads an envelope that asks the
search service for something, the same handler calls the search client; and when the
search client invokes the continuation of a request, the session that made the request
goes on in the same step.

Requests are numbered by the envelopes that led to them, in the order in which these
were processed. A continuation can only run in its session when the session waits for
it; `OefCore.SystemState.run_waiting` says that the session always does.
-/

namespace OefCore

variable {Double : Type}

/-- The handlers of the connections, the search client, and the envelopes that were
processed. -/
structure SystemState (Double : Type) where
  node : NodeState Double
  search : SearchState Double
  log : List (ProcessedEnvelope Double)

/-- A step of a handler of a connection, or of the search client. -/
inductive SystemEvent (Double : Type) where
  | node (event : NodeEvent Double)
  | search (event : SearchEvent Double)

/-- The envelope that an event has a session read. -/
def NodeEvent.envelopeRead : NodeEvent Double → Option (SessionId × Buffer)
  | .read session ec buffer => if ec.failed then none else some (session, buffer)
  | _ => none

/-- The step of a handler that an event stands for. -/
def SystemEvent.node? : SystemEvent Double → Option (NodeEvent Double)
  | .node event => some event
  | .search _ => none

/-- The continuation of a request runs. -/
def NodeEvent.isAnswer : NodeEvent Double → Bool
  | .answer _ _ _ _ => true
  | _ => false

namespace SystemState

/-- A core that has just been constructed. -/
def initial (client : OefSearchClient) : SystemState Double where
  node := .initial
  search := .initial client
  log := []

variable (host : ByteOrder) (external : External Double) (parsers : NodeParsers Double)

/-- The continuation of a request runs in the session that made it. Other continuations
only log. -/
def resume (state : SystemState Double) (invocation : Invocation Double) : SystemState Double :=
  match invocation.continuation with
  | .noHandle _ => state
  | .request id =>
      match state.log[id]? with
      | some ⟨session, _, .request _ continuation⟩ =>
          match NodeState.stepAnswer state.node session continuation invocation.ec
              invocation.response with
          | some node => { state with node }
          | none => state
      | _ => state

/-- What a session makes of an envelope, and the envelope as it is numbered. -/
def processing (node : NodeState Double) (session : SessionId) (ec : ErrorCode)
    (buffer : Buffer) : Option (AgentSession Double × ProcessedEnvelope Double) :=
  match node.session session with
  | none => none
  | some self =>
      if ec.failed then none
      else
        let (self, action) := AgentSession.process parsers.envelope node.directory self buffer
        some (self, ⟨session, Pbs.deserialize parsers.envelope buffer, action⟩)

/-- The handler of a read, with the call of the search client it may lead to. -/
def stepRead (state : SystemState Double) (session : SessionId) (ec : ErrorCode)
    (buffer : Buffer) : Option (SystemState Double) :=
  (NodeState.stepRead parsers state.node session ec buffer).bind fun node =>
    match processing parsers state.node session ec buffer with
    | none => some { state with node }
    | some (self, processed) =>
        (CoreState.requestSearch host external state.search state.log.length self.publicKey
          processed.action).map fun search =>
            { node, search, log := state.log ++ [processed] }

/-- A step of the search client other than a call, which only sessions make. -/
def stepSearch (state : SystemState Double) (event : SearchEvent Double) :
    Option (SystemState Double) :=
  match event with
  | .call _ _ _ _ => none
  | event =>
      (state.search.step host external event).map fun search =>
        (search.invoked.drop state.search.invoked.length).foldl resume { state with search }

def step (state : SystemState Double) : SystemEvent Double → Option (SystemState Double)
  | .node (.read session ec buffer) => stepRead host external parsers state session ec buffer
  -- Sessions go on when the search client invokes their continuations.
  | .node (.answer _ _ _ _) => none
  | .node event => (NodeState.step parsers state.node event).map fun node => { state with node }
  | .search event => stepSearch host external state event

/-- Every way a step can go. -/
inductive Stepped (state : SystemState Double) :
    SystemEvent Double → SystemState Double → Prop where
  | moved {event : NodeEvent Double} {node : NodeState Double}
      (taken : NodeState.step parsers state.node event = some node)
      (unread : event.envelopeRead = none) (notAnswer : event.isAnswer = false) :
      Stepped state (.node event) { state with node }
  | processed {session : SessionId} {ec : ErrorCode} {buffer : Buffer} {node : NodeState Double}
      {self after : AgentSession Double} {action : SessionAction Double}
      {search : SearchState Double} (there : state.node.session session = some self)
      (read : ec.failed = false)
      (result : AgentSession.process parsers.envelope state.node.directory self buffer =
        (after, action))
      (taken : NodeState.step parsers state.node (.read session ec buffer) = some node)
      (requested : CoreState.requestSearch host external state.search state.log.length
        after.publicKey action = some search) :
      Stepped state (.node (.read session ec buffer))
        { node, search,
          log := state.log ++ [⟨session, Pbs.deserialize parsers.envelope buffer, action⟩] }
  | quiet {event : SearchEvent Double} {search : SearchState Double}
      (notCall : ∀ id call agent msgId, event ≠ .call id call agent msgId)
      (taken : state.search.step host external event = some search)
      (same : search.invoked = state.search.invoked) :
      Stepped state (.search event) { state with search }
  | resumed {event : SearchEvent Double} {search : SearchState Double}
      {invocation : Invocation Double}
      (notCall : ∀ id call agent msgId, event ≠ .call id call agent msgId)
      (taken : state.search.step host external event = some search)
      (appended : search.invoked = state.search.invoked ++ [invocation]) :
      Stepped state (.search event) (resume { state with search } invocation)

variable {host external parsers} {state next : SystemState Double} {event : SystemEvent Double}

/-- A session that can read is there. -/
theorem session_of_stepRead {node after : NodeState Double} {session : SessionId}
    {ec : ErrorCode} {buffer : Buffer}
    (taken : NodeState.stepRead parsers node session ec buffer = some after) :
    ∃ self, node.session session = some self := by
  cases NodeState.stepped_of_read taken with
  | ended _ there | processed _ there | requested _ there | answering _ there
    | forwarding _ there => exact ⟨_, there⟩

theorem stepped_of_stepRead {session : SessionId} {ec : ErrorCode} {buffer : Buffer}
    (taken : stepRead host external parsers state session ec buffer = some next) :
    Stepped host external parsers state (.node (.read session ec buffer)) next := by
  obtain ⟨node, moved, taken⟩ := Option.bind_eq_some_iff.mp taken
  obtain ⟨self, there⟩ := session_of_stepRead moved
  cases failed : ec.failed with
  | true =>
      simp only [processing, there, failed, ↓reduceIte] at taken
      cases taken
      refine .moved moved ?_ rfl
      rw [NodeEvent.envelopeRead, if_pos failed]
  | false =>
      simp only [processing, there, failed, Bool.false_eq_true, ↓reduceIte] at taken
      obtain ⟨search, requested, rfl⟩ := Option.map_eq_some_iff.mp taken
      exact .processed there failed rfl moved requested

/-- A step goes one of the listed ways. -/
theorem stepped_of_step (taken : step host external parsers state event = some next) :
    Stepped host external parsers state event next := by
  cases event with
  | node event =>
      cases event with
      | read session ec buffer => exact stepped_of_stepRead taken
      | answer => cases taken
      | accept | receiveId | receiveAnswer | handshake | deliver | written =>
          obtain ⟨node, moved, rfl⟩ := Option.map_eq_some_iff.mp taken
          exact .moved moved rfl rfl
  | search event =>
      have searched : (∀ id call agent msgId, event ≠ .call id call agent msgId) ∧
          ∃ search, state.search.step host external event = some search ∧
            (search.invoked.drop state.search.invoked.length).foldl resume { state with search } =
              next := by
        cases event with
        | call => cases taken
        | written | sent | frame | erase | invoke =>
            exact ⟨nofun, Option.map_eq_some_iff.mp taken⟩
      clear taken
      obtain ⟨notCall, search, taken, rfl⟩ := searched
      rcases (SearchState.stepped_of_step taken).invoked_cases with same | ⟨invocation, appended, _⟩
      · rw [same, List.drop_length, List.foldl_nil]
        exact .quiet notCall taken same
      · rw [appended, List.drop_left, List.foldl_cons, List.foldl_nil]
        exact .resumed notCall taken appended

/-- A continuation concerns no session that waits for it, or runs in the one that does. -/
theorem resume_cases (state : SystemState Double) (invocation : Invocation Double) :
    (state.resume invocation = state ∧ ∀ id session envelope call continuation,
      invocation.continuation = .request id →
        state.log[id]? = some ⟨session, envelope, .request call continuation⟩ →
          NodeState.stepAnswer state.node session continuation invocation.ec
            invocation.response = none) ∨
    ∃ id session envelope call continuation node,
      invocation.continuation = .request id ∧
        state.log[id]? = some ⟨session, envelope, .request call continuation⟩ ∧
          NodeState.stepAnswer state.node session continuation invocation.ec
            invocation.response = some node ∧
              state.resume invocation = { state with node } := by
  unfold resume
  cases named : invocation.continuation with
  | noHandle => exact Or.inl ⟨rfl, fun _ _ _ _ _ wrong => nomatch wrong⟩
  | request id =>
      dsimp only
      split
      · rename_i session envelope call continuation logged
        cases found : NodeState.stepAnswer state.node session continuation invocation.ec
            invocation.response with
        | none =>
            refine Or.inl ⟨rfl, fun other session' envelope' call' continuation' same logged' => ?_⟩
            cases same
            rw [logged] at logged'
            cases logged'
            exact found
        | some node =>
            exact Or.inr ⟨id, session, envelope, call, continuation, node, rfl, logged, found, rfl⟩
      · rename_i other
        refine Or.inl ⟨rfl, fun id' session envelope call continuation same logged => ?_⟩
        cases same
        exact absurd logged (other session envelope call continuation)

@[simp] theorem resume_search (state : SystemState Double) (invocation : Invocation Double) :
    (state.resume invocation).search = state.search := by
  rcases state.resume_cases invocation with ⟨same, _⟩ | ⟨_, _, _, _, _, _, _, _, _, same⟩
  · rw [same]
  · rw [same]

@[simp] theorem resume_log (state : SystemState Double) (invocation : Invocation Double) :
    (state.resume invocation).log = state.log := by
  rcases state.resume_cases invocation with ⟨same, _⟩ | ⟨_, _, _, _, _, _, _, _, _, same⟩
  · rw [same]
  · rw [same]

/-! ### The search client of a run -/

/-- The search client takes a step or none. -/
theorem Stepped.search_step (stepped : Stepped host external parsers state event next) :
    next.search = state.search ∨ ∃ searchEvent,
      state.search.step host external searchEvent = some next.search ∧
        ∀ id call agent msgId, searchEvent = .call id call agent msgId →
          id = state.log.length ∧ next.log.length = state.log.length + 1 := by
  cases stepped with
  | moved => exact Or.inl rfl
  | @processed session ec buffer node self after action search there read result taken requested =>
      cases action with
      | nothing | send | forward =>
          cases requested
          exact Or.inl rfl
      | request call continuation =>
          refine Or.inr ⟨.call _ call after.publicKey continuation.msgId, requested, ?_⟩
          rintro id call agent msgId same
          cases same
          exact ⟨rfl, List.length_append⟩
  | quiet notCall taken =>
      exact Or.inr ⟨_, taken, fun id call agent msgId same => absurd same (notCall _ _ _ _)⟩
  | resumed notCall taken =>
      refine Or.inr ⟨_, ?_, fun id call agent msgId same => absurd same (notCall _ _ _ _)⟩
      rw [resume_search]
      exact taken

/-- The search client of a run is in a run of its own. -/
theorem run_search {condition : SystemState Double → SystemEvent Double → Prop}
    {client : OefSearchClient} {events : List (SystemEvent Double)}
    (run : RunWithin condition (step host external parsers) (initial client) events state) :
    ∃ searchEvents, Run (SearchState.step host external) (.initial client) searchEvents
      state.search := by
  have matched : ∃ searchEvents search, Run (SearchState.step host external) (.initial client)
      searchEvents search ∧ state.search = search := by
    refine run.simulates (fun state search => state.search = search) rfl ?_
    rintro events state event next search before _ taken rfl
    rcases (stepped_of_step taken).search_step with same | ⟨searchEvent, moved, _⟩
    · exact Or.inl same
    · exact Or.inr ⟨searchEvent, _, trivial, moved, rfl⟩
  obtain ⟨searchEvents, _, searching, rfl⟩ := matched
  exact ⟨searchEvents, searching⟩

/-! ### The handlers of a run -/

/-- The handlers take the step of their event. A step of the search client is one of
the handlers when a continuation runs, and none otherwise. -/
theorem Stepped.node_step (stepped : Stepped host external parsers state event next) :
    (∃ nodeEvent, event = .node nodeEvent ∧ nodeEvent.isAnswer = false ∧
      NodeState.step parsers state.node nodeEvent = some next.node) ∨
    (∃ searchEvent, event = .search searchEvent) ∧ (next.node = state.node ∨
      ∃ nodeEvent, nodeEvent.isAnswer = true ∧
        NodeState.step parsers state.node nodeEvent = some next.node) := by
  cases stepped with
  | moved taken unread notAnswer => exact Or.inl ⟨_, rfl, notAnswer, taken⟩
  | processed there read result taken => exact Or.inl ⟨_, rfl, rfl, taken⟩
  | quiet => exact Or.inr ⟨⟨_, rfl⟩, Or.inl rfl⟩
  | @resumed _ search invocation =>
      refine Or.inr ⟨⟨_, rfl⟩, ?_⟩
      rcases resume_cases { state with search } invocation with
        ⟨same, _⟩ | ⟨id, session, envelope, call, continuation, node, _, _, taken, same⟩
      · rw [same]
        exact Or.inl rfl
      · rw [same]
        exact Or.inr ⟨.answer session continuation invocation.ec invocation.response, rfl, taken⟩

/-- The handlers of a run are in a run of their own, by the same events and the
continuations that were invoked. -/
theorem run_node {condition : SystemState Double → SystemEvent Double → Prop}
    {client : OefSearchClient} {events : List (SystemEvent Double)}
    (run : RunWithin condition (step host external parsers) (initial client) events state) :
    ∃ nodeEvents, Run (NodeState.step parsers) .initial nodeEvents state.node ∧
      (nodeEvents.filter fun event => !event.isAnswer) = events.filterMap SystemEvent.node? := by
  refine run.traceInvariant (fun events state => ∃ nodeEvents,
    Run (NodeState.step parsers) .initial nodeEvents state.node ∧
      (nodeEvents.filter fun event => !event.isAnswer) = events.filterMap SystemEvent.node?)
    ⟨[], .nil, rfl⟩ ?_
  rintro events state event next _ ⟨nodeEvents, run, same⟩ _ taken
  rw [List.filterMap_append, ← same]
  rcases (stepped_of_step taken).node_step with
    ⟨nodeEvent, rfl, notAnswer, moved⟩ | ⟨⟨searchEvent, rfl⟩, still | ⟨nodeEvent, answer, moved⟩⟩
  · refine ⟨nodeEvents ++ [nodeEvent], .snoc run trivial moved, ?_⟩
    rw [List.filter_append, List.filter_cons_of_pos (by rw [notAnswer]; rfl)]
    rfl
  · rw [still]
    exact ⟨nodeEvents, run, (List.append_nil _).symm⟩
  · refine ⟨nodeEvents ++ [nodeEvent], .snoc run trivial moved, ?_⟩
    rw [List.filter_append, List.filter_cons_of_neg (by rw [answer]; exact Bool.noConfusion)]
    rfl

/-! ### Sessions wait for their requests -/

/-- The session that waits for the answer to an envelope, if it asked for something. -/
def waiter (log : List (ProcessedEnvelope Double)) (id : RequestId) :
    Option (SessionId × SessionContinuation) :=
  match log[id]? with
  | some ⟨session, _, .request _ continuation⟩ => some (session, continuation)
  | _ => none

/-- The envelopes whose continuations were not invoked. -/
def unfired (state : SystemState Double) : List RequestId :=
  (List.range state.log.length).filter fun id => state.search.fired id == 0

/-- The requests whose continuations were not invoked, with their sessions. -/
def outstanding (state : SystemState Double) : List (SessionId × SessionContinuation) :=
  state.unfired.filterMap (waiter state.log)

/-- The sessions wait for exactly the requests whose continuations were not invoked. -/
structure Waiting (state : SystemState Double) : Prop where
  requests : state.node.requests.Perm state.outstanding
  asked : ∀ id, state.search.issued id ≠ none → waiter state.log id ≠ none
  present : ∀ processed ∈ state.log, state.node.session processed.session ≠ none

/-- What a session waits for after an action. -/
def waits (session : SessionId) : SessionAction Double → List (SessionId × SessionContinuation)
  | .request _ continuation => [(session, continuation)]
  | _ => []

theorem waiter_concat (log : List (ProcessedEnvelope Double)) (last : ProcessedEnvelope Double) :
    (waiter (log ++ [last]) log.length).toList = waits last.session last.action := by
  rw [waiter, List.getElem?_concat_length]
  obtain ⟨session, envelope, action⟩ := last
  cases action with
  | nothing | request | send | forward => rfl

theorem waiter_append {log : List (ProcessedEnvelope Double)} {last : ProcessedEnvelope Double}
    {id : RequestId} (below : id < log.length) : waiter (log ++ [last]) id = waiter log id := by
  rw [waiter, waiter, List.getElem?_append_left below]

/-- A request is waited for with the session and the continuation in its envelope. -/
theorem waiter_eq_some {log : List (ProcessedEnvelope Double)} {id : RequestId}
    {session : SessionId} {continuation : SessionContinuation} :
    waiter log id = some (session, continuation) ↔
      ∃ envelope call, log[id]? = some ⟨session, envelope, .request call continuation⟩ := by
  constructor
  · intro there
    unfold waiter at there
    split at there
    · rename_i session envelope call continuation logged
      cases there
      exact ⟨envelope, call, logged⟩
    · cases there
  · rintro ⟨envelope, call, logged⟩
    rw [waiter, logged]

theorem waiter_below {log : List (ProcessedEnvelope Double)} {id : RequestId}
    (waited : waiter log id ≠ none) : id < log.length := by
  by_contra beyond
  apply waited
  rw [waiter, List.getElem?_eq_none (Nat.le_of_not_lt beyond)]

/-- An envelope that is processed is waited for if it asks for something. -/
theorem outstanding_concat {log : List (ProcessedEnvelope Double)}
    {last : ProcessedEnvelope Double} (logged : next.log = log ++ [last]) (before : state.log = log)
    (fired : ∀ id, next.search.fired id = state.search.fired id)
    (fresh : state.search.fired log.length = 0) :
    next.outstanding = state.outstanding ++ waits last.session last.action := by
  have ids : next.unfired = state.unfired ++ [log.length] := by
    rw [unfired, unfired, logged, before, List.length_append, List.length_singleton,
      List.range_succ, List.filter_append]
    simp only [fired, fresh, List.filter_cons, List.filter_nil, BEq.rfl, ↓reduceIte]
  have earlier : state.unfired.filterMap (waiter (log ++ [last])) = state.outstanding := by
    rw [outstanding, before]
    apply List.filterMap_congr
    intro id member
    have below := List.mem_range.mp (List.mem_of_mem_filter member)
    exact waiter_append (before ▸ below)
  rw [outstanding, ids, logged, List.filterMap_append, earlier, ← waiter_concat]
  congr 1

/-- A request whose continuation is invoked is not waited for any more. -/
theorem outstanding_fired {id : RequestId} (logged : next.log = state.log)
    (unfired : state.search.fired id = 0)
    (fired : ∀ other, next.search.fired other =
      state.search.fired other + if id = other then 1 else 0) (below : id < state.log.length) :
    state.outstanding.Perm ((waiter state.log id).toList ++ next.outstanding) := by
  have member : id ∈ state.unfired := by
    apply List.mem_filter.mpr
    exact ⟨List.mem_range.mpr below, beq_iff_eq.mpr unfired⟩
  have ids : next.unfired = state.unfired.erase id := by
    have distinct : state.unfired.Nodup := List.nodup_range.filter _
    rw [distinct.erase_eq_filter, SystemState.unfired, SystemState.unfired, logged,
      List.filter_filter]
    apply List.filter_congr
    intro other _
    rw [fired]
    by_cases same : id = other
    · subst same
      simp
    · simp [same, Ne.symm same]
  have moved := (List.perm_cons_erase member).filterMap (waiter state.log)
  rw [← ids] at moved
  rw [outstanding, outstanding, logged]
  refine moved.trans (List.Perm.of_eq ?_)
  cases there : waiter state.log id with
  | none => exact List.filterMap_cons_none there
  | some pair => exact List.filterMap_cons_some there

/-! ### What a handler does to requests and sessions -/

/-- Only a session that asks for something, or gets its answer, changes what is waited
for. -/
theorem requests_eq {node after : NodeState Double} {event : NodeEvent Double}
    (stepped : NodeState.Stepped parsers node event after) (unread : event.envelopeRead = none)
    (notAnswer : event.isAnswer = false) : after.requests = node.requests := by
  cases stepped with
  | requested _ _ read =>
      rw [NodeEvent.envelopeRead, read] at unread
      cases unread
  | searchAnswered => cases notAnswer
  | accepted | unidentified | identified | phraseSent | failureSent | unanswered | added | rejected
    | started | statusSent | ended | processed | answering | forwarding | answerSent | forwarded
    | written => rfl

/-- The read of an envelope changes its session, and what the session waits for. -/
theorem read_effect {node after : NodeState Double} {session : SessionId} {ec : ErrorCode}
    {buffer : Buffer} {self changed : AgentSession Double} {action : SessionAction Double}
    (stepped : NodeState.Stepped parsers node (.read session ec buffer) after)
    (there : node.session session = some self) (read : ec.failed = false)
    (result : AgentSession.process parsers.envelope node.directory self buffer =
      (changed, action)) :
    after.requests = node.requests ++ waits session action ∧
      after.session = Function.update node.session session (some changed) := by
  cases stepped with
  | ended _ _ failed =>
      rw [read] at failed
      cases failed
  | processed _ current _ processing | answering _ current _ processing
    | forwarding _ current _ processing =>
      rw [there] at current
      cases current
      cases result.symm.trans processing
      exact ⟨(List.append_nil _).symm, rfl⟩
  | requested _ current _ processing =>
      rw [there] at current
      cases current
      cases result.symm.trans processing
      exact ⟨rfl, rfl⟩

/-- A session that is waited for is there, and stays. -/
theorem session_kept {node after : NodeState Double} {event : NodeEvent Double}
    (stepped : NodeState.Stepped parsers node event after) (constructed : node.Constructed)
    {session : SessionId} (present : node.session session ≠ none) :
    after.session session ≠ none := by
  obtain ⟨self, there⟩ := Option.ne_none_iff_exists'.mp present
  obtain ⟨changed, here, _⟩ := stepped.session_publicKey constructed there
  rw [here]
  exact Option.some_ne_none changed

/-! ### One step keeps sessions waiting -/

/-- An invocation finds the session that made the request waiting for it. -/
theorem Waiting.waits (waiting : state.Waiting) {id : RequestId} {session : SessionId}
    {envelope : Envelope Double} {call : SearchCall Double} {continuation : SessionContinuation}
    (logged : state.log[id]? = some ⟨session, envelope, .request call continuation⟩)
    (unfired : state.search.fired id = 0) :
    (∃ self, state.node.session session = some self) ∧
      (session, continuation) ∈ state.node.requests := by
  constructor
  · exact Option.ne_none_iff_exists'.mp
      (waiting.present ⟨session, envelope, _⟩ (List.mem_of_getElem? logged))
  · obtain ⟨below, _⟩ := List.getElem?_eq_some_iff.mp logged
    apply waiting.requests.symm.subset
    apply List.mem_filterMap.mpr
    refine ⟨id, ?_, waiter_eq_some.mpr ⟨envelope, call, logged⟩⟩
    exact List.mem_filter.mpr ⟨List.mem_range.mpr below, beq_iff_eq.mpr unfired⟩

/-- An envelope is processed. -/
theorem Waiting.processed (waiting : state.Waiting) (once : state.search.Once)
    (constructed : state.node.Constructed) {session : SessionId} {ec : ErrorCode}
    {buffer : Buffer} {node : NodeState Double} {self after : AgentSession Double}
    {action : SessionAction Double} {search : SearchState Double}
    (there : state.node.session session = some self) (read : ec.failed = false)
    (result : AgentSession.process parsers.envelope state.node.directory self buffer =
      (after, action))
    (taken : NodeState.step parsers state.node (.read session ec buffer) = some node)
    (requested : CoreState.requestSearch host external state.search state.log.length
      after.publicKey action = some search) (envelope : Envelope Double) :
    Waiting { node, search, log := state.log ++ [⟨session, envelope, action⟩] } where
  requests := by
    have fresh : state.search.fired state.log.length = 0 := by
      by_contra fired
      obtain ⟨request, failure, issued⟩ := once.handled _ fired
      exact Nat.lt_irrefl _ (waiter_below (waiting.asked _ (issued ▸ Option.some_ne_none _)))
    have fired : ∀ id, search.fired id = state.search.fired id := fun id =>
      SearchState.fired_of_invoked id (CoreState.requestSearch_invoked requested)
    have grown := @outstanding_concat _ state
      { node, search, log := state.log ++ [⟨session, envelope, action⟩] } state.log
      ⟨session, envelope, action⟩ rfl rfl fired fresh
    rw [grown, (read_effect (NodeState.stepped_of_step taken) there read result).1]
    exact waiting.requests.append_right _
  asked id issued := by
    have kept : waiter state.log id ≠ none →
        waiter (state.log ++ [⟨session, envelope, action⟩]) id ≠ none := by
      intro waited
      rwa [waiter_append (waiter_below waited)]
    cases action with
    | nothing | send | forward =>
        cases requested
        exact kept (waiting.asked id issued)
    | request call continuation =>
        have moved : state.search.step host external
            (.call state.log.length call after.publicKey continuation.msgId) = some search :=
          requested
        obtain ⟨⟨request, write⟩, found⟩ := Option.ne_none_iff_exists'.mp issued
        rcases (SearchState.stepped_of_step moved).issued_origin found with
          ⟨before, earlier⟩ | ⟨_, _, _, _, _, called, _⟩
        · exact kept (waiting.asked id (earlier ▸ Option.some_ne_none _))
        · cases called
          have waited := waiter_concat state.log ⟨session, envelope, .request call continuation⟩
          intro nobody
          rw [nobody] at waited
          cases waited
  present processed member := by
    have present : state.node.session processed.session ≠ none := by
      rcases List.mem_append.mp member with earlier | now
      · exact waiting.present processed earlier
      · rw [List.mem_singleton.mp now, there]
        exact Option.some_ne_none self
    exact session_kept (NodeState.stepped_of_step taken) constructed present

/-- A session goes on with what the continuation of its request is invoked with. -/
def answered (node : NodeState Double) (session : SessionId) (waiter : AgentSession Double)
    (continuation : SessionContinuation) (ec : ErrorCode) (response : OefSearchResponse Double) :
    NodeState Double :=
  ({ node with requests := node.requests.erase (session, continuation) }.setSession session
    (waiter.answered continuation ec response).1).send session .search
      ((waiter.answered continuation ec response).2.map .agentMessage)

/-- The search client invokes the continuation of a request. -/
structure Resumes (state : SystemState Double) (id : RequestId) (session : SessionId)
    (waiter : AgentSession Double) (continuation : SessionContinuation) : Prop where
  asked : SystemState.waiter state.log id = some (session, continuation)
  unfired : state.search.fired id = 0
  waiting : state.node.session session = some waiter
  requested : (session, continuation) ∈ state.node.requests

/-- Only a call issues a request. -/
theorem issued_earlier {before after : SearchState Double} {event : SearchEvent Double}
    (taken : before.step host external event = some after)
    (notCall : ∀ id call agent msgId, event ≠ .call id call agent msgId) {id : RequestId}
    (issued : after.issued id ≠ none) : before.issued id ≠ none := by
  obtain ⟨⟨request, write⟩, found⟩ := Option.ne_none_iff_exists'.mp issued
  obtain ⟨_, earlier⟩ := (SearchState.stepped_of_step taken).issued_of_notCall notCall found
  exact earlier ▸ Option.some_ne_none _

/-- An invocation concerns no session, or the session that waits for it goes on. -/
theorem Waiting.resume_eq (waiting : state.Waiting) {search : SearchState Double}
    {invocation : Invocation Double}
    (appended : search.invoked = state.search.invoked ++ [invocation])
    (issued : ∀ id, search.issued id ≠ none → state.search.issued id ≠ none)
    (once : search.Once) :
    ((∃ smsgId, invocation.continuation = .noHandle smsgId) ∧
      resume { state with search } invocation = { state with search }) ∨
    ∃ id session waiter continuation, invocation.continuation = .request id ∧
      Resumes state id session waiter continuation ∧
        resume { state with search } invocation = { state with
          search
          node := answered state.node session waiter continuation invocation.ec
            invocation.response } := by
  cases named : invocation.continuation with
  | noHandle smsgId =>
      left
      refine ⟨⟨smsgId, rfl⟩, ?_⟩
      rw [resume, named]
  | request id =>
      right
      have now : search.fired id = state.search.fired id + 1 := by
        rw [SearchState.fired_append appended, if_pos named]
      have most : search.fired id ≤ 1 := once.most id
      have unfired : state.search.fired id = 0 := by omega
      obtain ⟨request, ec, handled⟩ := once.handled id (by omega)
      have asked := waiting.asked id (issued id (handled ▸ Option.some_ne_none _))
      obtain ⟨⟨session, continuation⟩, waited⟩ := Option.ne_none_iff_exists'.mp asked
      obtain ⟨envelope, call, logged⟩ := waiter_eq_some.mp waited
      obtain ⟨⟨self, there⟩, requested⟩ := waiting.waits logged unfired
      refine ⟨id, session, self, continuation, rfl, ⟨waited, unfired, there, requested⟩, ?_⟩
      simp only [resume, named, logged,
        NodeState.stepAnswer_of_waiting there requested invocation.ec invocation.response]
      rfl

/-- The continuation of a request runs, or one that concerns no session. -/
theorem Waiting.resumed (waiting : state.Waiting) {search : SearchState Double}
    {invocation : Invocation Double}
    (appended : search.invoked = state.search.invoked ++ [invocation])
    (issued : ∀ id, search.issued id ≠ none → state.search.issued id ≠ none)
    (once : search.Once) : (resume { state with search } invocation).Waiting := by
  have more : ∀ id, search.fired id = state.search.fired id +
      if invocation.continuation = .request id then 1 else 0 :=
    fun id => SearchState.fired_append appended
  have asked : ∀ id, search.issued id ≠ none → waiter state.log id ≠ none :=
    fun id there => waiting.asked id (issued id there)
  rcases waiting.resume_eq appended issued once with
    ⟨⟨smsgId, named⟩, same⟩ | ⟨id, session, self, continuation, named, resumes, same⟩
  · rw [same]
    have unchanged : ∀ id, search.fired id = state.search.fired id := by
      intro id
      rw [more, named, if_neg (fun wrong => nomatch wrong), Nat.add_zero]
    refine ⟨waiting.requests.trans (.of_eq ?_), asked, waiting.present⟩
    simp only [outstanding, unfired, unchanged]
  · rw [same]
    have fired : ∀ other, search.fired other =
        state.search.fired other + if id = other then 1 else 0 := by
      intro other
      rw [more, named]
      simp only [AgentSessionContinuation.request.injEq]
    have below := waiter_below (resumes.asked ▸ Option.some_ne_none _)
    have moved : state.outstanding.Perm
        ((waiter state.log id).toList ++ outstanding { state with search }) :=
      outstanding_fired rfl resumes.unfired fired below
    rw [resumes.asked] at moved
    have rest := (waiting.requests.trans moved).erase (session, continuation)
    rw [Option.toList_some, List.singleton_append, List.erase_cons_head] at rest
    exact ⟨rest, asked, fun processed member =>
      CoreState.sessions_update_ne_none (waiting.present processed member) _ _⟩

theorem Waiting.step (waiting : state.Waiting) (constructed : state.node.Constructed)
    (once : state.search.Once) (onceAfter : next.search.Once)
    (stepped : Stepped host external parsers state event next) : next.Waiting := by
  cases stepped with
  | moved taken unread notAnswer =>
      have stepped := NodeState.stepped_of_step taken
      refine ⟨?_, waiting.asked, fun processed member =>
        session_kept stepped constructed (waiting.present processed member)⟩
      rw [requests_eq stepped unread notAnswer]
      exact waiting.requests
  | processed there read result taken requested =>
      exact waiting.processed once constructed there read result taken requested _
  | quiet notCall taken same =>
      refine ⟨?_, fun id issued => ?_, waiting.present⟩
      · have unchanged : ∀ id, _ := fun id => SearchState.fired_of_invoked id same
        simp only [outstanding, unfired, unchanged]
        exact waiting.requests
      · exact waiting.asked id (issued_earlier taken notCall issued)
  | @resumed _ search invocation notCall taken appended =>
      rw [resume_search] at onceAfter
      exact waiting.resumed appended (fun _ => issued_earlier taken notCall) onceAfter

variable {events : List (SystemEvent Double)}

theorem run_once {condition : SystemState Double → SystemEvent Double → Prop}
    {client : OefSearchClient} (empty : client.handles = ∅)
    (run : RunWithin condition (SystemState.step host external parsers) (initial client) events
      state) : state.search.Once := by
  obtain ⟨searchEvents, searching⟩ := run_search run
  exact SearchState.run_once empty searching

theorem waiting_initial (client : OefSearchClient) :
    (initial client : SystemState Double).Waiting where
  requests := List.Perm.refl []
  asked _ issued := absurd rfl issued
  present _ member := absurd member List.not_mem_nil

theorem run_waits {condition : SystemState Double → SystemEvent Double → Prop}
    {client : OefSearchClient} (empty : client.handles = ∅)
    (run : RunWithin condition (SystemState.step host external parsers) (initial client) events
      state) : state.Waiting := by
  refine run.traceInvariant (fun _ state => state.Waiting) (waiting_initial client) ?_
  intro events state event next run waiting allowed taken
  obtain ⟨nodeEvents, handlers, _⟩ := run_node run
  exact waiting.step (NodeState.run_constructed handlers) (run_once empty run)
    (run_once empty (.snoc run allowed taken)) (stepped_of_step taken)

/-- **No answer is lost on the way to its session.** In every state that is reached, the
sessions wait for exactly the requests whose continuations were not invoked. So a step of
the search client either leaves all handlers alone, having invoked the continuation of no
request, or it invokes that of one request, for the first time, and the session that made
the request goes on. -/
theorem run_waiting {coreId coreIpAddr : String} {corePort : UInt32}
    (run : Run (SystemState.step host external parsers)
      (initial (.make coreId coreIpAddr corePort)) events state) :
    state.node.requests.Perm state.outstanding ∧
    ∀ searchEvent next,
      SystemState.step host external parsers state (.search searchEvent) = some next →
        (next.node = state.node ∧ ∀ id, next.search.fired id = state.search.fired id) ∨
        ∃ id session waiter continuation ec response,
          Resumes state id session waiter continuation ∧ next.search.fired id = 1 ∧
            next.node = answered state.node session waiter continuation ec response := by
  have waiting := run_waits rfl run
  refine ⟨waiting.requests, fun searchEvent next taken => ?_⟩
  have onceAfter := run_once rfl (.snoc run trivial taken)
  cases stepped_of_step taken with
  | quiet _ _ same => exact Or.inl ⟨rfl, fun id => SearchState.fired_of_invoked id same⟩
  | @resumed _ search invocation notCall moved appended =>
      rw [resume_search] at onceAfter
      rcases waiting.resume_eq appended (fun _ => issued_earlier moved notCall) onceAfter with
        ⟨⟨smsgId, named⟩, same⟩ | ⟨id, session, self, continuation, named, resumes, same⟩
      · rw [same]
        refine Or.inl ⟨rfl, fun id => ?_⟩
        have more : search.fired id = _ := SearchState.fired_append appended
        rwa [named, if_neg (fun wrong => nomatch wrong), Nat.add_zero] at more
      · rw [same]
        refine Or.inr ⟨id, session, self, continuation, _, _, resumes, ?_, rfl⟩
        have more : search.fired id = _ := SearchState.fired_append appended
        rwa [named, if_pos rfl, resumes.unfired] at more

/-! ### A search of "a" -/

/-- The parsers of a handshake and of short envelopes. -/
def shortParsers : NodeParsers Int where
  toHandshakeParsers := ServerState.shortParsers
  envelope := CoreState.shortEnvelope

/-- A step of a concrete core. -/
def shortStep : SystemState Int → SystemEvent Int → Option (SystemState Int) :=
  step .little SearchState.shortExternal shortParsers

/-- "a" connects. -/
def connect : List (SystemEvent Int) :=
  [.node (.accept 0), .node (.receiveId 0 .success [0x0a, 0x01, 0x61]), .node (.handshake 0),
    .node (.receiveAnswer 0 .success [0x0a, 0x01, 0x62]), .node (.handshake 0),
    .node (.handshake 0)]

/-- It searches for services under its message id 1. -/
def searchServices : SystemEvent Int :=
  .node (.read 0 .success [0x08, 0x01, 0x3a, 0x02, 0x0a, 0x00])

def afterSearch : SystemState Int :=
  (execute shortStep (initial SearchState.pluto) (connect ++ [searchServices])).getD
    (initial SearchState.pluto)

theorem executed_search : execute shortStep (initial SearchState.pluto)
    (connect ++ [searchServices]) = some afterSearch := rfl

/-- The session of "a" waits for the answer. -/
theorem run_waiting_search :
    [((0 : SessionId), (⟨.searchService, 1⟩ : SessionContinuation))].Perm
      afterSearch.outstanding :=
  (run_waiting (run_of_execute executed_search)).1

end SystemState

end OefCore
