import OefCore.Lib.Resting
import OefCore.Server.System

/-! # The core comes to rest

What the core does without a further connection, or a further message of an agent or of
the search service: it goes on with the handlers it has begun, and its writes end, with
any result. None of this keeps the core busy for ever. Whatever the order, there are at
most as many such steps as there is work left (`OefCore.SystemState.work`), and afterwards
the core only waits: every handshake for its agent, every session for its next envelope,
and every request without an answer for the search service, to which it was sent
(`OefCore.SystemState.run_rest`).
-/

namespace OefCore

variable {Double : Type}

/-! ### The work that is left -/

/-- The steps of a handshake until it waits for its agent or is over. -/
def HandshakeStage.work : HandshakeStage → Nat
  | .replying _ _ => 1
  | .added _ _ => 2
  | .confirming _ _ _ => 1
  | .awaitId | .awaitAnswer _ | .confirmed _ | .closed => 0

/-- The steps until a session reads again, and the write of what it sends. -/
def ReadLoop.work : ReadLoop Double → Nat
  | .idle | .reading => 0
  | .answering _ => 1
  | .forwarding _ _ _ => 2

/-- The steps until the write of a request is handled. -/
def WriteState.work : WriteState → Nat
  | .writing => 2
  | .written => 1
  | .handled _ => 0

/-- The steps until a message of the search service is processed. -/
def Processing.work (processing : Processing) : Nat := if processing.erased then 1 else 2

/-- A handshake waits for a message of its agent, or is over. -/
inductive HandshakeStage.Waits : HandshakeStage → Prop where
  | awaitId : Waits .awaitId
  | awaitAnswer {publicKey : String} : Waits (.awaitAnswer publicKey)
  | confirmed {publicKey : String} : Waits (.confirmed publicKey)
  | closed : Waits .closed

/-- Steps that need no message of an agent or of the search service. -/
def SystemEvent.Internal : SystemEvent Double → Prop
  | .node (.handshake _) | .node (.deliver _) | .node (.written _ _ _ _) => True
  | .search (.written _) | .search (.sent _ _) | .search .erase | .search .invoke => True
  | _ => False

/-- The connection that an event accepts. -/
def SystemEvent.accepts : SystemEvent Double → Option SessionId
  | .node (.accept connection) => some connection
  | _ => none

namespace NodeState

def stageWork (stage : Option HandshakeStage) : Nat := stage.elim 0 HandshakeStage.work

/-- The work left for the handlers of some connections. -/
def work (connections : Finset SessionId) (state : NodeState Double) : Nat :=
  ∑ connection ∈ connections, stageWork (state.stage connection) +
    ∑ connection ∈ connections, (state.readLoop connection).work + state.writes.length

end NodeState

namespace SearchState

def issuedWork (issued : Option (Issued Double)) : Nat := issued.elim 0 fun issued =>
  issued.write.work

def processingWork (processing : Option Processing) : Nat := processing.elim 0 Processing.work

/-- The work left for the first requests. -/
def work (requests : Nat) (state : SearchState Double) : Nat :=
  ∑ id ∈ Finset.range requests, issuedWork (state.issued id) + processingWork state.processing

end SearchState

namespace SystemState

/-- The connections that were accepted. -/
def connections (events : List (SystemEvent Double)) : Finset SessionId :=
  (events.filterMap SystemEvent.accepts).toFinset

/-- The work left for some connections. -/
def work (connections : Finset SessionId) (state : SystemState Double) : Nat :=
  state.node.work connections + state.search.work state.log.length

/-- The core only waits. -/
structure AtRest (state : SystemState Double) : Prop where
  handshakes : ∀ connection stage, state.node.stage connection = some stage → stage.Waits
  sessions : ∀ session, state.node.readLoop session = .idle ∨
    state.node.readLoop session = .reading
  writes : state.node.writes = []
  requests : ∀ id request write, state.search.issued id = some ⟨request, write⟩ →
    ∃ ec, write = .handled ec
  processing : state.search.processing = none

end SystemState

/-! ### Every internal step uses up work -/

namespace NodeState

variable {parsers : NodeParsers Double} {state next : NodeState Double} {event : NodeEvent Double}
  {connections : Finset SessionId}

/-- The work left when a handshake moves to another stage. -/
theorem work_setStage (state : NodeState Double) {connection : SessionId}
    (inside : connection ∈ connections) (stage : HandshakeStage) :
    (state.setStage connection stage).work connections + stageWork (state.stage connection) =
      state.work connections + stage.work := by
  have moved := sum_weight_update connections stageWork state.stage inside (some stage)
  change _ = _ + stage.work at moved
  change ∑ other ∈ connections,
      stageWork (Function.update state.stage connection (some stage) other) +
    ∑ other ∈ connections, (state.readLoop other).work + state.writes.length + _ = _
  rw [work]
  omega

theorem work_setReadLoop (state : NodeState Double) {session : SessionId}
    (inside : session ∈ connections) (readLoop : ReadLoop Double) :
    (state.setReadLoop session readLoop).work connections + (state.readLoop session).work =
      state.work connections + readLoop.work := by
  have moved := sum_weight_update connections ReadLoop.work state.readLoop inside readLoop
  change ∑ other ∈ connections, stageWork (state.stage other) +
    ∑ other ∈ connections, (Function.update state.readLoop session readLoop other).work +
      state.writes.length + _ = _
  rw [work]
  omega

theorem work_writes (state : NodeState Double) (writes : List (SessionId × MessageContinuation)) :
    { state with writes }.work connections + state.writes.length =
      state.work connections + writes.length := by
  rw [work, work]
  dsimp only
  omega

/-- A handler goes on, or a write ends. -/
theorem Stepped.work_lt (stepped : Stepped parsers state event next)
    (inner : (SystemEvent.node event).Internal)
    (staged : ∀ connection, state.stage connection ≠ none → connection ∈ connections)
    (looping : ∀ session, state.readLoop session ≠ .idle → session ∈ connections) :
    next.work connections < state.work connections := by
  have inside : ∀ {connection : SessionId} {stage : HandshakeStage},
      state.stage connection = some stage → connection ∈ connections :=
    fun there => staged _ (there ▸ Option.some_ne_none _)
  cases stepped with
  | accepted | unidentified | identified | unanswered | added | rejected | ended | processed
    | requested | answering | forwarding | searchAnswered => exact inner.elim
  | @phraseSent connection publicKey phrase replying =>
      have moved := (state.send connection .handshake [.phrase (.phrase phrase)]).work_setStage
        (inside replying) (.awaitAnswer publicKey)
      rw [show NodeState.stage (send _ _ _ _) connection = _ from replying] at moved
      change _ + 1 = state.work connections + 0 at moved
      omega
  | @failureSent connection publicKey replying =>
      have moved := (state.send connection .handshake [.phrase .failure]).work_setStage
        (inside replying) .closed
      rw [show NodeState.stage (send _ _ _ _) connection = _ from replying] at moved
      change _ + 1 = state.work connections + 0 at moved
      omega
  | @started connection publicKey reply there =>
      have reads := state.work_setReadLoop (inside there) .reading
      have moved := (state.setReadLoop connection .reading).work_setStage (inside there)
        (.confirming publicKey true reply)
      rw [show NodeState.stage (setReadLoop _ _ _) connection = _ from there] at moved
      change _ + 2 = _ + 1 at moved
      change _ + _ = _ + 0 at reads
      omega
  | @statusSent connection publicKey added reply confirming =>
      have moved := (state.send connection .handshake [.connected reply]).work_setStage
        (inside confirming) (if added then .confirmed publicKey else .closed)
      have finished : (if added then HandshakeStage.confirmed publicKey else .closed).work = 0 := by
        cases added <;> rfl
      rw [show NodeState.stage (send _ _ _ _) connection = _ from confirming, finished] at moved
      change _ + 1 = state.work connections + 0 at moved
      omega
  | @answerSent session answer answering =>
      have here := looping session (by rw [answering]; intro idle; cases idle)
      have moved := (state.send session (.envelope session)
        [.agentMessage answer]).work_setReadLoop here .reading
      rw [show NodeState.readLoop (send _ _ _ _) session = _ from answering] at moved
      change _ + 1 = state.work connections + 0 at moved
      omega
  | @forwarded session target message continuation forwarding =>
      have here := looping session (by rw [forwarding]; intro idle; cases idle)
      have moved := { state.send target (.envelope session) [.agentMessage message] with
        writes := state.writes ++ [(session, continuation)] }.work_setReadLoop here .reading
      have more : { state.send target (.envelope session) [.agentMessage message] with
          writes := state.writes ++ [(session, continuation)] }.work connections +
            state.writes.length =
          state.work connections + (state.writes ++ [(session, continuation)]).length :=
        (state.send target (.envelope session) [.agentMessage message]).work_writes _
      rw [List.length_append, List.length_singleton] at more
      rw [show NodeState.readLoop { send _ _ _ _ with writes := _ } session = _ from
        forwarding] at moved
      change _ + 2 = _ + 0 at moved
      omega
  | @written session continuation ec length waiting =>
      have shorter := List.length_erase_of_mem waiting
      have positive := List.length_pos_of_mem waiting
      have fewer := @work_writes _ connections state (state.writes.erase (session, continuation))
      omega

/-- A connection that is there was accepted. -/
theorem Stepped.stage_origin (stepped : Stepped parsers state event next)
    {connection : SessionId} (there : next.stage connection ≠ none) :
    state.stage connection ≠ none ∨ event = .accept connection := by
  have moved : ∀ {base : NodeState Double} {other : SessionId} {before after : HandshakeStage},
      base.stage = state.stage → state.stage other = some before →
        (base.setStage other after).stage connection ≠ none →
          state.stage connection ≠ none ∨ event = .accept connection := by
    intro base other before after same here there
    rw [setStage_stage] at there
    split at there
    · rename_i itself
      exact Or.inl (itself ▸ here ▸ Option.some_ne_none _)
    · exact Or.inl (same ▸ there)
  cases stepped with
  | @accepted other fresh =>
      rw [setStage_stage] at there
      split at there
      · rename_i itself
        rw [itself]
        exact Or.inr rfl
      · exact Or.inl there
  | unidentified here | identified here | phraseSent here | failureSent here | unanswered here
    | added here | rejected here | started here | statusSent here => exact moved rfl here there
  | ended | processed | requested | answering | forwarding | answerSent | forwarded | written
    | searchAnswered => exact Or.inl there

end NodeState

namespace SearchState

variable {host : ByteOrder} {external : External Double} {state next : SearchState Double}
  {event : SearchEvent Double} {requests : Nat}

/-- The work left when the write of a request gets further. -/
theorem sum_issued_update (state : SearchState Double) {id : RequestId} (below : id < requests)
    (issued : Issued Double) :
    ∑ other ∈ Finset.range requests,
        issuedWork (Function.update state.issued id (some issued) other) +
        issuedWork (state.issued id) =
      ∑ other ∈ Finset.range requests, issuedWork (state.issued other) + issued.write.work :=
  sum_weight_update _ issuedWork state.issued (Finset.mem_range.mpr below) (some issued)

/-- A write gets further, or the processing of a message. -/
theorem Stepped.work_lt (stepped : Stepped host external state event next)
    (inner : (SystemEvent.search event).Internal)
    (numbered : ∀ id, state.issued id ≠ none → id < requests) :
    next.work requests < state.work requests := by
  have below : ∀ {id : RequestId} {issued : Issued Double},
      state.issued id = some issued → id < requests :=
    fun found => numbered _ (found ▸ Option.some_ne_none _)
  cases stepped with
  | called | unread | dropped | received => exact inner.elim
  | @written id request found =>
      have moved := state.sum_issued_update (below found) ⟨request, .written⟩
      rw [found] at moved
      change _ + 2 = _ + 1 at moved
      rw [work, work]
      dsimp only
      omega
  | @sendFailed id request ec found =>
      have moved := state.sum_issued_update (below found) ⟨request, .handled ec⟩
      rw [found] at moved
      change _ + 2 = _ + 0 at moved
      rw [work, work]
      dsimp only
      omega
  | @sendSucceeded id request ec found =>
      have moved := state.sum_issued_update (below found) ⟨request, .handled ec⟩
      rw [found] at moved
      change _ + 1 = _ + 0 at moved
      rw [work, work]
      dsimp only
      omega
  | erased found =>
      rw [work, work, found]
      exact Nat.lt_succ_self _
  | invoked found =>
      rw [work, work, found]
      exact Nat.lt_succ_self _

/-- A request whose write failed has its continuation invoked. -/
def Reported (state : SearchState Double) : Prop :=
  ∀ id request ec, state.issued id = some ⟨request, .handled ec⟩ → ec.failed = true →
    state.fired id ≠ 0

theorem Reported.step (reported : state.Reported) (sound : state.Sound)
    (stepped : Stepped host external state event next) : next.Reported := by
  intro id request ec handled failed
  have more : state.fired id ≤ next.fired id := by
    rcases stepped.invoked_cases with same | ⟨_, appended, _⟩
    · exact (fired_of_invoked id same).ge
    · rw [fired_append appended]
      exact Nat.le_add_right _ _
  have earlier : state.issued id = some ⟨request, .handled ec⟩ → next.fired id ≠ 0 := by
    intro found
    have once := reported id request ec found failed
    omega
  have elsewhere : ∀ {other : RequestId} {issued : Issued Double}, id ≠ other →
      Function.update state.issued other (some issued) id = some ⟨request, .handled ec⟩ →
        next.fired id ≠ 0 := by
    intro other issued different handled
    rw [Function.update_of_ne different] at handled
    exact earlier handled
  cases stepped with
  | @called other operation agent msgId fresh =>
      by_cases same : id = other
      · subst same
        cases (Function.update_self id _ state.issued).symm.trans handled
      · exact elsewhere same handled
  | @written other request' found =>
      by_cases same : id = other
      · subst same
        cases (Function.update_self id _ state.issued).symm.trans handled
      · exact elsewhere same handled
  | @sendFailed other request' ec' found =>
      by_cases same : id = other
      · subst same
        rw [fired, List.countP_append, List.countP_singleton, sound.continuation id _ _ found,
          if_pos (beq_self_eq_true _)]
        exact Nat.succ_ne_zero _
      · exact elsewhere same handled
  | @sendSucceeded other request' ec' found succeeded =>
      by_cases same : id = other
      · subst same
        cases (Function.update_self id _ state.issued).symm.trans handled
        rw [succeeded] at failed
        cases failed
      · exact elsewhere same handled
  | unread | dropped | received | erased | invoked => exact earlier handled

theorem run_reported {condition : SearchState Double → SearchEvent Double → Prop}
    {client : OefSearchClient} (empty : client.handles = ∅) {events : List (SearchEvent Double)}
    (run : RunWithin condition (step host external) (initial client) events state) :
    state.Reported := by
  refine run.traceInvariant (fun _ state => state.Reported) ?_ ?_
  · intro id request ec handled
    cases handled
  · intro events state event next run reported _ taken
    exact reported.step (run_sound empty run) (stepped_of_step taken)

end SearchState

namespace SystemState

variable {host : ByteOrder} {external : External Double} {parsers : NodeParsers Double}
  {state next : SystemState Double} {event : SystemEvent Double}
  {events : List (SystemEvent Double)}

/-- A continuation moves no handshake, read loop or write. -/
theorem resume_kept (state : SystemState Double) (invocation : Invocation Double) :
    (state.resume invocation).node.stage = state.node.stage ∧
      (state.resume invocation).node.readLoop = state.node.readLoop ∧
        (state.resume invocation).node.writes = state.node.writes := by
  rcases state.resume_cases invocation with
    ⟨same, _⟩ | ⟨id, session, envelope, call, continuation, node, _, _, taken, same⟩
  · rw [same]
    exact ⟨rfl, rfl, rfl⟩
  · rw [same]
    unfold NodeState.stepAnswer at taken
    split at taken
    · split at taken
      · cases taken
        exact ⟨rfl, rfl, rfl⟩
      · cases taken
    · cases taken

/-- An internal step is one of the handlers, or of the search client. -/
theorem Stepped.internal_cases (stepped : Stepped host external parsers state event next)
    (inner : event.Internal) :
    (∃ nodeEvent, event = .node nodeEvent ∧
      NodeState.step parsers state.node nodeEvent = some next.node ∧
        next.search = state.search ∧ next.log = state.log) ∨
    ∃ searchEvent, event = .search searchEvent ∧
      state.search.step host external searchEvent = some next.search ∧ next.log = state.log ∧
        next.node.stage = state.node.stage ∧ next.node.readLoop = state.node.readLoop ∧
          next.node.writes = state.node.writes := by
  cases stepped with
  | moved taken => exact Or.inl ⟨_, rfl, taken, rfl, rfl⟩
  | processed => exact inner.elim
  | quiet _ taken => exact Or.inr ⟨_, rfl, taken, rfl, rfl, rfl, rfl⟩
  | @resumed _ search invocation _ taken =>
      refine Or.inr ⟨_, rfl, ?_, ?_, resume_kept { state with search } invocation⟩
      · rw [resume_search]
        exact taken
      · exact resume_log _ _

/-- Everything that moves belongs to connections that were accepted, or to envelopes that
were numbered. -/
structure Within (connections : Finset SessionId) (state : SystemState Double) : Prop where
  staged : ∀ connection, state.node.stage connection ≠ none → connection ∈ connections
  looping : ∀ session, state.node.readLoop session ≠ .idle → session ∈ connections
  numbered : ∀ id, state.search.issued id ≠ none → id < state.log.length

/-- An internal step uses up work. -/
theorem Stepped.work_lt (stepped : Stepped host external parsers state event next)
    (inner : event.Internal) {connections : Finset SessionId} (within : state.Within connections) :
    next.work connections < state.work connections := by
  rcases stepped.internal_cases inner with
    ⟨nodeEvent, rfl, taken, search, log⟩ | ⟨searchEvent, rfl, taken, log, stage, loops, writes⟩
  · have used := (NodeState.stepped_of_step taken).work_lt inner within.staged within.looping
    rw [work, work, search, log]
    exact Nat.add_lt_add_right used _
  · have used := (SearchState.stepped_of_step taken).work_lt inner within.numbered
    have same : next.node.work connections = state.node.work connections := by
      rw [NodeState.work, NodeState.work, stage, loops, writes]
    rw [work, work, same, log]
    exact Nat.add_lt_add_left used _

theorem mem_connections {connection : SessionId} :
    connection ∈ connections events ↔ .node (.accept connection) ∈ events := by
  rw [connections, List.mem_toFinset, List.mem_filterMap]
  constructor
  · rintro ⟨event, inside, accepts⟩
    unfold SystemEvent.accepts at accepts
    split at accepts
    · cases accepts
      exact inside
    · cases accepts
  · exact fun inside => ⟨_, inside, rfl⟩

theorem run_staged {client : OefSearchClient}
    (run : Run (SystemState.step host external parsers) (initial client) events state) :
    ∀ connection, state.node.stage connection ≠ none → connection ∈ connections events := by
  refine run.traceInvariant (fun events state => ∀ connection,
    state.node.stage connection ≠ none → connection ∈ connections events)
    (fun _ there => absurd rfl there) ?_
  intro events state event next _ staged _ taken connection there
  rw [mem_connections, List.mem_append, List.mem_singleton]
  have before : state.node.stage connection ≠ none →
      .node (.accept connection) ∈ events ∨ .node (.accept connection) = event :=
    fun here => Or.inl (mem_connections.mp (staged connection here))
  rcases (stepped_of_step taken).node_step with
    ⟨nodeEvent, rfl, _, moved⟩ | ⟨_, same | ⟨nodeEvent, answer, moved⟩⟩
  · rcases (NodeState.stepped_of_step moved).stage_origin there with here | rfl
    · exact before here
    · exact Or.inr rfl
  · exact before (same ▸ there)
  · rcases (NodeState.stepped_of_step moved).stage_origin there with here | rfl
    · exact before here
    · cases answer

theorem run_withinConnections {coreId coreIpAddr : String} {corePort : UInt32}
    (run : Run (SystemState.step host external parsers)
      (initial (.make coreId coreIpAddr corePort)) events state) :
    state.Within (connections events) where
  staged := run_staged run
  looping session busy := by
    obtain ⟨nodeEvents, handlers, _⟩ := run_node run
    have sessions := NodeState.run_sessions handlers
    obtain ⟨key, registered⟩ := sessions.reading session busy
    obtain ⟨stage, there, _⟩ := sessions.admitted key session registered
    exact run_staged run session (there ▸ Option.some_ne_none _)
  numbered id issued := waiter_below ((run_waits rfl run).asked id issued)

/-- Internal steps accept no connection. -/
theorem connections_snoc (inner : event.Internal) :
    connections (events ++ [event]) = connections events := by
  have none : event.accepts = none := by
    unfold SystemEvent.accepts
    split
    · exact inner.elim
    · rfl
  rw [connections, List.filterMap_append, List.filterMap_cons_none none, List.filterMap_nil,
    List.append_nil, connections]

/-- The states that a run for some connections leads to. -/
def Reached (host : ByteOrder) (external : External Double) (parsers : NodeParsers Double)
    (client : OefSearchClient) (accepted : Finset SessionId) (state : SystemState Double) : Prop :=
  ∃ events, Run (SystemState.step host external parsers) (initial client) events state ∧
    connections events = accepted

theorem drains (coreId coreIpAddr : String) (corePort : UInt32) (accepted : Finset SessionId) :
    Drains (SystemState.step host external parsers) SystemEvent.Internal
      (Reached host external parsers (.make coreId coreIpAddr corePort) accepted)
      (work accepted) where
  kept state event next := by
    rintro ⟨events, run, same⟩ inner taken
    exact ⟨events ++ [event], .snoc run trivial taken, (connections_snoc inner).trans same⟩
  less state event next := by
    rintro ⟨events, run, rfl⟩ inner taken
    exact (stepped_of_step taken).work_lt inner (run_withinConnections run)

/-! ### Rest -/

/-- When no internal step is possible, the core only waits. -/
theorem atRest_of_resting
    (resting : Resting (step host external parsers) SystemEvent.Internal state) :
    state.AtRest where
  handshakes connection stage there := by
    have stuck := resting (.node (.handshake connection)) trivial
    change (NodeState.stepHandshake state.node connection).map _ = none at stuck
    rw [Option.map_eq_none_iff, NodeState.stepHandshake, there] at stuck
    cases stage with
    | awaitId => exact .awaitId
    | awaitAnswer => exact .awaitAnswer
    | confirmed => exact .confirmed
    | closed => exact .closed
    | replying publicKey reply =>
        cases reply with
        | phrase => cases stuck
        | failure => cases stuck
    | added => cases stuck
    | confirming => cases stuck
  sessions session := by
    have stuck := resting (.node (.deliver session)) trivial
    change (NodeState.stepDeliver state.node session).map _ = none at stuck
    rw [Option.map_eq_none_iff, NodeState.stepDeliver] at stuck
    cases loop : state.node.readLoop session with
    | idle => exact Or.inl rfl
    | reading => exact Or.inr rfl
    | answering =>
        rw [loop] at stuck
        cases stuck
    | forwarding =>
        rw [loop] at stuck
        cases stuck
  writes := by
    by_contra some
    obtain ⟨⟨session, continuation⟩, inside⟩ := List.exists_mem_of_ne_nil _ some
    have stuck := resting (.node (.written session continuation .success 0)) trivial
    change (NodeState.stepWritten state.node session continuation .success 0).map _ = none at stuck
    rw [Option.map_eq_none_iff, NodeState.stepWritten, if_pos inside] at stuck
    cases stuck
  requests id request write issued := by
    cases write with
    | writing =>
        have stuck := resting (.search (.written id)) trivial
        change (SearchState.stepWritten state.search id).map _ = none at stuck
        rw [Option.map_eq_none_iff, SearchState.stepWritten, issued] at stuck
        cases stuck
    | written =>
        have stuck := resting (.search (.sent id .success)) trivial
        change (SearchState.stepSent state.search id .success).map _ = none at stuck
        rw [Option.map_eq_none_iff, SearchState.stepSent, issued] at stuck
        cases stuck
    | handled ec => exact ⟨ec, rfl⟩
  processing := by
    cases processing : state.search.processing with
    | none => rfl
    | some current =>
        obtain ⟨answer, handle, erased⟩ := current
        cases erased with
        | false =>
            have stuck := resting (.search .erase) trivial
            change (SearchState.stepErase state.search).map _ = none at stuck
            rw [Option.map_eq_none_iff, SearchState.stepErase, processing] at stuck
            cases stuck
        | true =>
            have stuck := resting (.search .invoke) trivial
            change (SearchState.stepInvoke external state.search).map _ = none at stuck
            rw [Option.map_eq_none_iff, SearchState.stepInvoke, processing] at stuck
            cases stuck

/-- While the core only waits, no internal step is possible. -/
theorem AtRest.resting (rest : state.AtRest) :
    Resting (step host external parsers) SystemEvent.Internal state := by
  intro event inner
  by_contra possible
  obtain ⟨next, taken⟩ := Option.ne_none_iff_exists'.mp possible
  have handled : ∀ {id : RequestId} {request : SendRequest Double} {write : WriteState},
      state.search.issued id = some ⟨request, write⟩ → (∀ ec, write ≠ .handled ec) → False := by
    intro id request write issued unhandled
    obtain ⟨ec, same⟩ := rest.requests id request write issued
    exact unhandled ec same
  rcases (stepped_of_step taken).internal_cases inner with
    ⟨nodeEvent, rfl, moved, _⟩ | ⟨searchEvent, rfl, moved, _⟩
  · generalize next.node = node at moved
    cases NodeState.stepped_of_step moved with
    | accepted | unidentified | identified | unanswered | added | rejected | ended | processed
      | requested | answering | forwarding | searchAnswered => exact inner.elim
    | phraseSent there | failureSent there | started there | statusSent there =>
        cases rest.handshakes _ _ there
    | answerSent there | forwarded there =>
        rcases rest.sessions _ with idle | reading
        · rw [there] at idle
          cases idle
        · rw [there] at reading
          cases reading
    | written waiting =>
        rw [rest.writes] at waiting
        exact List.not_mem_nil waiting
  · generalize next.search = search at moved
    cases SearchState.stepped_of_step moved with
    | called | unread | dropped | received => exact inner.elim
    | written found | sendFailed found | sendSucceeded found =>
        exact handled found fun _ => WriteState.noConfusion
    | erased found | invoked found =>
        rw [rest.processing] at found
        cases found

/-- **The core comes to rest.** From every state that is reached, the core takes at most as
many steps without a further message or connection as there is work left, in whatever order
they come and whatever the results of the writes are; and it can always get to where no such
step is left. There it waits for its agents and for the search service only. The requests it
has no answer for are those that were sent completely. -/
theorem run_rest {coreId coreIpAddr : String} {corePort : UInt32}
    (run : Run (SystemState.step host external parsers)
      (initial (.make coreId coreIpAddr corePort)) events state) :
    (∀ later final,
      InternalRun (SystemState.step host external parsers) SystemEvent.Internal state later final →
        later.length + final.work (connections events) ≤ state.work (connections events)) ∧
    (∃ later final,
      InternalRun (SystemState.step host external parsers) SystemEvent.Internal state later final ∧
        final.AtRest) ∧
    (Resting (SystemState.step host external parsers) SystemEvent.Internal state ↔
      state.AtRest) ∧
    (state.AtRest → ∀ id request write, state.search.issued id = some ⟨request, write⟩ →
      state.search.fired id = 0 → ∃ ec, write = .handled ec ∧ ec.failed = false) := by
  have drains := @drains _ host external parsers coreId coreIpAddr corePort (connections events)
  have reached : Reached host external parsers (.make coreId coreIpAddr corePort)
      (connections events) state := ⟨events, run, rfl⟩
  refine ⟨?_, ?_, ⟨atRest_of_resting, AtRest.resting⟩, ?_⟩
  · intro later final inner
    exact drains.length_le reached inner
  · obtain ⟨later, final, inner, resting⟩ := drains.exists_resting reached
    exact ⟨later, final, inner, atRest_of_resting resting⟩
  · intro rest id request write issued unfired
    obtain ⟨ec, rfl⟩ := rest.requests id request write issued
    refine ⟨ec, rfl, ?_⟩
    by_contra failed
    obtain ⟨searchEvents, searching⟩ := run_search run
    exact SearchState.run_reported rfl searching id request ec issued
      (Bool.eq_true_of_not_eq_false failed) unfired

/-- The search of "a" ends in rest. -/
theorem run_rest_search : ∃ later final,
    InternalRun shortStep SystemEvent.Internal afterSearch later final ∧ final.AtRest :=
  (run_rest (run_of_execute executed_search)).2.1

end SystemState

end OefCore
