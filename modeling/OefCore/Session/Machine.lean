import OefCore.Search.AtMostOnce
import OefCore.Session.AgentSession

/-! # Sessions at run time

Agent sessions together with the search client they share. A step processes an
envelope of one session, is a step of the search client, or is the completion
handler of a message to another agent. When the search client invokes the
continuation of a request, the session that made the request answers in the same
step.

Envelopes are numbered in the order in which they are processed, and a request to
the search service has the number of the envelope that led to it. The table of
sessions that a message is routed by is read when its envelope is processed; it
comes with the event.
-/

namespace OefCore

/-- A processed envelope: its session, and what the session did with it. -/
structure ProcessedEnvelope (Double : Type) where
  session : SessionId
  envelope : Envelope Double
  action : SessionAction Double

/-- A message of a session to its own agent, and the envelope that led to it. -/
structure SentAnswer (Double : Type) where
  cause : RequestId
  session : SessionId
  message : Server.AgentMessage Double

/-- The search client, the sessions, the envelopes that were processed, the
envelopes whose messages to other agents are being written, and the messages that
sessions sent to their own agents. -/
structure CoreState (Double : Type) where
  search : SearchState Double
  sessions : SessionId → Option (AgentSession Double)
  log : List (ProcessedEnvelope Double)
  forwarding : List RequestId
  answers : List (SentAnswer Double)

inductive CoreEvent (Double : Type) where
  /-- A session is constructed. -/
  | start (session : SessionId) (agentId : String)
  /-- A session processes a buffer. -/
  | envelope (session : SessionId) (directory : UnorderedMap String SessionId) (buffer : Buffer)
  /-- The completion handler of the write of a message to another agent runs. -/
  | forwarded (id : RequestId) (ec : ErrorCode) (length : Nat)
  /-- A step of the search client. -/
  | search (event : SearchEvent Double)

namespace CoreState

variable {Double : Type}

/-- A core with a listening search client and without sessions. -/
def initial (client : OefSearchClient) : CoreState Double where
  search := .initial client
  sessions := fun _ => none
  log := []
  forwarding := []
  answers := []

variable (host : ByteOrder) (external : External Double)
  (parse : ParseFromArray (Envelope Double))

/-- The continuation of a request runs in its session. Other continuations only
log. -/
def answer (state : CoreState Double) (invocation : Invocation Double) : CoreState Double :=
  match invocation.continuation with
  | .noHandle _ => state
  | .request id =>
      match state.log[id]? with
      | some ⟨session, _, .request _ continuation⟩ =>
          match state.sessions session with
          | none => state
          | some self =>
              let (self, messages) := self.answered continuation invocation.ec invocation.response
              { state with
                sessions := Function.update state.sessions session (some self)
                answers := state.answers ++ messages.map fun message => ⟨id, session, message⟩ }
      | _ => state

/-- The step of the search client that an action stands for. -/
def requestSearch (search : SearchState Double) (id : RequestId) (publicKey : String) :
    SessionAction Double → Option (SearchState Double)
  | .request call continuation =>
      search.step host external (.call id call publicKey continuation.msgId)
  | _ => some search

/-- The message to its own agent that a session sends at once. -/
def answersAtOnce (id : RequestId) (session : SessionId) :
    SessionAction Double → List (SentAnswer Double)
  | .send message => [⟨id, session, message⟩]
  | _ => []

/-- The envelope, if a message to another agent is written for it. -/
def forwardedBy (id : RequestId) : SessionAction Double → List RequestId
  | .forward _ _ _ => [id]
  | _ => []

def stepEnvelope (state : CoreState Double) (session : SessionId)
    (directory : UnorderedMap String SessionId) (buffer : Buffer) : Option (CoreState Double) :=
  match state.sessions session with
  | none => none
  | some self =>
      let id := state.log.length
      let (next, action) := self.process parse directory buffer
      (requestSearch host external state.search id next.publicKey action).map fun search => {
        search
        sessions := Function.update state.sessions session (some next)
        log := state.log ++ [⟨session, Pbs.deserialize parse buffer, action⟩]
        forwarding := state.forwarding ++ forwardedBy id action
        answers := state.answers ++ answersAtOnce id session action }

def stepForwarded (state : CoreState Double) (id : RequestId) (ec : ErrorCode) (length : Nat) :
    Option (CoreState Double) :=
  if id ∈ state.forwarding then
    match state.log[id]? with
    | some ⟨session, _, .forward _ _ continuation⟩ =>
        some { state with
          forwarding := state.forwarding.erase id
          answers := state.answers ++
            (AgentSession.forwardCompleted continuation ec length).map fun message =>
              ⟨id, session, message⟩ }
    | _ => none
  else none

/-- A step of the search client other than a call, which only sessions make. -/
def stepSearch (state : CoreState Double) (event : SearchEvent Double) :
    Option (CoreState Double) :=
  match event with
  | .call _ _ _ _ => none
  | event =>
      (state.search.step host external event).map fun search =>
        (search.invoked.drop state.search.invoked.length).foldl answer { state with search }

def step (state : CoreState Double) : CoreEvent Double → Option (CoreState Double)
  | .start session agentId =>
      match state.sessions session with
      | some _ => none
      | none =>
          some { state with
            sessions := Function.update state.sessions session (some (.make agentId)) }
  | .envelope session directory buffer =>
      stepEnvelope host external parse state session directory buffer
  | .forwarded id ec length => stepForwarded state id ec length
  | .search event => stepSearch host external state event

/-- Every way a step can go. -/
inductive Stepped (state : CoreState Double) : CoreEvent Double → CoreState Double → Prop where
  | started {session agentId} (fresh : state.sessions session = none) :
      Stepped state (.start session agentId)
        { state with sessions := Function.update state.sessions session (some (.make agentId)) }
  | processed {session directory buffer self next action search}
      (found : state.sessions session = some self)
      (result : self.process parse directory buffer = (next, action))
      (requested : requestSearch host external state.search state.log.length next.publicKey action =
        some search) :
      Stepped state (.envelope session directory buffer) {
        search
        sessions := Function.update state.sessions session (some next)
        log := state.log ++ [⟨session, Pbs.deserialize parse buffer, action⟩]
        forwarding := state.forwarding ++ forwardedBy state.log.length action
        answers := state.answers ++ answersAtOnce state.log.length session action }
  | forwarded {id ec length session envelope destination message continuation}
      (writing : id ∈ state.forwarding)
      (found : state.log[id]? =
        some ⟨session, envelope, .forward destination message continuation⟩) :
      Stepped state (.forwarded id ec length) { state with
        forwarding := state.forwarding.erase id
        answers := state.answers ++
          (AgentSession.forwardCompleted continuation ec length).map fun message =>
            ⟨id, session, message⟩ }
  | quiet {event search} (notCall : ∀ id call agent msgId, event ≠ .call id call agent msgId)
      (taken : state.search.step host external event = some search)
      (same : search.invoked = state.search.invoked) :
      Stepped state (.search event) { state with search }
  | answered {event search invocation}
      (notCall : ∀ id call agent msgId, event ≠ .call id call agent msgId)
      (taken : state.search.step host external event = some search)
      (appended : search.invoked = state.search.invoked ++ [invocation]) :
      Stepped state (.search event) (answer { state with search } invocation)

variable {host external parse} {state next : CoreState Double} {event : CoreEvent Double}

/-- A step goes one of the listed ways. -/
theorem stepped_of_step (taken : step host external parse state event = some next) :
    Stepped host external parse state event next := by
  cases event with
  | start session agentId =>
      simp only [step] at taken
      split at taken
      · cases taken
      · rename_i fresh
        cases taken
        exact .started fresh
  | envelope session directory buffer =>
      simp only [step, stepEnvelope] at taken
      split at taken
      · cases taken
      · rename_i self found
        obtain ⟨search, requested, rfl⟩ := Option.map_eq_some_iff.mp taken
        exact .processed found rfl requested
  | forwarded id ec length =>
      simp only [step, stepForwarded] at taken
      split at taken
      · rename_i writing
        split at taken
        · rename_i found
          cases taken
          exact .forwarded writing found
        · cases taken
      · cases taken
  | search event =>
      have searched : (∀ id call agent msgId, event ≠ .call id call agent msgId) ∧
          ∃ search, state.search.step host external event = some search ∧
            (search.invoked.drop state.search.invoked.length).foldl answer { state with search } =
              next := by
        cases event with
        | call => cases taken
        | written | sent | frame | erase | invoke =>
            exact ⟨nofun, Option.map_eq_some_iff.mp taken⟩
      clear taken
      obtain ⟨notCall, search, taken, rfl⟩ := searched
      rcases (SearchState.stepped_of_step taken).invoked_cases with same | ⟨invocation, appended, _⟩
      · rw [same, List.drop_length, List.foldl_nil]
        exact .quiet notCall taken same
      · rw [appended, List.drop_left, List.foldl_cons, List.foldl_nil]
        exact .answered notCall taken appended

/-! ### The search client of a run -/

/-- An invocation concerns no session, or the one that made the request. -/
theorem answer_cases (state : CoreState Double) (invocation : Invocation Double) :
    (state.answer invocation = state ∧ ∀ id session envelope call continuation,
      invocation.continuation = .request id →
        state.log[id]? = some ⟨session, envelope, .request call continuation⟩ →
          state.sessions session = none) ∨
    ∃ id session envelope call continuation self,
      invocation.continuation = .request id ∧
        state.log[id]? = some ⟨session, envelope, .request call continuation⟩ ∧
          state.sessions session = some self ∧
            state.answer invocation = { state with
              sessions := Function.update state.sessions session
                (some (self.answered continuation invocation.ec invocation.response).1)
              answers := state.answers ++
                (self.answered continuation invocation.ec invocation.response).2.map fun message =>
                  ⟨id, session, message⟩ } := by
  unfold answer
  cases named : invocation.continuation with
  | noHandle => exact Or.inl ⟨rfl, fun _ _ _ _ _ wrong => nomatch wrong⟩
  | request id =>
      dsimp only
      split
      · rename_i session envelope call continuation logged
        cases found : state.sessions session with
        | none =>
            refine Or.inl ⟨rfl, fun other session' envelope' call' continuation' same logged' => ?_⟩
            cases same
            rw [logged] at logged'
            cases logged'
            exact found
        | some self =>
            exact Or.inr ⟨id, session, envelope, call, continuation, self, rfl, logged, found, rfl⟩
      · rename_i other
        refine Or.inl ⟨rfl, fun id' session envelope call continuation same logged => ?_⟩
        cases same
        exact absurd logged (other session envelope call continuation)

@[simp] theorem answer_search (state : CoreState Double) (invocation : Invocation Double) :
    (state.answer invocation).search = state.search := by
  rcases state.answer_cases invocation with ⟨same, _⟩ | ⟨_, _, _, _, _, _, _, _, _, same⟩ <;>
    rw [same]

@[simp] theorem answer_log (state : CoreState Double) (invocation : Invocation Double) :
    (state.answer invocation).log = state.log := by
  rcases state.answer_cases invocation with ⟨same, _⟩ | ⟨_, _, _, _, _, _, _, _, _, same⟩ <;>
    rw [same]

variable (parse) in
/-- The step of the search client that an event stands for. -/
def searchEvent (state : CoreState Double) : CoreEvent Double → Option (SearchEvent Double)
  | .envelope session directory buffer =>
      (state.sessions session).bind fun self =>
        match self.process parse directory buffer with
        | (next, .request call continuation) =>
            some (.call state.log.length call next.publicKey continuation.msgId)
        | _ => none
  | .search event => some event
  | .start _ _ | .forwarded _ _ _ => none

variable (parse) in
/-- The step of the search client meets a condition. -/
def OnSearch (condition : SearchState Double → SearchEvent Double → Prop)
    (state : CoreState Double) (event : CoreEvent Double) : Prop :=
  ∀ searchEvent, state.searchEvent parse event = some searchEvent →
    condition state.search searchEvent

/-- The search client takes the step that the event stands for, or none. A call is made for
the envelope that is processed. -/
theorem Stepped.search_event (stepped : Stepped host external parse state event next) :
    next.search = state.search ∨ ∃ searchEvent,
      state.searchEvent parse event = some searchEvent ∧
        state.search.step host external searchEvent = some next.search ∧
          ∀ id call agent msgId, searchEvent = .call id call agent msgId →
            id = state.log.length ∧ next.log.length = state.log.length + 1 := by
  cases stepped with
  | started | forwarded => exact Or.inl rfl
  | @processed session directory buffer self after action search found result requested =>
      cases action with
      | nothing | send | forward =>
          cases requested
          exact Or.inl rfl
      | request call continuation =>
          refine Or.inr ⟨.call state.log.length call after.publicKey continuation.msgId, ?_,
            requested, ?_⟩
          · simp only [CoreState.searchEvent, found, Option.bind_some, result]
          · rintro id call agent msgId same
            cases same
            exact ⟨rfl, List.length_append⟩
  | quiet notCall taken =>
      exact Or.inr ⟨_, rfl, taken, fun id call agent msgId same => absurd same (notCall _ _ _ _)⟩
  | answered notCall taken =>
      refine Or.inr ⟨_, rfl, ?_, fun id call agent msgId same => absurd same (notCall _ _ _ _)⟩
      rw [answer_search]
      exact taken

/-- The search client takes a step or none. -/
theorem Stepped.search_step (stepped : Stepped host external parse state event next) :
    next.search = state.search ∨ ∃ searchEvent,
      state.search.step host external searchEvent = some next.search ∧
        ∀ id call agent msgId, searchEvent = .call id call agent msgId →
          id = state.log.length ∧ next.log.length = state.log.length + 1 := by
  rcases stepped.search_event with same | ⟨searchEvent, _, moved, called⟩
  · exact Or.inl same
  · exact Or.inr ⟨searchEvent, moved, called⟩

/-- A run whose steps meet a condition on the search client has it in a run that does. -/
theorem run_searchWithin {condition : SearchState Double → SearchEvent Double → Prop}
    {client : OefSearchClient} {events : List (CoreEvent Double)}
    (run : RunWithin (OnSearch parse condition) (step host external parse) (initial client) events
      state) : ∃ searchEvents, RunWithin condition (SearchState.step host external)
        (.initial client) searchEvents state.search := by
  have matched : ∃ searchEvents search, RunWithin condition (SearchState.step host external)
      (.initial client) searchEvents search ∧ state.search = search := by
    refine run.simulates (fun state search => state.search = search) rfl ?_
    rintro events state event next search before meets taken rfl
    rcases (stepped_of_step taken).search_event with same | ⟨searchEvent, stands, moved, _⟩
    · exact Or.inl same
    · exact Or.inr ⟨searchEvent, _, meets searchEvent stands, moved, rfl⟩
  obtain ⟨searchEvents, _, searching, rfl⟩ := matched
  exact ⟨searchEvents, searching⟩

/-- Processed envelopes keep their numbers. -/
theorem Stepped.log_kept (stepped : Stepped host external parse state event next) {id : RequestId}
    {processed : ProcessedEnvelope Double} (found : state.log[id]? = some processed) :
    next.log[id]? = some processed := by
  cases stepped with
  | started | forwarded | quiet => exact found
  | processed =>
      obtain ⟨below, _⟩ := List.getElem?_eq_some_iff.mp found
      exact (List.getElem?_append_left below).trans found
  | answered =>
      rw [answer_log]
      exact found

/-- The search client of a run is in a run of its own. -/
theorem run_search {condition : CoreState Double → CoreEvent Double → Prop}
    {client : OefSearchClient} {events : List (CoreEvent Double)}
    (run : RunWithin condition (step host external parse) (initial client) events state) :
    ∃ searchEvents, Run (SearchState.step host external) (.initial client) searchEvents
      state.search :=
  run_searchWithin (run.mono fun _ _ _ _ _ _ _ => trivial)

/-- Requests have numbers of processed envelopes. -/
def Numbered (state : CoreState Double) : Prop :=
  ∀ id issued, state.search.issued id = some issued → id < state.log.length

theorem Stepped.log_length (stepped : Stepped host external parse state event next) :
    state.log.length ≤ next.log.length := by
  cases stepped with
  | started | forwarded | quiet => exact Nat.le_refl _
  | processed => exact (List.length_append ▸ Nat.le_add_right _ _)
  | answered => rw [answer_log]

theorem Numbered.step (numbered : state.Numbered)
    (stepped : Stepped host external parse state event next) : next.Numbered := by
  intro id issued found
  rcases stepped.search_step with same | ⟨searchEvent, moved, call⟩
  · rw [same] at found
    exact Nat.lt_of_lt_of_le (numbered id issued found) stepped.log_length
  · obtain ⟨request, write⟩ := issued
    rcases (SearchState.stepped_of_step moved).issued_origin found with
      ⟨before, earlier⟩ | ⟨_, _, _, _, _, called, _⟩
    · exact Nat.lt_of_lt_of_le (numbered id _ earlier) stepped.log_length
    · obtain ⟨here, length⟩ := call _ _ _ _ called
      rw [here, length]
      exact Nat.lt_succ_self _

theorem run_numbered {condition : CoreState Double → CoreEvent Double → Prop}
    {client : OefSearchClient} {events : List (CoreEvent Double)}
    (run : RunWithin condition (CoreState.step host external parse) (initial client) events state) :
    state.Numbered := by
  refine run.invariant Numbered ?_ fun _ _ _ numbered _ taken =>
    numbered.step (stepped_of_step taken)
  intro id issued found
  change none = some issued at found
  cases found

/-- An entry of a longer log is an old one or the last one. -/
theorem log_append {log : List (ProcessedEnvelope Double)}
    {last processed : ProcessedEnvelope Double} {id : RequestId}
    (found : (log ++ [last])[id]? = some processed) :
    log[id]? = some processed ∨ id = log.length ∧ processed = last := by
  rw [List.getElem?_append] at found
  split at found
  · exact Or.inl found
  · rename_i beyond
    right
    obtain ⟨below, same⟩ := List.getElem?_eq_some_iff.mp found
    rw [List.length_singleton] at below
    rw [List.getElem_singleton] at same
    exact ⟨Nat.le_antisymm (Nat.le_of_sub_eq_zero (Nat.lt_one_iff.mp below))
      (Nat.le_of_not_lt beyond), same.symm⟩

theorem log_append_other {log : List (ProcessedEnvelope Double)} {last : ProcessedEnvelope Double}
    {id : RequestId} (other : id ≠ log.length) : (log ++ [last])[id]? = log[id]? := by
  rcases Nat.lt_or_gt_of_ne other with below | above
  · exact List.getElem?_append_left below
  · rw [List.getElem?_eq_none (Nat.le_of_lt above), List.getElem?_eq_none]
    rw [List.length_append, List.length_singleton]
    exact above

theorem requestSearch_invoked {search after : SearchState Double} {id : RequestId}
    {publicKey : String} {action : SessionAction Double}
    (requested : requestSearch host external search id publicKey action = some after) :
    after.invoked = search.invoked := by
  cases action with
  | nothing | send | forward =>
      cases requested
      rfl
  | request call continuation =>
      have moved : search.step host external (.call id call publicKey continuation.msgId) =
        some after := requested
      cases SearchState.stepped_of_step moved with
      | called => rfl

/-! ### Concrete parameters -/

/-- What protobuf makes of some short envelopes with ids below 128: descriptions
whose data model has a name of one letter and nothing else, and searches without
constraints. The id of an envelope is required. -/
def shortEnvelope : ParseFromArray (Envelope Int)
  | [0x08, id, 0x2a, 0x07, 0x0a, 0x05, 0x0a, 0x03, 0x0a, 0x01, letter] =>
      (id < 128 && letter < 128, {
        msgId := Int32.ofNat id.toNat
        payload := .registerDescription { description := {
          model := { name := String.singleton (Char.ofNat letter.toNat), attributes := [],
                     description := none }
          values := [] } } })
  | [0x08, id, 0x32, 0x00] =>
      (id < 128, { msgId := Int32.ofNat id.toNat, payload := .unregisterDescription })
  | [0x32, 0x00] => (false, { msgId := 0, payload := .unregisterDescription })
  | [0x08, id, 0x3a, 0x02, 0x0a, 0x00] =>
      (id < 128, {
        msgId := Int32.ofNat id.toNat
        payload := .searchServices { query := { constraints := [], model := none } } })
  | _ => (false, { msgId := 0, payload := .payloadNotSet })

/-- A step of a concrete core. -/
def shortStep : CoreState Int → CoreEvent Int → Option (CoreState Int) :=
  step .little SearchState.shortExternal shortEnvelope

/-- Where concrete events lead. -/
def after (events : List (CoreEvent Int)) : CoreState Int :=
  (execute shortStep (initial SearchState.pluto) events).getD (initial SearchState.pluto)

/-- The steps of the search client for a request that is answered under some id. -/
def answeredUnder (id : RequestId) (headerId : UInt8) : List (CoreEvent Int) :=
  [.search (.written id), .search (.sent id .success),
    .search (.frame (some id)
      (OefSearchClient.frame [0x10, headerId, 0x1a, 0x02, 0x08, 0x01] [])),
    .search .erase, .search .invoke]

end CoreState

end OefCore
