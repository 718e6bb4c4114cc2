import OefCore.Search.Causes
import OefCore.Session.Confirmation

/-! # The description of a session

Registering a description sets `description_` when the envelope is processed.
Unregistering it clears `description_` when the search service has answered, so a
description that was registered in between is cleared as well.

`OefCore.CoreState.run_description` says when the description is what the agent
asked for last: when it registers no description while an unregistration is
unanswered, and no answer is lost, as under free keys and with timely answers.
-/

namespace OefCore

variable {Double : Type}

/-- What an envelope asks the description to be, given what was asked before. -/
def Envelope.asks (envelope : Envelope Double) (asked : Option (Instance Double)) :
    Option (Instance Double) :=
  match envelope.payload with
  | .registerDescription desc => some (Instance.ofMessage desc.description)
  | .unregisterDescription => none
  | _ => asked

/-- An operation that registers or unregisters a description. -/
def SessionOperation.Describes (operation : SessionOperation) : Prop :=
  operation = .registerDescription ∨ operation = .unregisterDescription

/-- The action is a request to unregister a description. -/
def SessionAction.Unregisters (action : SessionAction Double) : Prop :=
  ∃ call continuation, action = .request call continuation ∧
    continuation.operation = .unregisterDescription

/-- What an envelope does to the description at once: it registers one, it leads
to a request to unregister it if there is one, or it leaves it alone. -/
theorem AgentSession.processEnvelope_description (directory : UnorderedMap String SessionId)
    (self : AgentSession Double) (envelope : Envelope Double) :
    let (next, action) := self.processEnvelope directory envelope
    (∃ desc, envelope.payload = .registerDescription desc ∧ ¬ action.Unregisters ∧
        next.description = some (Instance.ofMessage desc.description)) ∨
      (envelope.payload = .unregisterDescription ∧ next.description = self.description ∧
        (self.description = none ∨ action.Unregisters)) ∨
      ((∀ asked, envelope.asks asked = asked) ∧ next.description = self.description ∧
        ¬ action.Unregisters) := by
  obtain ⟨msgId, payload⟩ := envelope
  cases payload with
  | registerDescription desc =>
      refine Or.inl ⟨desc, rfl, ?_, rfl⟩
      rintro ⟨_, _, same, operation⟩
      cases same
      cases operation
  | unregisterDescription =>
      simp only [processEnvelope, processUnregisterDescription]
      cases found : self.description with
      | none => exact Or.inr (Or.inl ⟨trivial, found, Or.inl rfl⟩)
      | some description => exact Or.inr (Or.inl ⟨trivial, found, Or.inr ⟨_, _, rfl, rfl⟩⟩)
  | sendMessage message =>
      simp only [processEnvelope, processMessage]
      refine Or.inr (Or.inr ⟨fun _ => rfl, ?_⟩)
      cases directory.lookup message.destination with
      | none | some =>
          refine ⟨rfl, ?_⟩
          rintro ⟨_, _, same, _⟩
          cases same
  | payloadNotSet =>
      refine Or.inr (Or.inr ⟨fun _ => rfl, rfl, ?_⟩)
      rintro ⟨_, _, same, _⟩
      cases same
  | registerService | unregisterService | searchServices | searchServicesWide | searchAgents =>
      refine Or.inr (Or.inr ⟨fun _ => rfl, rfl, ?_⟩)
      rintro ⟨_, _, same, operation⟩
      cases same
      cases operation

/-- A successful continuation clears the description if it is that of an
unregistration. -/
theorem AgentSession.answered_description (self : AgentSession Double)
    (continuation : SessionContinuation) {ec : ErrorCode} (response : OefSearchResponse Double) :
    (continuation.operation ≠ .unregisterDescription →
      (self.answered continuation ec response).1 = self) ∧
    (continuation.operation = .unregisterDescription → ec.failed = false →
      (self.answered continuation ec response).1.description = none) := by
  obtain ⟨operation, msgId⟩ := continuation
  cases operation with
  | unregisterDescription =>
      refine ⟨fun other => absurd rfl other, fun _ succeeded => ?_⟩
      simp only [answered, succeeded, Bool.false_eq_true, ↓reduceIte]
  | registerDescription | registerService | unregisterService | searchAgents | searchService
  | searchServiceWide =>
      refine ⟨fun _ => rfl, fun wrong => ?_⟩
      cases wrong

namespace CoreState

/-- What the description envelopes of a session asked for last. -/
def lastAsked (state : CoreState Double) (session : SessionId) : Option (Instance Double) :=
  state.log.foldl (fun asked processed =>
    if processed.session = session then processed.envelope.asks asked else asked) none

/-- `description_` of a session. -/
def description (state : CoreState Double) (session : SessionId) : Option (Instance Double) :=
  (state.sessions session).bind fun self => self.description

/-- A request of a session for some operation. -/
def RequestOf (state : CoreState Double) (session : SessionId) (operation : SessionOperation)
    (id : RequestId) : Prop :=
  ∃ envelope call continuation,
    state.log[id]? = some ⟨session, envelope, .request call continuation⟩ ∧
      continuation.operation = operation

/-- A request of a session is outstanding: the search service still owes it an answer. -/
def Outstanding (state : CoreState Double) (session : SessionId) (operation : SessionOperation)
    (id : RequestId) : Prop :=
  state.RequestOf session operation id ∧ state.search.Unanswered id

/-- No description request of a session is outstanding. -/
def NoneOutstanding (state : CoreState Double) (session : SessionId) : Prop :=
  ∀ id, ¬ state.Outstanding session .registerDescription id ∧
    ¬ state.Outstanding session .unregisterDescription id

/-- The description requests of a session were written, and the answers that arrived for
them are successful. -/
structure AllSuccessful (host : ByteOrder) (external : External Double) (state : CoreState Double)
    (session : SessionId) : Prop where
  written : ∀ id operation request ec, state.RequestOf session operation id →
    operation.Describes → state.search.issued id = some ⟨request, .handled ec⟩ →
      ec.failed = false
  answered : ∀ id operation bytes answer, state.RequestOf session operation id →
    operation.Describes → (some id, bytes) ∈ state.search.arrived →
      SearchState.messageOf host external (some id) bytes = some answer →
        answer.header.success = true

/-- The session registers no description while an unregistration is outstanding. -/
def NoOverlap (parse : ParseFromArray (Envelope Double)) (session : SessionId)
    (state : CoreState Double) (event : CoreEvent Double) : Prop :=
  ∀ directory buffer desc, event = .envelope session directory buffer →
    (Pbs.deserialize parse buffer).payload = .registerDescription desc →
      ∀ id, ¬ state.Outstanding session .unregisterDescription id

/-- A request of a session is pending: its continuation was not invoked yet. -/
def Pending (state : CoreState Double) (session : SessionId) (operation : SessionOperation)
    (id : RequestId) : Prop :=
  state.RequestOf session operation id ∧ state.search.fired id = 0

/-- The continuations of the description requests of a session were invoked without an
error. -/
def InvokedSuccessfully (state : CoreState Double) (session : SessionId) : Prop :=
  ∀ invocation ∈ state.search.invoked, ∀ id operation, invocation.continuation = .request id →
    state.RequestOf session operation id → operation.Describes →
      invocation.ec.failed = false

/-- The description follows what was asked for: once it was registered last, it is
there and nothing is about to clear it; once it was unregistered last, it is gone
or about to be cleared. -/
structure Following (state : CoreState Double) (session : SessionId) : Prop where
  registered : ∀ description, state.lastAsked session = some description →
    state.description session = some description ∧
      ∀ id, ¬ state.Pending session .unregisterDescription id
  unregistered : state.lastAsked session = none → state.description session = none ∨
    ∃ id, state.Pending session .unregisterDescription id

variable {host : ByteOrder} {external : External Double} {parse : ParseFromArray (Envelope Double)}
  {state next : CoreState Double} {event : CoreEvent Double} {session : SessionId}

/-- Following is kept when what was asked, the description and the pending
unregistrations stay. -/
theorem Following.kept (following : state.Following session)
    (asked : next.lastAsked session = state.lastAsked session)
    (description : next.description session = state.description session)
    (pending : ∀ id, next.Pending session .unregisterDescription id ↔
      state.Pending session .unregisterDescription id) : next.Following session where
  registered wanted last := by
    obtain ⟨here, quiet⟩ := following.registered wanted (asked ▸ last)
    exact ⟨description.trans here, fun id still => quiet id ((pending id).mp still)⟩
  unregistered last := by
    rcases following.unregistered (asked ▸ last) with gone | ⟨id, waiting⟩
    · exact Or.inl (description.trans gone)
    · exact Or.inr ⟨id, (pending id).mpr waiting⟩

theorem lastAsked_append {last : ProcessedEnvelope Double}
    (appended : next.log = state.log ++ [last]) :
    next.lastAsked session =
      if last.session = session then last.envelope.asks (state.lastAsked session)
      else state.lastAsked session := by
  rw [lastAsked, appended, List.foldl_append]
  rfl

/-- Nothing was invoked for an envelope that is not processed yet. -/
theorem fired_next (numbered : state.Numbered) (once : state.search.Once) :
    state.search.fired state.log.length = 0 := by
  by_contra fired
  obtain ⟨request, ec, issued⟩ := once.handled _ fired
  exact Nat.lt_irrefl _ (numbered _ _ issued)

/-- An envelope adds its own request to the pending ones. -/
theorem pending_append {last : ProcessedEnvelope Double}
    (appended : next.log = state.log ++ [last])
    (same : next.search.invoked = state.search.invoked) (numbered : state.Numbered)
    (once : state.search.Once) (operation : SessionOperation) (id : RequestId) :
    next.Pending session operation id ↔ state.Pending session operation id ∨
      id = state.log.length ∧ last.session = session ∧ ∃ call continuation,
        last.action = .request call continuation ∧ continuation.operation = operation := by
  have fired : next.search.fired id = state.search.fired id := SearchState.fired_of_invoked id same
  unfold Pending RequestOf
  rw [appended, fired]
  constructor
  · rintro ⟨⟨envelope, call, continuation, found, named⟩, unfired⟩
    rcases log_append found with earlier | ⟨here, rfl⟩
    · exact Or.inl ⟨⟨envelope, call, continuation, earlier, named⟩, unfired⟩
    · exact Or.inr ⟨here, rfl, call, continuation, rfl, named⟩
  · rintro (⟨⟨envelope, call, continuation, found, named⟩, unfired⟩ |
        ⟨rfl, rfl, call, continuation, request, named⟩)
    · obtain ⟨below, _⟩ := List.getElem?_eq_some_iff.mp found
      exact ⟨⟨envelope, call, continuation, (List.getElem?_append_left below).trans found, named⟩,
        unfired⟩
    · refine ⟨⟨last.envelope, call, continuation, ?_, named⟩, fired_next numbered once⟩
      rw [List.getElem?_concat_length, ← request]

/-- An envelope of some session is processed. -/
theorem Following.step_processed (following : state.Following session) (numbered : state.Numbered)
    (once : state.search.Once) {other : SessionId} {directory : UnorderedMap String SessionId}
    {self after : AgentSession Double} {envelope : Envelope Double} {action : SessionAction Double}
    (noOverlap : other = session → ∀ desc, envelope.payload = .registerDescription desc →
      ∀ id, ¬ state.Pending session .unregisterDescription id)
    (found : state.sessions other = some self)
    (result : self.processEnvelope directory envelope = (after, action))
    (invoked : next.search.invoked = state.search.invoked)
    (sessions : next.sessions = Function.update state.sessions other (some after))
    (log : next.log = state.log ++ [⟨other, envelope, action⟩]) : next.Following session := by
  have asked : next.lastAsked session = _ := lastAsked_append log
  have pending := fun id =>
    @pending_append _ _ _ session _ log invoked numbered once .unregisterDescription id
  by_cases same : other = session
  case neg =>
    refine following.kept (asked.trans (if_neg same)) ?_ fun id =>
      (pending id).trans (or_iff_left fun new => same new.2.1)
    simp only [description, sessions, Function.update_of_ne (Ne.symm same)]
  subst same
  rw [if_pos rfl] at asked
  have before : state.description other = self.description := by
    simp only [description, found, Option.bind_some]
  have here : next.description other = after.description := by
    simp only [description, sessions, Function.update_self, Option.bind_some]
  have effect := self.processEnvelope_description directory envelope
  rw [result] at effect
  rcases effect with ⟨desc, payload, quiet, set⟩ | ⟨payload, unchanged, gone⟩ |
      ⟨unasked, unchanged, quiet⟩
  · rw [Envelope.asks, payload] at asked
    refine ⟨fun wanted last => ?_, fun last => ?_⟩
    · rw [asked] at last
      cases last
      refine ⟨here.trans set, fun id still => ?_⟩
      rcases (pending id).mp still with earlier | ⟨_, _, request⟩
      · exact noOverlap rfl desc payload id earlier
      · exact quiet request
    · rw [asked] at last
      cases last
  · rw [Envelope.asks, payload] at asked
    refine ⟨fun wanted last => ?_, fun _ => ?_⟩
    · rw [asked] at last
      cases last
    · rcases gone with nothing | request
      · exact Or.inl ((here.trans unchanged).trans nothing)
      · exact Or.inr ⟨_, (pending _).mpr (Or.inr ⟨rfl, rfl, request⟩)⟩
  · refine following.kept (asked.trans (unasked _)) ((here.trans unchanged).trans before.symm)
      fun id => (pending id).trans (or_iff_left fun new => quiet new.2.2)

/-- The continuation of some request is invoked. -/
theorem Following.step_answered (following : state.Following session)
    {search : SearchState Double} {invocation : Invocation Double}
    (successful : InvokedSuccessfully (answer { state with search } invocation) session)
    (onceAfter : search.Once) (appended : search.invoked = state.search.invoked ++ [invocation]) :
    Following (answer { state with search } invocation) session := by
  have more : ∀ id, search.fired id = state.search.fired id +
      if invocation.continuation = .request id then 1 else 0 :=
    fun id => SearchState.fired_append appended
  rcases answer_cases { state with search } invocation with
    ⟨same, orphan⟩ |
      ⟨id, owner, envelope, call, continuation, self, named, found, foundSelf, same⟩
  · rw [same]
    refine ⟨fun wanted last => ?_, fun last => ?_⟩
    · obtain ⟨here, quiet⟩ := following.registered wanted last
      refine ⟨here, fun id still => quiet id ⟨still.1, ?_⟩⟩
      exact Nat.eq_zero_of_add_eq_zero_right ((more id).symm.trans still.2)
    · rcases following.unregistered last with
        gone | ⟨id, ⟨envelope, call, continuation, logged⟩, unfired⟩
      · exact Or.inl gone
      · by_cases named : invocation.continuation = .request id
        · left
          have missing : state.sessions session = none :=
            orphan id session envelope call continuation named logged.1
          simp only [description, missing, Option.bind_none]
        · refine Or.inr ⟨id, ⟨envelope, call, continuation, logged⟩, ?_⟩
          change search.fired id = 0
          rw [more id, if_neg named, unfired]
  · rw [same] at successful ⊢
    by_cases own : owner = session ∧ continuation.operation = .unregisterDescription
    · obtain ⟨rfl, operation⟩ := own
      have succeeded : invocation.ec.failed = false :=
        successful invocation (appended ▸ List.mem_append_right _ (List.mem_singleton_self _)) id
          _ named ⟨envelope, call, continuation, found, operation⟩ (Or.inr rfl)
      have unfired : state.search.fired id = 0 := by
        have most := onceAfter.most id
        rw [more id, if_pos named] at most
        omega
      refine ⟨fun wanted last => ?_, fun _ => Or.inl ?_⟩
      · exact absurd ⟨⟨envelope, call, continuation, found, operation⟩, unfired⟩
          ((following.registered wanted last).2 id)
      · simp only [description, Function.update_self, Option.bind_some]
        exact (self.answered_description continuation _).2 operation succeeded
    · refine following.kept rfl ?_ fun other => ?_
      · by_cases mine : owner = session
        · subst mine
          have kept := (@AgentSession.answered_description _ self continuation invocation.ec
            invocation.response).1 fun operation => own ⟨rfl, operation⟩
          simp only [description, Function.update_self, kept]
          exact congrArg (Option.bind · fun self => self.description) foundSelf.symm
        · simp only [description, Function.update_of_ne (Ne.symm mine)]
      · unfold Pending
        refine and_congr_right fun logged => ?_
        change search.fired other = 0 ↔ state.search.fired other = 0
        rw [more other, if_neg fun named' => ?_]
        · exact Iff.rfl
        · rw [named] at named'
          cases named'
          obtain ⟨_, _, _, logged, operation⟩ := logged
          change state.log[id]? = _ at found
          rw [found] at logged
          cases logged
          exact own ⟨rfl, operation⟩

theorem Following.step (following : state.Following session)
    (successful : next.InvokedSuccessfully session)
    (noOverlap : NoOverlap parse session state event)
    (pending : ∀ id, state.Pending session .unregisterDescription id →
      state.Outstanding session .unregisterDescription id)
    (sound : state.search.Sound) (once : state.search.Once) (numbered : state.Numbered)
    (stepped : Stepped host external parse state event next) : next.Following session := by
  cases stepped with
  | @started other agentId fresh =>
      refine following.kept rfl ?_ fun _ => Iff.rfl
      by_cases same : session = other
      · subst same
        simp only [description, Function.update_self, fresh, Option.bind_some, Option.bind_none,
          AgentSession.make]
      · simp only [description, Function.update_of_ne same]
  | forwarded => exact following.kept rfl rfl fun _ => Iff.rfl
  | quiet _ _ same =>
      refine following.kept rfl rfl fun id => ?_
      unfold Pending
      rw [SearchState.fired_of_invoked id same]
      exact Iff.rfl
  | @processed other directory buffer self after action search found result requested =>
      refine following.step_processed numbered once ?_ found result
        (requestSearch_invoked requested) rfl rfl
      rintro rfl desc payload
      exact fun id waiting => noOverlap directory buffer desc rfl payload id (pending id waiting)
  | answered _ taken appended =>
      exact following.step_answered successful
        (once.step sound (SearchState.stepped_of_step taken)) appended

/-- Requests keep their sessions and operations. -/
theorem RequestOf.kept (stepped : Stepped host external parse state event next)
    {operation : SessionOperation} {id : RequestId}
    (request : state.RequestOf session operation id) : next.RequestOf session operation id := by
  obtain ⟨envelope, call, continuation, logged, named⟩ := request
  exact ⟨envelope, call, continuation, stepped.log_kept logged, named⟩

/-- Answers that are successful later were successful before. -/
theorem AllSuccessful.before (successful : next.AllSuccessful host external session)
    (stepped : Stepped host external parse state event next) :
    state.AllSuccessful host external session where
  written id operation sent ec request describes issued := by
    refine successful.written id operation sent ec (request.kept stepped) describes ?_
    rcases stepped.search_step with same | ⟨_, moved, _⟩
    · exact same ▸ issued
    · exact (SearchState.stepped_of_step moved).handled_kept issued
  answered id operation bytes answer request describes arrived message := by
    refine successful.answered id operation bytes answer (request.kept stepped) describes ?_ message
    rcases stepped.search_step with same | ⟨_, moved, _⟩
    · exact same ▸ arrived
    · exact (SearchState.stepped_of_step moved).arrived_kept arrived

/-- Continuations are invoked without an error when the requests were written and the
answers are successful. -/
theorem AllSuccessful.invoked (successful : state.AllSuccessful host external session)
    (undisturbed : state.search.Undisturbed external)
    (caused : state.search.Caused host external) (attributed : state.Attributed) :
    state.InvokedSuccessfully session := by
  intro invocation member id operation named request describes
  cases cause : invocation.cause with
  | none =>
      obtain ⟨other, sent, named', _, issued⟩ := caused.unwritten invocation member cause
      rw [named] at named'
      cases named'
      exact successful.written id operation sent _ request describes issued
  | some answer =>
      obtain ⟨origin, sent, write, issued, same⟩ :=
        undisturbed.invoked invocation member id answer named cause
      obtain ⟨bytes, arrived, message⟩ := caused.answered invocation member answer cause
      rw [origin] at arrived message
      have succeeded := successful.answered id operation bytes answer request describes arrived
        message
      obtain ⟨_, _, continuation, logged, rfl⟩ := request
      obtain ⟨_, _, _, _, logged', handled⟩ := attributed.requested id sent write issued
      rw [logged] at logged'
      cases logged'
      have registers : sent.handle.operation = "update" ∨ sent.handle.operation = "remove" := by
        rw [SendRequest.handle, handled]
        rcases describes with operation | operation
        · exact Or.inl (operation ▸ rfl)
        · exact Or.inr (operation ▸ rfl)
      rw [same, SearchState.invocationOf,
        OefSearchClient.answer_registration external registers, if_pos succeeded]
      rfl

/-- A run in which the search client takes punctual steps. -/
theorem run_onPunctual {client : OefSearchClient} (empty : client.handles = ∅)
    {condition : CoreState Double → CoreEvent Double → Prop} {events : List (CoreEvent Double)}
    (run : RunWithin (fun state event => condition state event ∧
        OnSearch parse (SearchState.Punctual host external) state event)
      (CoreState.step host external parse) (initial client) events state) :
    state.search.Timely host external ∧ state.search.Caused host external ∧ state.search.Once := by
  obtain ⟨searchEvents, searching⟩ := run_searchWithin (run.mono fun _ _ _ _ meets => meets.2)
  obtain ⟨timely, caused⟩ := SearchState.run_punctual empty searching
  exact ⟨timely, caused, SearchState.run_once empty searching⟩

/-- **No description is lost** when all answers are successful, a session registers no
description while an unregistration of it is unanswered, and the search client takes
punctual steps only: whenever no description request is outstanding, the description is
what the session was asked for last. -/
theorem run_description {coreId coreIpAddr : String} {corePort : UInt32}
    {events : List (CoreEvent Double)}
    (run : RunWithin (fun state event => NoOverlap parse session state event ∧
        OnSearch parse (SearchState.Punctual host external) state event)
      (CoreState.step host external parse) (initial (.make coreId coreIpAddr corePort)) events
      state)
    (successful : state.AllSuccessful host external session)
    (none : state.NoneOutstanding session) :
    state.description session = state.lastAsked session := by
  have following : state.Following session := by
    refine run.traceInvariant (fun _ state => state.AllSuccessful host external session →
      state.Following session) (fun _ => ⟨nofun, fun _ => Or.inl rfl⟩) ?_ successful
    intro events state event next run before meets taken successful
    have stepped := stepped_of_step taken
    obtain ⟨timely, caused, once⟩ := run_onPunctual rfl run
    obtain ⟨timelyAfter, causedAfter, _⟩ := run_onPunctual rfl (run.snoc meets taken)
    have attributed := run_attributed (run.snoc meets taken)
    refine (before (successful.before stepped)).step
      (successful.invoked timelyAfter.undisturbed causedAfter attributed) meets.1 ?_ timely.sound
      once (run_numbered run) stepped
    exact fun id waiting =>
      ⟨waiting.1, (timely.unanswered_iff caused once id).mpr waiting.2⟩
  cases last : state.lastAsked session with
  | none =>
      rcases following.unregistered last with gone | ⟨id, request, unfired⟩
      · exact gone
      · obtain ⟨timely, caused, once⟩ := run_onPunctual rfl run
        exact absurd ⟨request, (timely.unanswered_iff caused once id).mpr unfired⟩ (none id).2
  | some description => exact (following.registered description last).1

/-! ### Registering during an unregistration -/

/-- Alice registers a description with the data model "a". -/
def registerOnce : List (CoreEvent Int) :=
  [.start 0 "alice",
    .envelope 0 ∅ [0x08, 0x01, 0x2a, 0x07, 0x0a, 0x05, 0x0a, 0x03, 0x0a, 0x01, 0x61]] ++
  answeredUnder 0 0x08

/-- She unregisters it and registers "b" before the search service answers. -/
def registerDuring : List (CoreEvent Int) :=
  registerOnce ++
  [.envelope 0 ∅ [0x08, 0x02, 0x32, 0x00],
    .envelope 0 ∅ [0x08, 0x03, 0x2a, 0x07, 0x0a, 0x05, 0x0a, 0x03, 0x0a, 0x01, 0x62]] ++
  answeredUnder 1 0x02 ++ answeredUnder 2 0x04

/-- Requests that were answered are not outstanding. -/
theorem noneOutstanding_of_answered {state : CoreState Int}
    (idle : state.search.processing = none)
    (answered : ∀ id < state.log.length,
      (state.search.arrived.any fun arrival => arrival.1 == some id) = true) :
    state.NoneOutstanding 0 := by
  have settled : ∀ {operation : SessionOperation} {id : RequestId},
      ¬ state.Outstanding 0 operation id := by
    rintro operation id ⟨⟨_, _, _, found, _⟩, unanswered⟩
    obtain ⟨below, _⟩ := List.getElem?_eq_some_iff.mp found
    obtain ⟨⟨origin, bytes⟩, arrived, same⟩ := List.any_eq_true.mp (answered id below)
    cases eq_of_beq same
    obtain ⟨_, processing, _⟩ := unanswered.2 ⟨bytes, arrived⟩
    rw [idle] at processing
    cases processing
  exact fun id => ⟨settled, settled⟩

theorem allSuccessful_of_all {state : CoreState Int}
    (written : ∀ id < state.log.length,
      ((state.search.issued id).map fun issued => issued.write) = some (.handled .success))
    (answered : (state.search.arrived.all fun (origin, bytes) =>
      (SearchState.messageOf .little SearchState.shortExternal origin bytes).all fun answer =>
        answer.header.success) = true) :
    state.AllSuccessful .little SearchState.shortExternal 0 where
  written id operation request ec asked _ issued := by
    obtain ⟨_, _, _, found, _⟩ := asked
    obtain ⟨below, _⟩ := List.getElem?_eq_some_iff.mp found
    have status := written id below
    rw [issued] at status
    cases status
    rfl
  answered id operation bytes answer _ _ arrived message := by
    have all := List.all_eq_true.mp answered _ arrived
    dsimp only at all
    rw [message] at all
    exact all

/-- The search client takes a punctual step, if any. -/
def Punctually (state : CoreState Int) (event : CoreEvent Int) : Prop :=
  OnSearch shortEnvelope (SearchState.Punctual .little SearchState.shortExternal) state event

theorem punctually_of_other {state : CoreState Int} {event : SearchEvent Int}
    (notCall : ∀ id operation agent msgId, event ≠ .call id operation agent msgId)
    (notFrame : ∀ origin bytes, event ≠ .frame origin bytes) :
    Punctually state (.search event) := by
  rintro _ ⟨⟩
  exact SearchState.punctual_of_other notCall notFrame

/-- An envelope whose request is made under a free key. -/
theorem punctually_envelope {state : CoreState Int} {buffer : Buffer} {id : RequestId}
    {call : SearchCall Int} {agent : String} {msgId : UInt32}
    (stands : state.searchEvent shortEnvelope (.envelope 0 ∅ buffer) =
      some (.call id call agent msgId))
    (free : ¬ state.search.Occupied (OefSearchClient.generateSmsgId
      SearchState.shortExternal.hash agent msgId).toUInt32) :
    Punctually state (.envelope 0 ∅ buffer) := by
  intro searchEvent stands'
  rw [stands] at stands'
  cases stands'
  refine ⟨SearchState.honestService_of_other nofun, ?_, fun _ _ same => nomatch same⟩
  rintro _ _ _ _ ⟨⟩
  exact free

/-- The successful answer to a request that was written. -/
theorem punctually_answered {state : CoreState Int} {id : RequestId} {headerId : UInt8}
    {request : SendRequest Int}
    (issued : state.search.issued id = some ⟨request, .handled .success⟩)
    (unanswered : ¬ state.search.Answered id)
    (message : SearchState.messageOf .little SearchState.shortExternal (some id)
      (OefSearchClient.frame [0x10, headerId, 0x1a, 0x02, 0x08, 0x01] []) =
        some ⟨some id, { uri := "", id := request.header.id, success := true }, none⟩) :
    Punctually state (.search (.frame (some id)
      (OefSearchClient.frame [0x10, headerId, 0x1a, 0x02, 0x08, 0x01] []))) := by
  rintro _ ⟨⟩
  refine ⟨?_, SearchState.freeKey_of_other nofun, ?_⟩
  · rintro _ _ ⟨⟩
    refine ⟨id, request, _, rfl, issued, Or.inr ⟨_, rfl, rfl⟩, unanswered, fun answer found => ?_⟩
    rw [message] at found
    cases found
    rfl
  · rintro _ _ ⟨⟩
    refine ⟨fun other write found => ?_, ?_⟩
    · rw [issued] at found
      cases found
      exact ⟨_, rfl⟩
    · rw [message]
      exact Option.some_ne_none _

theorem registerOnce_conditions :
    AlongExecution (fun state event => NoOverlap shortEnvelope 0 state event ∧
      Punctually state event) shortStep (initial SearchState.pluto) registerOnce := by
  have other : ∀ (state : CoreState Int) (event : SearchEvent Int),
      NoOverlap shortEnvelope 0 state (.search event) :=
    fun _ _ _ _ _ same => nomatch same
  refine And.intro ⟨fun _ _ _ same => (nomatch same), fun _ stands => nomatch stands⟩ <|
    And.intro ⟨?_, ?_⟩ <|
    And.intro ⟨other _ _, punctually_of_other nofun nofun⟩ <|
    And.intro ⟨other _ _, punctually_of_other nofun nofun⟩ <|
    And.intro ⟨other _ _, punctually_answered rfl nofun rfl⟩ <|
    And.intro ⟨other _ _, punctually_of_other nofun nofun⟩ <|
    And.intro ⟨other _ _, punctually_of_other nofun nofun⟩ trivial
  · rintro directory buffer desc _ _ id ⟨⟨_, _, _, found, _⟩, _⟩
    cases found
  · refine punctually_envelope rfl ?_
    rintro (⟨_, _, _, issued, _⟩ | saved)
    · cases issued
    · exact saved rfl

/-- Her description stays. -/
theorem run_description_registerOnce :
    (after registerOnce).description 0 = (after registerOnce).lastAsked 0 := by
  have executed : execute shortStep (initial SearchState.pluto) registerOnce =
      some (after registerOnce) := rfl
  refine run_description (runWithin_of_execute executed registerOnce_conditions)
    (allSuccessful_of_all ?_ rfl) (noneOutstanding_of_answered rfl ?_)
  · decide
  · decide

theorem registerDuring_punctually :
    AlongExecution Punctually shortStep (initial SearchState.pluto) registerDuring := by
  refine And.intro (fun _ stands => nomatch stands) <| And.intro (punctually_envelope rfl ?_) <|
    And.intro (punctually_of_other nofun nofun) <|
    And.intro (punctually_of_other nofun nofun) <|
    And.intro (punctually_answered rfl nofun rfl) <|
    And.intro (punctually_of_other nofun nofun) <|
    And.intro (punctually_of_other nofun nofun) <|
    And.intro (punctually_envelope rfl ?_) <| And.intro (punctually_envelope rfl ?_) <|
    And.intro (punctually_of_other nofun nofun) <|
    And.intro (punctually_of_other nofun nofun) <|
    And.intro (punctually_answered rfl ?_ rfl) <|
    And.intro (punctually_of_other nofun nofun) <|
    And.intro (punctually_of_other nofun nofun) <|
    And.intro (punctually_of_other nofun nofun) <|
    And.intro (punctually_of_other nofun nofun) <|
    And.intro (punctually_answered rfl ?_ rfl) <|
    And.intro (punctually_of_other nofun nofun) <|
    And.intro (punctually_of_other nofun nofun) trivial
  · rintro (⟨_, _, _, issued, _⟩ | saved)
    · cases issued
    · exact saved rfl
  · rintro (⟨_ | _, _, _, issued, _, key⟩ | saved)
    · cases issued
      exact absurd key (by decide)
    · cases issued
    · exact saved rfl
  · rintro (⟨_ | _ | _, _, _, issued, _, key⟩ | saved)
    · cases issued
      exact absurd key (by decide)
    · cases issued
      exact absurd key (by decide)
    · cases issued
    · exact saved rfl
  · rintro ⟨_, arrived⟩
    cases List.mem_singleton.mp arrived
  · rintro ⟨_, arrived⟩
    cases arrived with
    | tail _ arrived => cases List.mem_singleton.mp arrived

/-- **The description that was registered last is cleared**: all three requests
were answered successfully, under free keys and after their completion handlers. -/
theorem registerDuring_cleared :
    RunWithin Punctually shortStep (initial SearchState.pluto) registerDuring
        (after registerDuring) ∧
      (after registerDuring).AllSuccessful .little SearchState.shortExternal 0 ∧
      (after registerDuring).NoneOutstanding 0 ∧
      ((after registerDuring).lastAsked 0).map (fun asked => asked.model.name) = some "b" ∧
      (after registerDuring).description 0 = none := by
  refine ⟨runWithin_of_execute rfl registerDuring_punctually, allSuccessful_of_all ?_ rfl,
    noneOutstanding_of_answered rfl ?_, rfl, rfl⟩
  · decide
  · decide

end CoreState

end OefCore
