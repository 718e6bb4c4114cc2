import Mathlib.Data.List.Infix
import OefCore.Comm.Transport
import OefCore.Server.Order

/-! # From agent to agent

The messages of one agent to another one pass two connections and the handlers between
them. The handlers of the first connection are given what its receives end with: the key,
the answer to the phrase, and from then on envelopes (`OefCore.NodeState.Given`). The
messages to the second connection are sent in the order in which the handlers start
their sends. On both connections writes are taken to be orderly
(`OefCore.AsioComm.Line.Orderly`), which the core does not ensure for its own ones.

What the second agent receives from the first one is in the order in which the first one
wrote it, nothing twice, and nothing that was not written for it; all of it, when nothing
is on its way and the second agent was registered at all times
(`OefCore.NodeState.run_conversation`).
-/

namespace OefCore

variable {Double : Type}

namespace NodeState

/-- The buffer that a handler of a connection is given by its receive. -/
def given (connection : SessionId) : NodeEvent Double → Option Buffer
  | .receiveId reader ec buffer | .receiveAnswer reader ec buffer | .read reader ec buffer =>
      if reader = connection ∧ ec.failed = false then some buffer else none
  | _ => none

/-- The same for the handler that reads envelopes. -/
def givenEnvelope (connection : SessionId) : NodeEvent Double → Option Buffer
  | .read reader ec buffer =>
      if reader = connection ∧ ec.failed = false then some buffer else none
  | _ => none

/-- What a connection was given, and what of it as an envelope, by the stage of its handshake
and whether it has a session. -/
inductive Given : Option HandshakeStage → Bool → List Buffer → List Buffer → Prop where
  | unaccepted : Given none false [] []
  | awaitId : Given (some .awaitId) false [] []
  | replying {key : String} {reply : Server.Phrase} {id : Buffer} :
      Given (some (.replying key reply)) false [id] []
  | awaitAnswer {key : String} {id : Buffer} : Given (some (.awaitAnswer key)) false [id] []
  | refused {buffers : List Buffer} : Given (some .closed) false buffers []
  /-- After the key and the answer to the phrase, everything is an envelope. -/
  | added {key : String} {reply : Server.Connected} {id answer : Buffer}
      {envelopes : List Buffer} :
      Given (some (.added key reply)) true (id :: answer :: envelopes) envelopes
  | confirming {key : String} {added : Bool} {reply : Server.Connected} {id answer : Buffer}
      {envelopes : List Buffer} :
      Given (some (.confirming key added reply)) true (id :: answer :: envelopes) envelopes
  | confirmed {key : String} {id answer : Buffer} {envelopes : List Buffer} :
      Given (some (.confirmed key)) true (id :: answer :: envelopes) envelopes
  | closed {id answer : Buffer} {envelopes : List Buffer} :
      Given (some .closed) true (id :: answer :: envelopes) envelopes

/-- A message from one agent to another one, as it is heard. -/
def heardOf (origin destination : String) (envelope : Envelope Double) :
    Option (ServerMessage Double) :=
  match envelope.payload with
  | .sendMessage message =>
      if message.destination = destination then
        some (.agentMessage (AgentSession.forwardedMessage origin envelope.msgId message))
      else none
  | _ => none

/-- Whenever the speaker reads an envelope, the listener is registered. -/
def Attends (speaker listener : SessionId) (destination : String) (state : NodeState Double)
    (event : NodeEvent Double) : Prop :=
  givenEnvelope speaker event ≠ none → state.directory.lookup destination = some listener

/-- What was sent to a connection, in order. -/
def sentTo (state : NodeState Double) (connection : SessionId) : List (Sent Double) :=
  state.sent.filter fun sent => sent.connection = connection

variable {parsers : NodeParsers Double} {state next : NodeState Double} {event : NodeEvent Double}
  {connection : SessionId}

/-! ### What the handlers are given -/

/-- A first message that is replied to was read. -/
theorem read_of_newSession {parse : ParseFromArray Agent.Server.ID} {directory : AgentDirectory}
    {ec : ErrorCode} {buffer : Buffer} {result : String × Server.Phrase}
    (replied : CoreServer.newSession parse directory ec buffer = some result) :
    ec.failed = false := by
  unfold CoreServer.newSession at replied
  split at replied
  · cases replied
  · rename_i read
    exact Bool.eq_false_iff.mpr read

section Given

variable {stage : Option HandshakeStage} {buffers envelopes : List Buffer}

/-- A connection with a session was given its envelopes after two other messages. -/
theorem Given.envelopes_eq (given : Given stage true buffers envelopes) :
    envelopes = buffers.drop 2 := by
  cases given with
  | added | confirming | confirmed | closed => rfl

/-- The next envelope. -/
theorem Given.snoc (given : Given stage true buffers envelopes) (envelope : Buffer) :
    Given stage true (buffers ++ [envelope]) (envelopes ++ [envelope]) := by
  cases given with
  | added => exact .added
  | confirming => exact .confirming
  | confirmed => exact .confirmed
  | closed => exact .closed

/-- **One step** gives a connection the next buffer that its handshake waits for, or its read
loop, or nothing. -/
theorem Given.step
    (before : Given (state.stage connection) (state.session connection).isSome buffers envelopes)
    (stepped : Stepped parsers state event next) :
    Given (next.stage connection) (next.session connection).isSome
      (buffers ++ (given connection event).toList)
      (envelopes ++ (givenEnvelope connection event).toList) := by
  have kept : ∀ {after : NodeState Double}, after.stage connection = state.stage connection →
      (after.session connection).isSome = (state.session connection).isSome →
        given connection event = none ∧ givenEnvelope connection event = none →
          Given (after.stage connection) (after.session connection).isSome
            (buffers ++ (given connection event).toList)
            (envelopes ++ (givenEnvelope connection event).toList) := by
    rintro after stage session ⟨nothing, none⟩
    rw [stage, session, nothing, none, Option.toList_none, List.append_nil, List.append_nil]
    exact before
  -- the handshake of one connection goes on, and it is given what it waits for
  have moved : ∀ {base : NodeState Double} {other : SessionId} {stage : HandshakeStage},
      base.stage = state.stage → base.session = state.session →
        (connection ≠ other →
          given connection event = none ∧ givenEnvelope connection event = none) →
          (connection = other → ∀ present,
            Given (state.stage connection) present buffers envelopes →
              Given (some stage) present (buffers ++ (given connection event).toList)
                (envelopes ++ (givenEnvelope connection event).toList)) →
            Given ((base.setStage other stage).stage connection)
              ((base.setStage other stage).session connection).isSome
              (buffers ++ (given connection event).toList)
              (envelopes ++ (givenEnvelope connection event).toList) := by
    intro base other stage stages sessions elsewhere here
    have same : (base.setStage other stage).session = state.session := sessions
    by_cases itself : connection = other
    · rw [setStage_stage, if_pos itself, same]
      exact here itself _ before
    · refine kept ?_ (by rw [same]) (elsewhere itself)
      rw [setStage_stage, if_neg itself, stages]
  have unread : ∀ {other : SessionId} {ec : ErrorCode} {buffer : Buffer}, connection ≠ other →
      (if other = connection ∧ ec.failed = false then some buffer else none) = none :=
    fun different => if_neg fun here => different here.1.symm
  have taken : ∀ {ec : ErrorCode} {buffer : Buffer}, ec.failed = false →
      (if connection = connection ∧ ec.failed = false then some buffer else none) = some buffer :=
    fun read => if_pos ⟨rfl, read⟩
  -- it is given the answer to its phrase, and has a session
  have constructs : ∀ {base : NodeState Double} {other : SessionId} {self : AgentSession Double}
      {stage : HandshakeStage} {key : String} {ec : ErrorCode} {buffer : Buffer},
      event = .receiveAnswer other ec buffer → base.stage = state.stage →
        base.session = state.session → state.stage other = some (.awaitAnswer key) →
          ec.failed = false → (∀ id answer, Given (some stage) true [id, answer] []) →
            Given (((base.setSession other self).setStage other stage).stage connection)
              (((base.setSession other self).setStage other stage).session connection).isSome
              (buffers ++ (given connection event).toList)
              (envelopes ++ (givenEnvelope connection event).toList) := by
    rintro base other self stage key ec buffer rfl stages sessions waiting read here
    have same : ((base.setSession other self).setStage other stage).session =
        (base.setSession other self).session := rfl
    by_cases itself : connection = other
    · subst itself
      rw [waiting] at before
      rw [setStage_stage, if_pos rfl, same, setSession_session, if_pos rfl, given, taken read]
      generalize (state.session connection).isSome = present at before
      cases before
      exact here _ buffer
    · refine kept ?_ ?_ ⟨unread itself, rfl⟩
      · rw [setStage_stage, if_neg itself]
        exact congrFun stages connection
      · rw [same, setSession_session, if_neg itself, sessions]
  -- a session reads its next envelope
  have reads : ∀ {after : NodeState Double} {other : SessionId} {self changed : AgentSession Double}
      {ec : ErrorCode} {buffer : Buffer}, event = .read other ec buffer →
        state.session other = some self → ec.failed = false → after.stage = state.stage →
          after.session = (state.setSession other changed).session →
            Given (after.stage connection) (after.session connection).isSome
              (buffers ++ (given connection event).toList)
              (envelopes ++ (givenEnvelope connection event).toList) := by
    rintro after other self changed ec buffer rfl there read stages sessions
    by_cases itself : connection = other
    · subst itself
      rw [there] at before
      rw [stages, sessions, setSession_session, if_pos rfl, given, givenEnvelope, taken read]
      exact before.snoc buffer
    · refine kept (congrFun stages connection) ?_ ⟨unread itself, unread itself⟩
      rw [sessions, setSession_session, if_neg itself]
  cases stepped with
  | accepted fresh =>
      refine moved rfl rfl (fun _ => ⟨rfl, rfl⟩) ?_
      rintro rfl present before
      rw [fresh] at before
      cases before
      exact .awaitId
  | unidentified waiting =>
      refine moved rfl rfl (fun different => ⟨unread different, rfl⟩) ?_
      rintro rfl present before
      rw [waiting] at before
      cases before
      exact .refused
  | identified waiting result =>
      refine moved rfl rfl (fun different => ⟨unread different, rfl⟩) ?_
      rintro rfl present before
      rw [waiting] at before
      rw [given, taken (read_of_newSession result)]
      cases before
      exact .replying
  | phraseSent replying =>
      refine moved rfl rfl (fun _ => ⟨rfl, rfl⟩) ?_
      rintro rfl present before
      rw [replying] at before
      cases before
      exact .awaitAnswer
  | failureSent replying =>
      refine moved rfl rfl (fun _ => ⟨rfl, rfl⟩) ?_
      rintro rfl present before
      rw [replying] at before
      cases before
      exact .refused
  | unanswered waiting =>
      refine moved rfl rfl (fun different => ⟨unread different, rfl⟩) ?_
      rintro rfl present before
      rw [waiting] at before
      cases before
      exact .refused
  | added waiting read => exact constructs rfl rfl rfl waiting read fun _ _ => .added
  | rejected waiting read => exact constructs rfl rfl rfl waiting read fun _ _ => .confirming
  | started there =>
      refine moved rfl rfl (fun _ => ⟨rfl, rfl⟩) ?_
      rintro rfl present before
      rw [there] at before
      cases before
      exact .confirming
  | @statusSent other key added reply confirming =>
      refine moved rfl rfl (fun _ => ⟨rfl, rfl⟩) ?_
      rintro rfl present before
      rw [confirming] at before
      cases before
      cases added with
      | true => exact .confirmed
      | false => exact .closed
  | ended reading there failed =>
      have silent : ∀ {other : SessionId} {ec : ErrorCode} {buffer : Buffer}, ec.failed = true →
          (if other = connection ∧ ec.failed = false then some buffer else none) = none :=
        fun failed => if_neg fun here => Bool.noConfusion (failed.symm.trans here.2)
      exact kept rfl rfl ⟨silent failed, silent failed⟩
  | processed _ there read | requested _ there read | answering _ there read
    | forwarding _ there read => exact reads rfl there read rfl rfl
  | answerSent | forwarded | written => exact kept rfl rfl ⟨rfl, rfl⟩
  | @searchAnswered session self continuation ec response there =>
      refine kept rfl ?_ ⟨rfl, rfl⟩
      change ((state.setSession session _).session connection).isSome = _
      rw [setSession_session]
      split
      · rename_i same
        rw [same, there]
        rfl
      · rfl

/-- What the last of some events selects. -/
theorem filterMap_snoc {Event Output : Type*} (selected : Event → Option Output)
    (events : List Event) (event : Event) :
    (events ++ [event]).filterMap selected =
      events.filterMap selected ++ (selected event).toList := by
  rw [List.filterMap_append]
  cases there : selected event with
  | none => exact congrArg _ (List.filterMap_cons_none there)
  | some output => exact congrArg _ (List.filterMap_cons_some there)

/-- In every run a connection was given two messages for its handshake, and then envelopes. -/
theorem run_given {events : List (NodeEvent Double)}
    (run : Run (NodeState.step parsers) initial events state) (connection : SessionId) :
    Given (state.stage connection) (state.session connection).isSome
      (events.filterMap (given connection)) (events.filterMap (givenEnvelope connection)) := by
  refine run.traceInvariant (fun events state =>
    Given (state.stage connection) (state.session connection).isSome
      (events.filterMap (given connection)) (events.filterMap (givenEnvelope connection)))
    .unaccepted ?_
  intro events state event next _ before _ taken
  rw [filterMap_snoc, filterMap_snoc]
  exact before.step (stepped_of_step taken)

end Given

/-! ### What is heard -/

section Heard

variable {speaker listener : SessionId} {origin destination : String}

/-- The messages among some sends that go to a connection. -/
def wordsTo (connection : SessionId) (sends : List (Sent Double)) : List (ServerMessage Double) :=
  (sends.filter fun sent => sent.connection = connection).map fun sent => sent.message

theorem wordsTo_append (connection : SessionId) (first second : List (Sent Double)) :
    wordsTo connection (first ++ second) =
      wordsTo connection first ++ wordsTo connection second := by
  rw [wordsTo, List.filter_append, List.map_append, wordsTo, wordsTo]

/-- What the listener hears of an envelope that the speaker is given with an event. -/
def heardFrom (parsers : NodeParsers Double) (speaker : SessionId) (origin destination : String)
    (event : NodeEvent Double) : Option (ServerMessage Double) :=
  (givenEnvelope speaker event).bind fun buffer =>
    heardOf origin destination (Pbs.deserialize parsers.envelope buffer)

/-- An envelope has the listener sent what it hears of it, or nothing, when the listener is
not registered. -/
theorem wordsTo_routeEnvelope (sessions : state.Sessions) (apart : speaker ≠ listener)
    (own : ∀ other, state.session listener = some other → other.publicKey = destination)
    (envelope : Envelope Double) :
    (wordsTo listener (routeEnvelope state.directory speaker origin envelope)).Sublist
        (heardOf origin destination envelope).toList ∧
      (state.directory.lookup destination = some listener →
        wordsTo listener (routeEnvelope state.directory speaker origin envelope) =
          (heardOf origin destination envelope).toList) := by
  obtain ⟨msgId, payload⟩ := envelope
  cases payload with
  | sendMessage message =>
      dsimp only [routeEnvelope, AgentDirectory.session, heardOf]
      cases found : state.directory.lookup message.destination with
      | none =>
          dsimp only
          rw [wordsTo, List.filter_cons_of_neg (by simpa using apart)]
          refine ⟨List.nil_sublist _, fun attends => ?_⟩
          rw [if_neg]
          · rfl
          · rintro rfl
            rw [found] at attends
            cases attends
      | some target =>
          dsimp only
          by_cases heard : target = listener
          · subst heard
            obtain ⟨other, there, same⟩ := sessions.own _ _ found
            have named : message.destination = destination := same.symm.trans (own other there)
            rw [if_pos named, wordsTo, List.filter_cons_of_pos (by simp)]
            exact ⟨List.Sublist.refl _, fun _ => rfl⟩
          · rw [wordsTo, List.filter_cons_of_neg (by simpa using heard)]
            refine ⟨List.nil_sublist _, fun attends => ?_⟩
            rw [if_neg]
            · rfl
            · rintro rfl
              exact heard (Option.some.inj (found.symm.trans attends))
  | registerService | unregisterService | registerDescription | unregisterDescription
    | searchServices | searchServicesWide | searchAgents | payloadNotSet =>
      exact ⟨List.nil_sublist _, fun _ => rfl⟩

/-- The same for an event. -/
theorem wordsTo_route (sessions : state.Sessions) (apart : speaker ≠ listener)
    (own : ∀ other, state.session listener = some other → other.publicKey = destination)
    (event : NodeEvent Double) :
    (wordsTo listener (route parsers speaker origin state event)).Sublist
        (heardFrom parsers speaker origin destination event).toList ∧
      (Attends speaker listener destination state event →
        wordsTo listener (route parsers speaker origin state event) =
          (heardFrom parsers speaker origin destination event).toList) := by
  cases event with
  | accept | receiveId | receiveAnswer | handshake | deliver | written | answer =>
      exact ⟨.slnil, fun _ => rfl⟩
  | read reader ec buffer =>
      by_cases here : reader = speaker ∧ ec.failed = false
      · have envelope : givenEnvelope speaker (.read reader ec buffer : NodeEvent Double) =
            some buffer := if_pos here
        rw [route, if_pos here, Attends, heardFrom, envelope, Option.bind_some]
        obtain ⟨part, whole⟩ := wordsTo_routeEnvelope sessions apart own
          (Pbs.deserialize parsers.envelope buffer)
        exact ⟨part, fun attends => whole (attends (Option.some_ne_none _))⟩
      · have nothing : givenEnvelope speaker (.read reader ec buffer : NodeEvent Double) = none :=
          if_neg here
        rw [route, if_neg here, heardFrom, nothing]
        exact ⟨.slnil, fun _ => rfl⟩

/-- Along a run, what the speaker has settled for the listener is, in order, what the listener
hears of its envelopes; all of it, if the listener is registered whenever the speaker reads. -/
theorem run_heard {condition : NodeState Double → NodeEvent Double → Prop}
    {events : List (NodeEvent Double)}
    (run : RunWithin condition (NodeState.step parsers) initial events state)
    (apart : speaker ≠ listener)
    (speaks : ∀ self, state.session speaker = some self → self.publicKey = origin)
    (listens : ∀ other, state.session listener = some other → other.publicKey = destination) :
    (wordsTo listener (state.settled speaker)).Sublist
        (events.filterMap (heardFrom parsers speaker origin destination)) ∧
      ((∀ state event, condition state event → Attends speaker listener destination state event) →
        wordsTo listener (state.settled speaker) =
          events.filterMap (heardFrom parsers speaker origin destination)) := by
  induction run with
  | nil => exact ⟨.slnil, fun _ => rfl⟩
  | @snoc events state next event run allowed taken ih =>
      have stepped := stepped_of_step taken
      have constructed := run_constructed run
      obtain ⟨part, whole⟩ := ih (stepped.own_before constructed speaks)
        (stepped.own_before constructed listens)
      obtain ⟨now, allNow⟩ := wordsTo_route (run_sessions run) apart
        (stepped.own_before constructed listens) event
      rw [stepped.settled_eq (run_sessions run) (stepped.own_before constructed speaks),
        wordsTo_append, filterMap_snoc]
      refine ⟨part.append now, fun attends => ?_⟩
      rw [whole attends, allNow (attends _ _ allowed)]

/-! ### From one end to the other -/

/-- The messages for the listener among the envelopes that the speaker has written. -/
def wordsFor (parsers : NodeParsers Double) (origin destination : String)
    (written : List Buffer) : List (ServerMessage Double) :=
  written.filterMap fun buffer =>
    heardOf origin destination (Pbs.deserialize parsers.envelope buffer)

/-- What the listener hears of the events of a run are the messages for it among the envelopes
that the speaker was given. -/
theorem filterMap_heardFrom {events : List (NodeEvent Double)}
    (run : Run (NodeState.step parsers) initial events state) {self : AgentSession Double}
    (there : state.session speaker = some self) :
    events.filterMap (heardFrom parsers speaker origin destination) =
      wordsFor parsers origin destination ((events.filterMap (given speaker)).drop 2) := by
  have handed := run_given run speaker
  rw [there] at handed
  rw [← handed.envelopes_eq, wordsFor, List.filterMap_filterMap]
  rfl

/-- **From agent to agent.** One agent writes its messages to its connection, and the handlers
are given what the receives there end with; another agent receives what was sent to its
connection. On both connections no write overlaps another one, and each byte is in memory until
it is written. Then what it receives is a part from the beginning of what was sent to it, and
what comes from the first agent in this part is, in the order in which the first agent wrote
it, what that has written for it, without anything twice. Nothing is left out while the second
agent is registered whenever the first one is read; and it is everything, when nothing is on its
way. -/
theorem run_conversation {host : ByteOrder} {events : List (NodeEvent Double)}
    (run : Run (NodeState.step parsers) initial events state) {self other : AgentSession Double}
    (speaks : state.session speaker = some self) (listens : state.session listener = some other)
    (apart : speaker ≠ listener) {serialize : ServerMessage Double → Buffer}
    {fromSpeaker toListener : AsioComm.Line host}
    (orderlySpeaker : fromSpeaker.Orderly) (orderlyCore : toListener.Orderly)
    (handed : events.filterMap (given speaker) <+: fromSpeaker.received)
    (sends : toListener.sent = (state.sentTo listener).map fun sent => serialize sent.message) :
    ∃ heard : List (Sent Double), heard <+: state.sentTo listener ∧
      toListener.received = heard.map (fun sent => serialize sent.message) ∧
      ((heard.filter fun sent => sent.cause = .envelope speaker).map
          fun sent => sent.message).Sublist
        (wordsFor parsers self.publicKey other.publicKey (fromSpeaker.sent.drop 2)) ∧
      (RunWithin (Attends speaker listener other.publicKey) (NodeState.step parsers) initial events
          state →
        (heard.filter fun sent => sent.cause = .envelope speaker).map (fun sent => sent.message) <+:
          wordsFor parsers self.publicKey other.publicKey (fromSpeaker.sent.drop 2) ∧
        (events.filterMap (given speaker) = fromSpeaker.received →
          unsent speaker (state.readLoop speaker) = [] → fromSpeaker.Drained → toListener.Drained →
            (heard.filter fun sent => sent.cause = .envelope speaker).map
                (fun sent => sent.message) =
              wordsFor parsers self.publicKey other.publicKey (fromSpeaker.sent.drop 2))) := by
  have unique : ∀ {connection : SessionId} {self : AgentSession Double},
      state.session connection = some self →
        ∀ another, state.session connection = some another →
          another.publicKey = self.publicKey := by
    intro connection self there another here
    rw [there] at here
    cases here
    rfl
  obtain ⟨heard, part, received⟩ := List.prefix_map_iff.mp (sends ▸ orderlyCore.received_prefix)
  -- what the listener receives from the speaker is a part of what the speaker has settled
  have settled : (state.sentTo listener).filter (fun sent => sent.cause = .envelope speaker) =
      (state.sentFor speaker).filter fun sent => sent.connection = listener := by
    rw [sentTo, sentFor, List.filter_comm]
  have words : (heard.filter fun sent => sent.cause = .envelope speaker).map
      (fun sent => sent.message) <+: wordsTo listener (state.settled speaker) := by
    rw [NodeState.settled, wordsTo_append]
    have all := (part.filter fun sent => decide (sent.cause = .envelope speaker)).map
      fun sent => sent.message
    rw [settled] at all
    exact all.trans (List.prefix_append _ _)
  -- the envelopes of the speaker are a part of what it has written
  have given : wordsFor parsers self.publicKey other.publicKey
      ((events.filterMap (given speaker)).drop 2) <+:
        wordsFor parsers self.publicKey other.publicKey (fromSpeaker.sent.drop 2) :=
    (List.IsPrefix.drop (handed.trans orderlySpeaker.received_prefix) 2).filterMap _
  obtain ⟨inOrder, _⟩ := run_heard run apart (unique speaks) (unique listens)
  rw [filterMap_heardFrom run speaks] at inOrder
  refine ⟨heard, part, received, words.sublist.trans (inOrder.trans given.sublist), ?_⟩
  intro attended
  obtain ⟨_, whole⟩ := run_heard attended apart (unique speaks) (unique listens)
  have whole := whole fun _ _ attends => attends
  rw [filterMap_heardFrom run speaks] at whole
  refine ⟨words.trans (whole ▸ given), ?_⟩
  intro all nothing drained drainedToo
  have complete : heard = state.sentTo listener := by
    apply part.eq_of_length
    have lengths := congrArg List.length (received.symm.trans
      ((drainedToo.received_eq orderlyCore).trans sends))
    rwa [List.length_map, List.length_map] at lengths
  have quiet : state.settled speaker = state.sentFor speaker := by
    rw [NodeState.settled, nothing, List.append_nil]
  rw [complete, settled, ← drained.received_eq orderlySpeaker, ← all, ← whole, quiet]
  rfl

end Heard

/-! ### One message -/

/-- The key of "a", its answer to the phrase, and a message to "b". -/
def writtenByA : List (WriteEvent Serialized UInt8) :=
  [.start ⟨[0x0a, 0x01, 0x61], by decide⟩, .transfer 0 7,
    .start ⟨[0x0a, 0x01, 0x62], by decide⟩, .transfer 0 3, .transfer 0 4,
    .start ⟨[0x08, 0x01, 0x12, 0x05, 0x08, 0x02, 0x12, 0x01, 0x62], by decide⟩, .transfer 0 13]

def arrivedFromA : List (ReadEvent UInt8) :=
  [.arrive [3, 0, 0, 0, 0x0a, 0x01, 0x61, 3, 0, 0, 0, 0x0a], .transfer 4, .finish, .transfer 3,
    .finish, .transfer 4, .finish, .transfer 1, .arrive [0x01, 0x62, 9, 0, 0, 0], .transfer 2,
    .finish, .transfer 4, .finish, .arrive [0x08, 0x01, 0x12, 0x05, 0x08, 0x02, 0x12, 0x01, 0x62],
    .transfer 9, .finish]

/-- The phrase, as it is sent to "b". -/
def phraseBytes : Serialized where
  bytes := [0x0a, 0x17, 0x52, 0x61, 0x6e, 0x64, 0x6f, 0x6d, 0x6c, 0x79, 0x47, 0x65, 0x6e, 0x65,
    0x72, 0x61, 0x74, 0x65, 0x64, 0x53, 0x74, 0x72, 0x69, 0x6e, 0x67]
  size := by decide

/-- What the messages to "b" are serialized to. -/
def wordBytes : ServerMessage Int → Buffer
  | .phrase (.phrase _) => phraseBytes.bytes
  | .phrase .failure => [0x12, 0x00]
  | .connected connected => [0x08, if connected.status then 0x01 else 0x00]
  | .agentMessage _ => [0x08, 0x01, 0x12, 0x05, 0x08, 0x02, 0x12, 0x01, 0x61]

def writtenToB : List (WriteEvent Serialized UInt8) :=
  [.start phraseBytes, .transfer 0 29, .start ⟨[0x08, 0x01], by decide⟩, .transfer 0 6,
    .start ⟨[0x08, 0x01, 0x12, 0x05, 0x08, 0x02, 0x12, 0x01, 0x61], by decide⟩, .transfer 0 13]

/-- "b" has read the phrase and its status, and not yet all of the message. -/
def arrivedAtB : List (ReadEvent UInt8) :=
  [.arrive ([25, 0, 0, 0] ++ phraseBytes.bytes ++ [2, 0, 0, 0, 0x08, 0x01, 9, 0, 0, 0, 0x08]),
    .transfer 4, .finish, .transfer 25, .finish, .transfer 4, .finish, .transfer 2, .finish,
    .transfer 4, .finish, .transfer 1]

/-- Where writes and reads lead to. -/
def written (writes : List (WriteEvent Serialized UInt8)) : SharedStream Serialized UInt8 :=
  (execute (SharedStream.step (sendToAgent .little)) .idle writes).getD .idle

def arrived (reads : List (ReadEvent UInt8)) :
    Reading AsioComm.ReceiveState UInt8 (ErrorCode × Option Buffer) :=
  (execute (Reading.step (AsioComm.receiveLoop .little)) (.initial .size) reads).getD
    (.initial .size)

def fromA : AsioComm.Line .little where
  writes := writtenByA
  connection := written writtenByA
  written := run_of_execute rfl
  reads := arrivedFromA
  receiver := arrived arrivedFromA
  read := run_of_execute rfl
  carried := ⟨[], rfl⟩

def toB : AsioComm.Line .little where
  writes := writtenToB
  connection := written writtenToB
  written := run_of_execute rfl
  reads := arrivedAtB
  receiver := arrived arrivedAtB
  read := run_of_execute rfl
  carried := ⟨[0x01, 0x12, 0x05, 0x08, 0x02, 0x12, 0x01, 0x61], rfl⟩

theorem fromA_orderly : fromA.Orderly := by
  refine runWithin_of_execute rfl ?_
  exact And.intro (SharedStream.orderly_start rfl _) <|
    And.intro (SharedStream.orderly_transfer _ _) <|
      And.intro (SharedStream.orderly_start rfl _) <|
        And.intro (SharedStream.orderly_transfer _ _) <|
          And.intro (SharedStream.orderly_transfer _ _) <|
            And.intro (SharedStream.orderly_start rfl _) <|
              And.intro (SharedStream.orderly_transfer _ _) trivial

theorem toB_orderly : toB.Orderly := by
  refine runWithin_of_execute rfl ?_
  exact And.intro (SharedStream.orderly_start rfl _) <|
    And.intro (SharedStream.orderly_transfer _ _) <|
      And.intro (SharedStream.orderly_start rfl _) <|
        And.intro (SharedStream.orderly_transfer _ _) <|
          And.intro (SharedStream.orderly_start rfl _) <|
            And.intro (SharedStream.orderly_transfer _ _) trivial

/-- Both connect, and then "a" sends its message to "b". -/
def sendLate : List (NodeEvent Int) :=
  connectBoth ++ [.handshake 1, .handshake 1,
    .read 0 .success [0x08, 0x01, 0x12, 0x05, 0x08, 0x02, 0x12, 0x01, 0x62], .deliver 0]

theorem run_conversation_late : ∃ heard : List (Sent Int), heard <+: afterLate.sentTo 1 ∧
    toB.received = heard.map (fun sent => wordBytes sent.message) ∧
    ((heard.filter fun sent => sent.cause = .envelope 0).map fun sent => sent.message).Sublist
      (wordsFor shortParsers "a" "b" (fromA.sent.drop 2)) ∧
    (RunWithin (Attends 0 1 "b") (NodeState.step shortParsers) initial sendLate afterLate →
      (heard.filter fun sent => sent.cause = .envelope 0).map (fun sent => sent.message) <+:
        wordsFor shortParsers "a" "b" (fromA.sent.drop 2) ∧
      (sendLate.filterMap (given 0) = fromA.received →
        unsent 0 (afterLate.readLoop 0) = [] → fromA.Drained → toB.Drained →
          (heard.filter fun sent => sent.cause = .envelope 0).map (fun sent => sent.message) =
            wordsFor shortParsers "a" "b" (fromA.sent.drop 2))) := by
  have executed : execute (NodeState.step shortParsers) initial sendLate = some afterLate := rfl
  have speaks : afterLate.session 0 = some (.make "a") := rfl
  have listens : afterLate.session 1 = some (.make "b") := rfl
  have handed : sendLate.filterMap (given 0) <+: fromA.received := ⟨[], rfl⟩
  have sends : toB.sent = (afterLate.sentTo 1).map fun sent => wordBytes sent.message := rfl
  exact run_conversation (run_of_execute executed) speaks listens (by decide) fromA_orderly
    toB_orderly handed sends

end NodeState

end OefCore
