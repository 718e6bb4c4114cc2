import OefCore.Server.CoreServer
import OefCore.Session.Messages

/-! # The core server on several threads

`CoreServer::run` has several threads run the handlers of all connections. A handler
is taken apart here into the steps that other handlers can come between: the lookup
in the directory or its change, the start of a session, and every single send. So a
handshake looks up the key, sends its phrase, adds its session, starts it and sends
its status in five steps, and `process_message` looks up its destination and sends to
it in two.

A send is recorded with the connection it goes to and with what it was sent for
(`OefCore.Cause`), which no message says. `OefCore.NodeState.Stepped` lists every way
a step can go.
-/

namespace OefCore

variable {Double : Type}

/-- A message of the server. -/
inductive ServerMessage (Double : Type) where
  | phrase (phrase : Server.Phrase)
  | connected (connected : Server.Connected)
  | agentMessage (message : Server.AgentMessage Double)

/-- What a message is sent for: the handshake of its connection, an envelope of some
session, or an answer of the search service. -/
inductive Cause where
  | handshake
  | envelope (session : SessionId)
  | search
  deriving DecidableEq, Repr

structure Sent (Double : Type) where
  connection : SessionId
  cause : Cause
  message : ServerMessage Double

/-- How far the handshake of a connection is. -/
inductive HandshakeStage where
  | awaitId
  /-- The key is looked up, the answer to it not sent. -/
  | replying (publicKey : String) (reply : Server.Phrase)
  | awaitAnswer (publicKey : String)
  /-- The session is in the directory, not started. -/
  | added (publicKey : String) (reply : Server.Connected)
  /-- The session is started, or was not added; its status is not sent. -/
  | confirming (publicKey : String) (added : Bool) (reply : Server.Connected)
  | confirmed (publicKey : String)
  | closed
  deriving DecidableEq, Repr

/-- What the read loop of a session does: nothing when it is not started or has
ended, a read, or the send an envelope has led to. -/
inductive ReadLoop (Double : Type) where
  | idle
  | reading
  | answering (answer : Server.AgentMessage Double)
  | forwarding (session : SessionId) (message : Server.AgentMessage Double)
      (continuation : MessageContinuation)

/-- The directory, the handshakes, sessions and read loops of the connections, the
outstanding requests and writes with the sessions that wait for them, and everything
that was sent. -/
structure NodeState (Double : Type) where
  directory : AgentDirectory
  stage : SessionId → Option HandshakeStage
  session : SessionId → Option (AgentSession Double)
  readLoop : SessionId → ReadLoop Double
  requests : List (SessionId × SessionContinuation)
  writes : List (SessionId × MessageContinuation)
  sent : List (Sent Double)

inductive NodeEvent (Double : Type) where
  /-- A connection is accepted. -/
  | accept (connection : SessionId)
  /-- Its first message is read and the key looked up, or it cannot be read. -/
  | receiveId (connection : SessionId) (ec : ErrorCode) (buffer : Buffer)
  /-- Its second message is read and its session added, or it cannot be read. -/
  | receiveAnswer (connection : SessionId) (ec : ErrorCode) (buffer : Buffer)
  /-- The handler of its handshake goes on: to a send, or to the start of the session. -/
  | handshake (connection : SessionId)
  /-- A session reads an envelope and processes it up to its send, or cannot read. -/
  | read (session : SessionId) (ec : ErrorCode) (buffer : Buffer)
  /-- The send an envelope has led to. -/
  | deliver (session : SessionId)
  /-- The write of a message to another agent is over. -/
  | written (session : SessionId) (continuation : MessageContinuation) (ec : ErrorCode)
      (length : Nat)
  /-- A request to the search service is answered. -/
  | answer (session : SessionId) (continuation : SessionContinuation) (ec : ErrorCode)
      (response : OefSearchResponse Double)

/-- The parsers of the messages an agent sends. -/
structure NodeParsers (Double : Type) extends HandshakeParsers where
  envelope : ParseFromArray (Envelope Double)

namespace NodeState

def initial : NodeState Double where
  directory := ∅
  stage _ := none
  session _ := none
  readLoop _ := .idle
  requests := []
  writes := []
  sent := []

def setStage (state : NodeState Double) (connection : SessionId) (stage : HandshakeStage) :
    NodeState Double :=
  { state with stage := Function.update state.stage connection (some stage) }

def setSession (state : NodeState Double) (connection : SessionId)
    (session : AgentSession Double) : NodeState Double :=
  { state with session := Function.update state.session connection (some session) }

def setReadLoop (state : NodeState Double) (session : SessionId) (readLoop : ReadLoop Double) :
    NodeState Double :=
  { state with readLoop := Function.update state.readLoop session readLoop }

def send (state : NodeState Double) (connection : SessionId) (cause : Cause)
    (messages : List (ServerMessage Double)) : NodeState Double :=
  { state with
    sent := state.sent ++ messages.map fun message => { connection, cause, message } }

variable (parsers : NodeParsers Double)

/-- The handler of the first message, up to its send. -/
def stepReceiveId (state : NodeState Double) (connection : SessionId) (ec : ErrorCode)
    (buffer : Buffer) : Option (NodeState Double) :=
  match state.stage connection with
  | some .awaitId =>
      match CoreServer.newSession parsers.id state.directory ec buffer with
      | none => some (state.setStage connection .closed)
      | some (publicKey, reply) => some (state.setStage connection (.replying publicKey reply))
  | _ => none

/-- The handler of the second message, up to the addition of the session. -/
def stepReceiveAnswer (state : NodeState Double) (connection : SessionId) (ec : ErrorCode)
    (buffer : Buffer) : Option (NodeState Double) :=
  match state.stage connection with
  | some (.awaitAnswer publicKey) =>
      let (directory, result) :=
        CoreServer.secretHandshake parsers.answer state.directory publicKey connection ec buffer
      match result with
      | none => some ({ state with directory }.setStage connection .closed)
      | some (added, reply) =>
          some (({ state with directory }.setSession connection (.make publicKey)).setStage
            connection (if added then .added publicKey reply
              else .confirming publicKey added reply))
  | _ => none

/-- The rest of the two handlers, one step at a time. -/
def stepHandshake (state : NodeState Double) (connection : SessionId) :
    Option (NodeState Double) :=
  match state.stage connection with
  | some (.replying publicKey (.phrase phrase)) =>
      some ((state.send connection .handshake [.phrase (.phrase phrase)]).setStage connection
        (.awaitAnswer publicKey))
  | some (.replying _ .failure) =>
      some ((state.send connection .handshake [.phrase .failure]).setStage connection .closed)
  | some (.added publicKey reply) =>
      some ((state.setReadLoop connection .reading).setStage connection
        (.confirming publicKey true reply))
  | some (.confirming publicKey added reply) =>
      some ((state.send connection .handshake [.connected reply]).setStage connection
        (if added then .confirmed publicKey else .closed))
  | _ => none

/-- The handler of a read of a session, up to the send of its envelope. -/
def stepRead (state : NodeState Double) (session : SessionId) (ec : ErrorCode)
    (buffer : Buffer) : Option (NodeState Double) :=
  match state.readLoop session, state.session session with
  | .reading, some self =>
      if ec.failed then
        let (directory, _removed) := state.directory.remove self.publicKey
        some ({ state with directory }.setReadLoop session .idle)
      else
        let (self, action) := AgentSession.process parsers.envelope state.directory self buffer
        let state := state.setSession session self
        match action with
        | .nothing => some state
        | .request _ continuation =>
            some { state with requests := state.requests ++ [(session, continuation)] }
        | .send answer => some (state.setReadLoop session (.answering answer))
        | .forward target message continuation =>
            some (state.setReadLoop session (.forwarding target message continuation))
  | _, _ => none

/-- The send of an envelope; the session reads again after it. -/
def stepDeliver (state : NodeState Double) (session : SessionId) : Option (NodeState Double) :=
  match state.readLoop session with
  | .answering answer =>
      some ((state.send session (.envelope session) [.agentMessage answer]).setReadLoop session
        .reading)
  | .forwarding target message continuation =>
      let state := state.send target (.envelope session) [.agentMessage message]
      some ({ state with writes := state.writes ++ [(session, continuation)] }.setReadLoop session
        .reading)
  | _ => none

/-- The completion handler of the write of a message to another agent. -/
def stepWritten (state : NodeState Double) (session : SessionId)
    (continuation : MessageContinuation) (ec : ErrorCode) (length : Nat) :
    Option (NodeState Double) :=
  if (session, continuation) ∈ state.writes then
    some ({ state with writes := state.writes.erase (session, continuation) }.send session
      (.envelope session)
        ((AgentSession.forwardCompleted continuation ec length).map .agentMessage))
  else none

/-- The continuation of a request. -/
def stepAnswer (state : NodeState Double) (session : SessionId)
    (continuation : SessionContinuation) (ec : ErrorCode) (response : OefSearchResponse Double) :
    Option (NodeState Double) :=
  match state.session session with
  | some self =>
      if (session, continuation) ∈ state.requests then
        let (self, answers) := AgentSession.answered self continuation ec response
        some (({ state with requests := state.requests.erase (session, continuation) }.setSession
          session self).send session .search (answers.map .agentMessage))
      else none
  | none => none

def step (state : NodeState Double) : NodeEvent Double → Option (NodeState Double)
  | .accept connection =>
      match state.stage connection with
      | some _ => none
      | none => some (state.setStage connection .awaitId)
  | .receiveId connection ec buffer => stepReceiveId parsers state connection ec buffer
  | .receiveAnswer connection ec buffer => stepReceiveAnswer parsers state connection ec buffer
  | .handshake connection => stepHandshake state connection
  | .read session ec buffer => stepRead parsers state session ec buffer
  | .deliver session => stepDeliver state session
  | .written session continuation ec length => stepWritten state session continuation ec length
  | .answer session continuation ec response => stepAnswer state session continuation ec response

/-- Every way a step can go. -/
inductive Stepped (state : NodeState Double) : NodeEvent Double → NodeState Double → Prop where
  | accepted {connection : SessionId} (fresh : state.stage connection = none) :
      Stepped state (.accept connection) (state.setStage connection .awaitId)
  | unidentified {connection : SessionId} {ec : ErrorCode} {buffer : Buffer}
      (waiting : state.stage connection = some .awaitId)
      (result : CoreServer.newSession parsers.id state.directory ec buffer = none) :
      Stepped state (.receiveId connection ec buffer) (state.setStage connection .closed)
  | identified {connection : SessionId} {ec : ErrorCode} {buffer : Buffer} {publicKey : String}
      {reply : Server.Phrase} (waiting : state.stage connection = some .awaitId)
      (result : CoreServer.newSession parsers.id state.directory ec buffer =
        some (publicKey, reply)) :
      Stepped state (.receiveId connection ec buffer)
        (state.setStage connection (.replying publicKey reply))
  | phraseSent {connection : SessionId} {publicKey phrase : String}
      (replying : state.stage connection = some (.replying publicKey (.phrase phrase))) :
      Stepped state (.handshake connection)
        ((state.send connection .handshake [.phrase (.phrase phrase)]).setStage connection
          (.awaitAnswer publicKey))
  | failureSent {connection : SessionId} {publicKey : String}
      (replying : state.stage connection = some (.replying publicKey .failure)) :
      Stepped state (.handshake connection)
        ((state.send connection .handshake [.phrase .failure]).setStage connection .closed)
  | unanswered {connection : SessionId} {publicKey : String} {ec : ErrorCode} {buffer : Buffer}
      (waiting : state.stage connection = some (.awaitAnswer publicKey))
      (failed : ec.failed = true) :
      Stepped state (.receiveAnswer connection ec buffer) (state.setStage connection .closed)
  | added {connection : SessionId} {publicKey : String} {ec : ErrorCode} {buffer : Buffer}
      (waiting : state.stage connection = some (.awaitAnswer publicKey))
      (read : ec.failed = false) (free : state.directory.lookup publicKey = none) :
      Stepped state (.receiveAnswer connection ec buffer)
        (({ state with directory := state.directory.insert publicKey connection }.setSession
          connection (.make publicKey)).setStage connection (.added publicKey { status := true }))
  | rejected {connection : SessionId} {publicKey : String} {ec : ErrorCode} {buffer : Buffer}
      (waiting : state.stage connection = some (.awaitAnswer publicKey))
      (read : ec.failed = false) (taken : state.directory.lookup publicKey ≠ none) :
      Stepped state (.receiveAnswer connection ec buffer)
        ((state.setSession connection (.make publicKey)).setStage connection
          (.confirming publicKey false { status := false }))
  | started {connection : SessionId} {publicKey : String} {reply : Server.Connected}
      (there : state.stage connection = some (.added publicKey reply)) :
      Stepped state (.handshake connection)
        ((state.setReadLoop connection .reading).setStage connection
          (.confirming publicKey true reply))
  | statusSent {connection : SessionId} {publicKey : String} {added : Bool}
      {reply : Server.Connected}
      (confirming : state.stage connection = some (.confirming publicKey added reply)) :
      Stepped state (.handshake connection)
        ((state.send connection .handshake [.connected reply]).setStage connection
          (if added then .confirmed publicKey else .closed))
  | ended {session : SessionId} {self : AgentSession Double} {ec : ErrorCode} {buffer : Buffer}
      (reading : state.readLoop session = .reading) (there : state.session session = some self)
      (failed : ec.failed = true) :
      Stepped state (.read session ec buffer)
        ({ state with directory := state.directory.erase self.publicKey }.setReadLoop session .idle)
  | processed {session : SessionId} {self after : AgentSession Double} {ec : ErrorCode}
      {buffer : Buffer} (reading : state.readLoop session = .reading)
      (there : state.session session = some self) (read : ec.failed = false)
      (processing : AgentSession.process parsers.envelope state.directory self buffer =
        (after, .nothing)) :
      Stepped state (.read session ec buffer) (state.setSession session after)
  | requested {session : SessionId} {self after : AgentSession Double} {ec : ErrorCode}
      {buffer : Buffer} {call : SearchCall Double} {continuation : SessionContinuation}
      (reading : state.readLoop session = .reading) (there : state.session session = some self)
      (read : ec.failed = false)
      (processing : AgentSession.process parsers.envelope state.directory self buffer =
        (after, .request call continuation)) :
      Stepped state (.read session ec buffer)
        { state.setSession session after with
          requests := state.requests ++ [(session, continuation)] }
  | answering {session : SessionId} {self after : AgentSession Double} {ec : ErrorCode}
      {buffer : Buffer} {answer : Server.AgentMessage Double}
      (reading : state.readLoop session = .reading) (there : state.session session = some self)
      (read : ec.failed = false)
      (processing : AgentSession.process parsers.envelope state.directory self buffer =
        (after, .send answer)) :
      Stepped state (.read session ec buffer)
        ((state.setSession session after).setReadLoop session (.answering answer))
  | forwarding {session target : SessionId} {self after : AgentSession Double} {ec : ErrorCode}
      {buffer : Buffer} {message : Server.AgentMessage Double}
      {continuation : MessageContinuation} (reading : state.readLoop session = .reading)
      (there : state.session session = some self) (read : ec.failed = false)
      (processing : AgentSession.process parsers.envelope state.directory self buffer =
        (after, .forward target message continuation)) :
      Stepped state (.read session ec buffer)
        ((state.setSession session after).setReadLoop session
          (.forwarding target message continuation))
  | answerSent {session : SessionId} {answer : Server.AgentMessage Double}
      (answering : state.readLoop session = .answering answer) :
      Stepped state (.deliver session)
        ((state.send session (.envelope session) [.agentMessage answer]).setReadLoop session
          .reading)
  | forwarded {session target : SessionId} {message : Server.AgentMessage Double}
      {continuation : MessageContinuation}
      (forwarding : state.readLoop session = .forwarding target message continuation) :
      Stepped state (.deliver session)
        ({ state.send target (.envelope session) [.agentMessage message] with
          writes := state.writes ++ [(session, continuation)] }.setReadLoop session .reading)
  | written {session : SessionId} {continuation : MessageContinuation} {ec : ErrorCode}
      {length : Nat} (waiting : (session, continuation) ∈ state.writes) :
      Stepped state (.written session continuation ec length)
        { state with writes := state.writes.erase (session, continuation) }
  | searchAnswered {session : SessionId} {self : AgentSession Double}
      {continuation : SessionContinuation} {ec : ErrorCode} {response : OefSearchResponse Double}
      (there : state.session session = some self)
      (waiting : (session, continuation) ∈ state.requests) :
      Stepped state (.answer session continuation ec response)
        (({ state with requests := state.requests.erase (session, continuation) }.setSession session
          (AgentSession.answered self continuation ec response).1).send session .search
            ((AgentSession.answered self continuation ec response).2.map .agentMessage))

variable {parsers} {state next : NodeState Double}

theorem send_nil (connection : SessionId) (cause : Cause) :
    state.send connection cause [] = state := by
  rw [send, List.map_nil, List.append_nil]

theorem stepped_of_receiveId {connection : SessionId} {ec : ErrorCode} {buffer : Buffer}
    (taken : stepReceiveId parsers state connection ec buffer = some next) :
    Stepped parsers state (.receiveId connection ec buffer) next := by
  unfold stepReceiveId at taken
  split at taken
  · rename_i waiting
    split at taken
    · rename_i result
      cases taken
      exact .unidentified waiting result
    · rename_i result
      cases taken
      exact .identified waiting result
  · cases taken

theorem stepped_of_receiveAnswer {connection : SessionId} {ec : ErrorCode} {buffer : Buffer}
    (taken : stepReceiveAnswer parsers state connection ec buffer = some next) :
    Stepped parsers state (.receiveAnswer connection ec buffer) next := by
  unfold stepReceiveAnswer at taken
  split at taken
  · rename_i publicKey waiting
    cases failed : ec.failed with
    | true =>
        simp only [CoreServer.secretHandshake, failed, ↓reduceIte] at taken
        cases taken
        exact .unanswered waiting failed
    | false =>
        rw [CoreServer.secretHandshake_of_read failed] at taken
        by_cases free : state.directory.lookup publicKey = none
        · rw [AgentDirectory.add_of_free free] at taken
          cases taken
          exact .added waiting failed free
        · rw [AgentDirectory.add_of_taken free] at taken
          cases taken
          exact .rejected waiting failed free
  · cases taken

theorem stepped_of_handshake {connection : SessionId}
    (taken : stepHandshake state connection = some next) :
    Stepped parsers state (.handshake connection) next := by
  unfold stepHandshake at taken
  split at taken
  · rename_i replying
    cases taken
    exact .phraseSent replying
  · rename_i replying
    cases taken
    exact .failureSent replying
  · rename_i there
    cases taken
    exact .started there
  · rename_i confirming
    cases taken
    exact .statusSent confirming
  · cases taken

theorem stepped_of_read {session : SessionId} {ec : ErrorCode} {buffer : Buffer}
    (taken : stepRead parsers state session ec buffer = some next) :
    Stepped parsers state (.read session ec buffer) next := by
  unfold stepRead at taken
  split at taken
  · rename_i self reading there
    split at taken
    · rename_i failed
      cases taken
      exact .ended reading there failed
    · rename_i read
      have read := Bool.eq_false_iff.mpr read
      rcases processing : AgentSession.process parsers.envelope state.directory self buffer with
        ⟨after, action⟩
      rw [processing] at taken
      cases action with
      | nothing =>
          cases taken
          exact .processed reading there read processing
      | request call continuation =>
          cases taken
          exact .requested reading there read processing
      | send answer =>
          cases taken
          exact .answering reading there read processing
      | forward target message continuation =>
          cases taken
          exact .forwarding reading there read processing
  · cases taken

theorem stepped_of_deliver {session : SessionId} (taken : stepDeliver state session = some next) :
    Stepped parsers state (.deliver session) next := by
  unfold stepDeliver at taken
  split at taken
  · rename_i answering
    cases taken
    exact .answerSent answering
  · rename_i forwarding
    cases taken
    exact .forwarded forwarding
  · cases taken

/-- The completion handler of the write of a message sends nothing. -/
theorem stepped_of_written {session : SessionId} {continuation : MessageContinuation}
    {ec : ErrorCode} {length : Nat}
    (taken : stepWritten state session continuation ec length = some next) :
    Stepped parsers state (.written session continuation ec length) next := by
  unfold stepWritten at taken
  split at taken
  · rename_i waiting
    rw [AgentSession.forwardCompleted_eq_nil, List.map_nil, send_nil] at taken
    cases taken
    exact .written waiting
  · cases taken

theorem stepped_of_answer {session : SessionId} {continuation : SessionContinuation}
    {ec : ErrorCode} {response : OefSearchResponse Double}
    (taken : stepAnswer state session continuation ec response = some next) :
    Stepped parsers state (.answer session continuation ec response) next := by
  unfold stepAnswer at taken
  split at taken
  · rename_i self there
    split at taken
    · rename_i waiting
      cases taken
      exact .searchAnswered there waiting
    · cases taken
  · cases taken

theorem stepped_of_step {event : NodeEvent Double}
    (taken : step parsers state event = some next) : Stepped parsers state event next := by
  cases event with
  | accept connection =>
      change (match state.stage connection with
        | some _ => none
        | none => some (state.setStage connection .awaitId)) = some next at taken
      split at taken
      · cases taken
      · rename_i fresh
        cases taken
        exact .accepted fresh
  | receiveId connection ec buffer => exact stepped_of_receiveId taken
  | receiveAnswer connection ec buffer => exact stepped_of_receiveAnswer taken
  | handshake connection => exact stepped_of_handshake taken
  | read session ec buffer => exact stepped_of_read taken
  | deliver session => exact stepped_of_deliver taken
  | written session continuation ec length => exact stepped_of_written taken
  | answer session continuation ec response => exact stepped_of_answer taken

/-- A session finds another one for its envelope. -/
theorem stepRead_of_forward {session target : SessionId} {self after : AgentSession Double}
    {ec : ErrorCode} {buffer : Buffer} {message : Server.AgentMessage Double}
    {continuation : MessageContinuation} (reading : state.readLoop session = .reading)
    (there : state.session session = some self) (read : ec.failed = false)
    (processing : AgentSession.process parsers.envelope state.directory self buffer =
      (after, .forward target message continuation)) :
    stepRead parsers state session ec buffer =
      some ((state.setSession session after).setReadLoop session
        (.forwarding target message continuation)) := by
  simp only [stepRead, reading, there, read, processing, Bool.false_eq_true, ↓reduceIte]

/-- A session has an answer to its envelope. -/
theorem stepRead_of_send {session : SessionId} {self after : AgentSession Double}
    {ec : ErrorCode} {buffer : Buffer} {answer : Server.AgentMessage Double}
    (reading : state.readLoop session = .reading) (there : state.session session = some self)
    (read : ec.failed = false)
    (processing : AgentSession.process parsers.envelope state.directory self buffer =
      (after, .send answer)) :
    stepRead parsers state session ec buffer =
      some ((state.setSession session after).setReadLoop session (.answering answer)) := by
  simp only [stepRead, reading, there, read, processing, Bool.false_eq_true, ↓reduceIte]

/-- A session sends the answer to its envelope. -/
theorem stepDeliver_of_answering {session : SessionId} {answer : Server.AgentMessage Double}
    (answering : state.readLoop session = .answering answer) :
    stepDeliver state session =
      some ((state.send session (.envelope session) [.agentMessage answer]).setReadLoop session
        .reading) := by
  rw [stepDeliver, answering]

/-- A session sends a message to the session it found. -/
theorem stepDeliver_of_forwarding {session target : SessionId}
    {message : Server.AgentMessage Double} {continuation : MessageContinuation}
    (forwarding : state.readLoop session = .forwarding target message continuation) :
    stepDeliver state session =
      some ({ state.send target (.envelope session) [.agentMessage message] with
        writes := state.writes ++ [(session, continuation)] }.setReadLoop session .reading) := by
  rw [stepDeliver, forwarding]
  rfl

/-- A request that is waited for can be answered. -/
theorem stepAnswer_of_waiting {session : SessionId} {self : AgentSession Double}
    {continuation : SessionContinuation} (there : state.session session = some self)
    (waiting : (session, continuation) ∈ state.requests) (ec : ErrorCode)
    (response : OefSearchResponse Double) :
    stepAnswer state session continuation ec response =
      some (({ state with requests := state.requests.erase (session, continuation) }.setSession
        session (AgentSession.answered self continuation ec response).1).send session .search
          ((AgentSession.answered self continuation ec response).2.map .agentMessage)) := by
  rw [stepAnswer, there]
  exact if_pos waiting

@[simp] theorem setStage_stage (connection other : SessionId) (stage : HandshakeStage) :
    (state.setStage connection stage).stage other =
      if other = connection then some stage else state.stage other :=
  Function.update_apply ..

@[simp] theorem setSession_session (connection other : SessionId) (session : AgentSession Double) :
    (state.setSession connection session).session other =
      if other = connection then some session else state.session other :=
  Function.update_apply ..

@[simp] theorem setReadLoop_readLoop (session other : SessionId) (readLoop : ReadLoop Double) :
    (state.setReadLoop session readLoop).readLoop other =
      if other = session then readLoop else state.readLoop other :=
  Function.update_apply ..

end NodeState

end OefCore
