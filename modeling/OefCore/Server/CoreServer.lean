import OefCore.Lib.Run
import OefCore.Lib.UnorderedMap
import OefCore.Proto.Agent
import OefCore.Session.AgentSession

/-! # Handshakes

The classes `AgentDirectory` and `CoreServer`. An agent sends the key it claims,
the server answers with a phrase, or with a failure if a session is registered
under the key, and the answer to the phrase, which is not looked at, makes the
server register a session under the key and confirm the connection. A session
whose connection cannot be read any more removes the entry of its key.

The handlers are functions of what they read (`OefCore.CoreServer.newSession`,
`OefCore.CoreServer.secretHandshake`); the machine of `OefCore.ServerState` runs
them for any number of connections, in any order.
-/

namespace OefCore

/-- `sessions_` of `AgentDirectory`. -/
abbrev AgentDirectory := UnorderedMap String SessionId

namespace AgentDirectory

variable (self : AgentDirectory) (id : String)

def exist : Bool := (self.lookup id).isSome

def add (session : SessionId) : AgentDirectory × Bool :=
  if exist self id then (self, false) else (self.insert id session, true)

def remove : AgentDirectory × Bool := (self.erase id, exist self id)

def session : Option SessionId := self.lookup id

variable {self id} {session : SessionId}

theorem add_of_free (free : self.lookup id = none) :
    self.add id session = (self.insert id session, true) := by
  rw [add, exist, free]
  rfl

theorem add_of_taken (taken : self.lookup id ≠ none) : self.add id session = (self, false) := by
  rw [add, exist, if_pos (Option.isSome_iff_ne_none.mpr taken)]

end AgentDirectory

/-- The parsers of the messages of a handshake. -/
structure HandshakeParsers where
  id : ParseFromArray Agent.Server.ID
  answer : ParseFromArray Agent.Server.Answer

namespace CoreServer

/-- The handler of the first message of a connection: the key it claims, and the
answer to it. Nothing is answered when the message could not be read. No part of
the handler throws, so what it does about exceptions is left out. -/
def newSession (parse : ParseFromArray Agent.Server.ID) (directory : AgentDirectory)
    (ec : ErrorCode) (buffer : Buffer) : Option (String × Server.Phrase) :=
  if ec.failed then none
  else
    let id := Pbs.deserialize parse buffer
    if !directory.exist id.publicKey then
      some (id.publicKey, .phrase "RandomlyGeneratedString")
    else some (id.publicKey, .failure)

/-- The handler of the second message: the directory, whether the session was
added and is started, and the answer. -/
def secretHandshake (parse : ParseFromArray Agent.Server.Answer) (directory : AgentDirectory)
    (publicKey : String) (session : SessionId) (ec : ErrorCode) (buffer : Buffer) :
    AgentDirectory × Option (Bool × Server.Connected) :=
  if ec.failed then (directory, none)
  else
    let _ans := Pbs.deserialize parse buffer
    let (directory, added) := directory.add publicKey session
    if added then (directory, some (added, { status := true }))
    else (directory, some (added, { status := false }))

/-- What an agent is answered is whether its session was added; the message itself
has no part in it. -/
theorem secretHandshake_of_read {parse : ParseFromArray Agent.Server.Answer}
    {directory : AgentDirectory} {publicKey : String} {session : SessionId} {ec : ErrorCode}
    (read : ec.failed = false) (buffer : Buffer) :
    secretHandshake parse directory publicKey session ec buffer =
      ((directory.add publicKey session).1,
        some ((directory.add publicKey session).2,
          { status := (directory.add publicKey session).2 })) := by
  simp only [secretHandshake, read, Bool.false_eq_true, ↓reduceIte]
  cases (directory.add publicKey session).2 with
  | true => rfl
  | false => rfl

end CoreServer

/-- What a connection waits for: the key, the answer to the phrase, or envelopes. -/
inductive ConnectionPhase where
  | awaitId
  | awaitAnswer (publicKey : String)
  | reading (publicKey : String)
  | closed
  deriving DecidableEq, Repr

/-- What was done for a connection under the key it claims. -/
inductive ServerEntry where
  /-- Its first message was answered. -/
  | identified (connection : SessionId) (publicKey : String) (reply : Server.Phrase)
  /-- Its second message was answered, after an attempt to add its session. -/
  | answered (connection : SessionId) (publicKey : String) (added : Bool)
      (reply : Server.Connected)
  /-- The read loop of its session ended, with the result of `remove`. -/
  | ended (connection : SessionId) (publicKey : String) (removed : Bool)
  deriving DecidableEq, Repr

/-- The directory, the connections, and what was done for them so far. A session
has the number of its connection. -/
structure ServerState where
  directory : AgentDirectory
  phase : SessionId → Option ConnectionPhase
  history : List ServerEntry

inductive ServerEvent where
  /-- A connection is accepted. -/
  | accept (connection : SessionId)
  /-- Its first message is read, or cannot be read. -/
  | receiveId (connection : SessionId) (ec : ErrorCode) (buffer : Buffer)
  /-- Its second message is read, or cannot be read. -/
  | receiveAnswer (connection : SessionId) (ec : ErrorCode) (buffer : Buffer)
  /-- Its session reads an envelope, or cannot read one. -/
  | read (connection : SessionId) (ec : ErrorCode) (buffer : Buffer)
  deriving DecidableEq, Repr

namespace ServerState

def initial : ServerState := { directory := ∅, phase := fun _ => none, history := [] }

def setPhase (state : ServerState) (connection : SessionId) (phase : ConnectionPhase) :
    ServerState :=
  { state with phase := Function.update state.phase connection (some phase) }

def record (state : ServerState) (entry : ServerEntry) : ServerState :=
  { state with history := state.history ++ [entry] }

variable (parsers : HandshakeParsers)

def stepReceiveId (state : ServerState) (connection : SessionId) (ec : ErrorCode)
    (buffer : Buffer) : Option ServerState :=
  match state.phase connection with
  | some .awaitId =>
      match CoreServer.newSession parsers.id state.directory ec buffer with
      | none => some (state.setPhase connection .closed)
      | some (publicKey, .phrase phrase) =>
          some ((state.setPhase connection (.awaitAnswer publicKey)).record
            (.identified connection publicKey (.phrase phrase)))
      | some (publicKey, .failure) =>
          some ((state.setPhase connection .closed).record
            (.identified connection publicKey .failure))
  | _ => none

def stepReceiveAnswer (state : ServerState) (connection : SessionId) (ec : ErrorCode)
    (buffer : Buffer) : Option ServerState :=
  match state.phase connection with
  | some (.awaitAnswer publicKey) =>
      let (directory, result) :=
        CoreServer.secretHandshake parsers.answer state.directory publicKey connection ec buffer
      let state := { state with directory }
      match result with
      | none => some (state.setPhase connection .closed)
      | some (added, reply) =>
          -- A session that was not added is dropped without having been started.
          some ((state.setPhase connection (if added then .reading publicKey else .closed)).record
            (.answered connection publicKey added reply))
  | _ => none

/-- `AgentSession::read`; processing an envelope leaves the directory alone. -/
def stepRead (state : ServerState) (connection : SessionId) (ec : ErrorCode) :
    Option ServerState :=
  match state.phase connection with
  | some (.reading publicKey) =>
      if ec.failed then
        let (directory, removed) := state.directory.remove publicKey
        some (({ state with directory }.setPhase connection .closed).record
          (.ended connection publicKey removed))
      else some state
  | _ => none

def step (state : ServerState) : ServerEvent → Option ServerState
  | .accept connection =>
      match state.phase connection with
      | some _ => none
      | none => some (state.setPhase connection .awaitId)
  | .receiveId connection ec buffer => stepReceiveId parsers state connection ec buffer
  | .receiveAnswer connection ec buffer => stepReceiveAnswer parsers state connection ec buffer
  | .read connection ec _ => stepRead state connection ec

/-- Every way a step can go. -/
inductive Stepped (state : ServerState) : ServerEvent → ServerState → Prop where
  | accepted {connection} (fresh : state.phase connection = none) :
      Stepped state (.accept connection) (state.setPhase connection .awaitId)
  | dropped {event connection} (waiting : state.phase connection = some .awaitId ∨
        ∃ publicKey, state.phase connection = some (.awaitAnswer publicKey)) :
      Stepped state event (state.setPhase connection .closed)
  | challenged {connection ec buffer} (waiting : state.phase connection = some .awaitId)
      (free : state.directory.lookup (Pbs.deserialize parsers.id buffer).publicKey = none) :
      Stepped state (.receiveId connection ec buffer)
        ((state.setPhase connection
          (.awaitAnswer (Pbs.deserialize parsers.id buffer).publicKey)).record
            (.identified connection (Pbs.deserialize parsers.id buffer).publicKey
              (.phrase "RandomlyGeneratedString")))
  | refused {connection ec buffer} (waiting : state.phase connection = some .awaitId)
      (taken : state.directory.lookup (Pbs.deserialize parsers.id buffer).publicKey ≠ none) :
      Stepped state (.receiveId connection ec buffer)
        ((state.setPhase connection .closed).record
          (.identified connection (Pbs.deserialize parsers.id buffer).publicKey .failure))
  | connected {connection publicKey ec buffer}
      (waiting : state.phase connection = some (.awaitAnswer publicKey))
      (free : state.directory.lookup publicKey = none) :
      Stepped state (.receiveAnswer connection ec buffer)
        (({ state with directory := state.directory.insert publicKey connection }.setPhase
          connection (.reading publicKey)).record
            (.answered connection publicKey true { status := true }))
  | rejected {connection publicKey ec buffer}
      (waiting : state.phase connection = some (.awaitAnswer publicKey))
      (taken : state.directory.lookup publicKey ≠ none) :
      Stepped state (.receiveAnswer connection ec buffer)
        ((state.setPhase connection .closed).record
          (.answered connection publicKey false { status := false }))
  | processed {connection ec buffer} : Stepped state (.read connection ec buffer) state
  | ended {connection publicKey ec buffer}
      (serving : state.phase connection = some (.reading publicKey)) (failed : ec.failed = true) :
      Stepped state (.read connection ec buffer)
        (({ state with directory := state.directory.erase publicKey }.setPhase connection
          .closed).record
            (.ended connection publicKey (state.directory.lookup publicKey).isSome))

variable {parsers} {state next : ServerState} {event : ServerEvent}

/-- A step goes one of the listed ways. -/
theorem stepped_of_step (taken : step parsers state event = some next) :
    Stepped parsers state event next := by
  cases event with
  | accept connection =>
      simp only [step] at taken
      split at taken
      · cases taken
      · rename_i fresh
        cases taken
        exact .accepted fresh
  | receiveId connection ec buffer =>
      simp only [step, stepReceiveId] at taken
      split at taken
      · rename_i waiting
        by_cases failed : ec.failed = true
        · simp only [CoreServer.newSession, if_pos failed] at taken
          cases taken
          exact .dropped (Or.inl waiting)
        · simp only [CoreServer.newSession, if_neg failed, AgentDirectory.exist] at taken
          cases free : state.directory.lookup (Pbs.deserialize parsers.id buffer).publicKey with
          | none =>
              simp only [free, Option.isSome_none, Bool.not_false, ↓reduceIte] at taken
              cases taken
              exact .challenged waiting free
          | some session =>
              simp only [free, Option.isSome_some, Bool.not_true, Bool.false_eq_true,
                ↓reduceIte] at taken
              cases taken
              exact .refused waiting (free ▸ Option.some_ne_none session)
      · cases taken
  | receiveAnswer connection ec buffer =>
      simp only [step, stepReceiveAnswer] at taken
      split at taken
      · rename_i publicKey waiting
        by_cases failed : ec.failed = true
        · simp only [CoreServer.secretHandshake, if_pos failed] at taken
          cases taken
          exact .dropped (Or.inr ⟨publicKey, waiting⟩)
        · rw [CoreServer.secretHandshake_of_read (Bool.eq_false_iff.mpr failed)] at taken
          by_cases free : state.directory.lookup publicKey = none
          · rw [AgentDirectory.add_of_free free] at taken
            cases taken
            exact .connected waiting free
          · rw [AgentDirectory.add_of_taken free] at taken
            cases taken
            exact .rejected waiting free
      · cases taken
  | read connection ec buffer =>
      simp only [step, stepRead] at taken
      split at taken
      · rename_i publicKey serving
        by_cases failed : ec.failed = true
        · rw [if_pos failed] at taken
          cases taken
          exact .ended serving failed
        · rw [if_neg failed] at taken
          cases taken
          exact .processed
      · cases taken

end ServerState

end OefCore
