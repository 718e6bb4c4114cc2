import OefCore.Comm.Reads
import OefCore.Search.Reads

/-! # Messages across a connection

Sends on one end of a connection and receives on the other. On the way, the writes of
the sends are split into partial writes, the bytes arrive in pieces, and the reads take
them off in pieces of their own.

As long as no write starts before the one before it is complete, and every byte is in
memory until it is written (`SharedStream.Orderly`), what is received is the beginning of
what was sent, message by message, on the connections of the agents
(`OefCore.AsioComm.run_agentTransport`) and on that of the search service
(`OefCore.OefSearchClient.run_searchTransport`).
-/

namespace OefCore

namespace AsioComm

variable {host : ByteOrder}

/-- A message that is there is received the same when more bytes follow. -/
theorem messageReader_append {stream buffer rest : Buffer}
    (found : (messageReader host).read stream = some (buffer, rest)) (more : Buffer) :
    (messageReader host).read (stream ++ more) = some (buffer, rest ++ more) := by
  obtain ⟨taken, received, same⟩ := Option.map_eq_some_iff.mp found
  cases same
  rcases Nat.lt_or_ge stream.length 4 with short | word
  · rw [receiveAsync_of_short host short] at received
    cases received
  · have still : 4 ≤ (stream ++ more).length := by
      rw [List.length_append]
      omega
    rw [receiveAsync_of_word host word] at received ⊢
    dsimp only at received ⊢
    split at received
    · cases received
    · rename_i enough
      cases received
      have alsoThere : ¬ (stream.drop 4 ++ more).length <
          (ByteOrder.load host (stream.take 4)).toNat := by
        rw [List.length_append]
        omega
      simp only [messageReader, receiveAsync_of_word host still,
        List.take_append_of_le_length word, List.drop_append_of_le_length word,
        if_neg alsoThere, if_neg enough,
        List.take_append_of_le_length (Nat.le_of_not_lt enough),
        List.drop_append_of_le_length (Nat.le_of_not_lt enough)]
      rfl

/-- A receive takes off what `AgentSession::send` wrote. -/
theorem messageReader_undoes (message : Serialized) :
    MessageStream.Undoes (messageReader host).read (sendToAgent host)
      (fun message => message.bytes) message := by
  intro rest
  have small : message.bytes.length < 2 ^ 32 := by
    have := message.size
    omega
  have whole : some (receiveAsync host (frame host message.bytes ++ rest)) =
      some ((ErrorCode.success, some message.bytes), rest) := reader_undoes .async small rest
  rw [messageReader, sendToAgent_eq, frameToAgent]
  dsimp only
  rw [Option.some.inj whole]
  rfl

/-- The messages among the endings of all receives. -/
theorem messages_endings (ended : Bool) (stream : Buffer) :
    (endings host ended stream).filterMap message = (receiveAll host stream).1 := by
  have last : message (receiveAsync host (receiveAll host stream).2).1 = none :=
    Option.map_eq_none_iff.mp (MessageStream.read_rest (messageReader host) stream)
  have messages : ∀ buffers : List Buffer,
      (buffers.map fun buffer => (ErrorCode.success, some buffer)).filterMap message =
        buffers := by
    intro buffers
    rw [List.filterMap_map]
    exact List.filterMap_some
  rw [endings, List.filterMap_append, messages]
  cases ended with
  | false => exact List.append_nil _
  | true =>
      rw [if_pos rfl, List.filterMap_cons_none last]
      exact List.append_nil _

variable {writes : List (WriteEvent Serialized UInt8)}
  {connection : SharedStream Serialized UInt8}
  {reads : List (ReadEvent UInt8)}
  {receiver : Reading ReceiveState UInt8 (ErrorCode × Option Buffer)}

/-- From the bytes that have arrived, a part of the messages is received. -/
theorem messages_part
    (sent : RunWithin SharedStream.Orderly (SharedStream.step (sendToAgent host)) .idle writes
      connection)
    (received : Run (Reading.step (receiveLoop host)) (.initial .size) reads receiver)
    (carried : receiver.arrived <+: connection.wire) :
    receiver.outputs.filterMap message <+: connection.started.map fun message => message.bytes := by
  obtain ⟨_, _, _, whole, stuck⟩ := rounds_receiveAll host receiver.closed receiver.arrived
  obtain ⟨soFar, _, _⟩ := Reading.run_reads received whole stuck
  have part : receiver.arrived <+: connection.started.flatMap (sendToAgent host) := by
    rw [← SharedStream.run_wire sent]
    exact carried.trans (List.prefix_append _ _)
  have outputs := soFar.filterMap message
  rw [messages_endings] at outputs
  exact outputs.trans (MessageStream.readAll_part (fun found more =>
    messageReader_append found more) (fun message _ => messageReader_undoes message) part)

/-- From all bytes, all messages are received. -/
theorem messages_whole
    (sent : RunWithin SharedStream.Orderly (SharedStream.step (sendToAgent host)) .idle writes
      connection)
    (received : Run (Reading.step (receiveLoop host)) (.initial .size) reads receiver)
    (written : connection.outstanding = []) (arrived : receiver.arrived = connection.wire)
    (quiet : Reading.Quiet (receiveLoop host) receiver) :
    receiver.outputs.filterMap message = connection.started.map fun message => message.bytes := by
  obtain ⟨_, _, _, whole, stuck⟩ := rounds_receiveAll host receiver.closed receiver.arrived
  obtain ⟨_, complete, _⟩ := Reading.run_reads received whole stuck
  have wire := SharedStream.run_wire sent
  rw [written, List.flatten_nil, List.append_nil] at wire
  rw [complete quiet, messages_endings, arrived, wire, receiveAll,
    MessageStream.readAll_flatMap_nil fun message _ => messageReader_undoes message]

/-- **Messages on the connection of an agent** whose writes are orderly are received whole
and in the order in which they were sent, whatever part of the bytes has arrived; all of
them, when every byte has arrived and the receiver has read what it can. -/
theorem run_agentTransport
    (sent : RunWithin SharedStream.Orderly (SharedStream.step (sendToAgent host)) .idle writes
      connection)
    (received : Run (Reading.step (receiveLoop host)) (.initial .size) reads receiver)
    (carried : receiver.arrived <+: connection.wire) :
    receiver.outputs.filterMap message <+: connection.started.map (fun message => message.bytes) ∧
      (connection.outstanding = [] → receiver.arrived = connection.wire →
        Reading.Quiet (receiveLoop host) receiver →
          receiver.outputs.filterMap message =
            connection.started.map fun message => message.bytes) :=
  ⟨messages_part sent received carried, messages_whole sent received⟩

/-- Two answers are sent one by one, and ten of their bytes have arrived. -/
def tenBytes : List (ReadEvent UInt8) :=
  [.arrive [4, 0, 0, 0, 8], .transfer 7, .finish, .arrive [1, 34, 0, 4, 0], .transfer 3,
    .transfer 8, .finish]

def afterTenBytes : Reading ReceiveState UInt8 (ErrorCode × Option Buffer) :=
  (execute (Reading.step (receiveLoop .little)) (.initial .size) tenBytes).getD (.initial .size)

theorem run_agentTransport_tenBytes :
    afterTenBytes.outputs.filterMap message <+:
        (wireAfter oneByOne).started.map (fun message => message.bytes) ∧
      ((wireAfter oneByOne).outstanding = [] → afterTenBytes.arrived = (wireAfter oneByOne).wire →
        Reading.Quiet (receiveLoop .little) afterTenBytes →
          afterTenBytes.outputs.filterMap message =
            (wireAfter oneByOne).started.map fun message => message.bytes) := by
  have sent : execute (SharedStream.step (sendToAgent .little)) .idle oneByOne =
      some (wireAfter oneByOne) := rfl
  have received : execute (Reading.step (receiveLoop .little)) (.initial .size) tenBytes =
      some afterTenBytes := rfl
  exact run_agentTransport (runWithin_of_execute sent oneByOne_orderly)
    (run_of_execute received) ⟨[0, 0, 8, 2, 34, 0], rfl⟩

/-- One direction of the connection of an agent: the writes of one end, and the reads of
the other one. -/
structure Line (host : ByteOrder) where
  writes : List (WriteEvent Serialized UInt8)
  connection : SharedStream Serialized UInt8
  written : Run (SharedStream.step (sendToAgent host)) .idle writes connection
  reads : List (ReadEvent UInt8)
  receiver : Reading ReceiveState UInt8 (ErrorCode × Option Buffer)
  read : Run (Reading.step (receiveLoop host)) (.initial .size) reads receiver
  carried : receiver.arrived <+: connection.wire

namespace Line

/-- The writes on a line do not overlap, and each finds its bytes in memory. -/
def Orderly (line : Line host) : Prop :=
  RunWithin SharedStream.Orderly (SharedStream.step (sendToAgent host)) .idle line.writes
    line.connection

/-- The messages that are sent on a line, as buffers. -/
def sent (line : Line host) : List Buffer :=
  line.connection.started.map fun message => message.bytes

/-- The messages that were received on it. -/
def received (line : Line host) : List Buffer := line.receiver.outputs.filterMap message

/-- Every byte has arrived, and what can be read was read. -/
structure Drained (line : Line host) : Prop where
  written : line.connection.outstanding = []
  arrived : line.receiver.arrived = line.connection.wire
  quiet : Reading.Quiet (receiveLoop host) line.receiver

variable {line : Line host}

theorem Orderly.received_prefix (orderly : line.Orderly) : line.received <+: line.sent :=
  messages_part orderly line.read line.carried

theorem Drained.received_eq (drained : line.Drained) (orderly : line.Orderly) :
    line.received = line.sent :=
  messages_whole orderly line.read drained.written drained.arrived drained.quiet

end Line

end AsioComm

namespace OefSearchClient

variable {host : ByteOrder} {parse : ParseFromArray TransportHeader}

/-- The message that a round hands on. -/
def message : Received → Option (TransportHeader × Option Buffer)
  | .message header payload => some (header, payload)
  | .error | .discarded | .outOfBounds => none

theorem messageReader_read (stream : Buffer) : (messageReader host parse).read stream =
    (message (receive host parse stream).1).map fun found =>
      (found, (receive host parse stream).2) := by
  simp only [messageReader]
  rcases receive host parse stream with ⟨round, rest⟩
  cases round <;> rfl

/-- A round that has its bytes ends the same when more bytes follow. -/
theorem receive_append {stream : Buffer} (complete : incomplete host stream = false)
    (more : Buffer) : receive host parse (stream ++ more) =
      ((receive host parse stream).1, (receive host parse stream).2 ++ more) := by
  rw [← Bool.not_eq_true, incomplete_iff, not_or] at complete
  obtain ⟨sizes, enough⟩ := complete
  have words := Nat.le_of_not_lt sizes
  have still : 8 ≤ (stream ++ more).length := by
    rw [List.length_append]
    omega
  have alsoThere : ¬ (stream.drop 8 ++ more).length <
      (headerSizeOf host (stream.take 8) + payloadSizeOf host (stream.take 8)).toNat := by
    rw [List.length_append]
    omega
  rw [receive_of_sizes words, receive_of_sizes still]
  simp only [List.take_append_of_le_length words, List.drop_append_of_le_length words,
    if_neg alsoThere, if_neg enough,
    List.take_append_of_le_length (Nat.le_of_not_lt enough),
    List.drop_append_of_le_length (Nat.le_of_not_lt enough)]

/-- A message that is there is handed on the same when more bytes follow. -/
theorem messageReader_append {stream rest : Buffer} {found : TransportHeader × Option Buffer}
    (round : (messageReader host parse).read stream = some (found, rest)) (more : Buffer) :
    (messageReader host parse).read (stream ++ more) = some (found, rest ++ more) := by
  rw [messageReader_read] at round ⊢
  obtain ⟨handedOn, ending, same⟩ := Option.map_eq_some_iff.mp round
  cases same
  have complete : incomplete host stream = false := by
    cases outcome : (receive host parse stream).1 with
    | message header payload => exact complete_of_message (Prod.ext outcome rfl)
    | error | discarded | outOfBounds =>
        rw [outcome] at ending
        cases ending
  rw [receive_append complete, ending]
  rfl

/-- The messages among the endings of all rounds. -/
theorem messages_endings (ended : Bool) (stream : Buffer) :
    (endings host parse ended stream).filterMap message = (handleMessages host parse stream).1 := by
  have last : message (receive host parse (handleMessages host parse stream).2).1 = none := by
    have nothing := MessageStream.read_rest (messageReader host parse) stream
    rw [messageReader_read, Option.map_eq_none_iff] at nothing
    exact nothing
  have messages : ∀ found : List (TransportHeader × Option Buffer),
      (found.map fun message => Received.message message.1 message.2).filterMap message =
        found := by
    intro found
    rw [List.filterMap_map]
    exact List.filterMap_some
  rw [endings, List.filterMap_append, messages]
  split
  · exact List.append_nil _
  · rw [List.filterMap_cons_none last]
    exact List.append_nil _

/-- A round takes off what `send_` wrote. -/
theorem messageReader_undoes_sent {sender : ByteOrder} {sent : Serialized × Serialized}
    (decodable : (parse sent.1.bytes).1 = true) :
    MessageStream.Undoes (messageReader host parse).read (sendToSearch sender)
      (fun sent => delivered parse (sent.1.bytes, sent.2.bytes)) sent := by
  intro rest
  have sendable : Sendable parse (sent.1.bytes, sent.2.bytes) :=
    ⟨decodable, sent.1.size, sent.2.size⟩
  rw [sendToSearch_eq, frameToSearch]
  exact messageReader_undoes sendable rest

variable {sender : ByteOrder} {writes : List (WriteEvent (Serialized × Serialized) UInt8)}
  {connection : SharedStream (Serialized × Serialized) UInt8} {reads : List (ReadEvent UInt8)}
  {receiver : Reading ReceiveState UInt8 Received}

/-- **Messages on a search connection** whose writes are orderly and whose headers decode are
handed on whole and in the order in which they were sent, between hosts of any byte
orders and whatever part of the bytes has arrived; all of them, when every byte has
arrived and the receiver has read what it can. -/
theorem run_searchTransport
    (sent : RunWithin SharedStream.Orderly (SharedStream.step (sendToSearch sender)) .idle
      writes connection)
    (received : Run (Reading.step (receiveLoop host parse)) (.initial .sizes) reads receiver)
    (carried : receiver.arrived <+: connection.wire)
    (decodable : ∀ sent ∈ connection.started, (parse sent.1.bytes).1 = true) :
    receiver.outputs.filterMap message <+:
        connection.started.map (fun sent => delivered parse (sent.1.bytes, sent.2.bytes)) ∧
      (connection.outstanding = [] → receiver.arrived = connection.wire →
        Reading.Quiet (receiveLoop host parse) receiver →
          receiver.outputs.filterMap message =
            connection.started.map fun sent => delivered parse (sent.1.bytes, sent.2.bytes)) := by
  obtain ⟨_, _, _, whole, stuck⟩ :=
    rounds_handleMessages host parse receiver.closed receiver.arrived
  obtain ⟨soFar, complete, _⟩ := Reading.run_reads received whole stuck
  have wire := SharedStream.run_wire sent
  have undoes : ∀ sent ∈ connection.started,
      MessageStream.Undoes (messageReader host parse).read (sendToSearch sender)
        (fun sent => delivered parse (sent.1.bytes, sent.2.bytes)) sent :=
    fun sent started => messageReader_undoes_sent (decodable sent started)
  constructor
  · have part : receiver.arrived <+: connection.started.flatMap (sendToSearch sender) := by
      rw [← wire]
      exact carried.trans (List.prefix_append _ _)
    have outputs := soFar.filterMap message
    rw [messages_endings] at outputs
    exact outputs.trans (MessageStream.readAll_part (fun found more =>
      messageReader_append found more) undoes part)
  · intro written arrived quiet
    rw [written, List.flatten_nil, List.append_nil] at wire
    rw [complete quiet, messages_endings, arrived, wire, handleMessages,
      MessageStream.readAll_flatMap_nil undoes]

/-- A header that holds nothing but an id, with a payload. -/
def idThenPayload : Serialized × Serialized :=
  ({ bytes := [0x10, 0x04], size := (by decide : 2 < 2 ^ 31) },
    { bytes := [1, 2, 3], size := (by decide : 3 < 2 ^ 31) })

/-- The message is sent in two parts. -/
def inTwoParts : List (WriteEvent (Serialized × Serialized) UInt8) :=
  [.start idThenPayload, .transfer 0 6, .transfer 0 7]

def afterTwoParts : SharedStream (Serialized × Serialized) UInt8 :=
  (execute (SharedStream.step (sendToSearch .big)) .idle inTwoParts).getD .idle

/-- All of its bytes arrive in three pieces. -/
def inThreePieces : List (ReadEvent UInt8) :=
  [.arrive [0, 0, 0], .transfer 8, .arrive [2, 0, 0, 0, 3, 16], .transfer 8, .finish,
    .transfer 8, .arrive [4, 1, 2, 3], .transfer 8, .finish]

def afterThreePieces : Reading ReceiveState UInt8 Received :=
  (execute (Reading.step (receiveLoop .little SearchState.shortHeader)) (.initial .sizes)
    inThreePieces).getD (.initial .sizes)

theorem inTwoParts_orderly :
    AlongExecution SharedStream.Orderly (SharedStream.step (sendToSearch .big)) .idle
      inTwoParts :=
  And.intro (SharedStream.orderly_start rfl _) <|
    And.intro (SharedStream.orderly_transfer _ _) <|
      And.intro (SharedStream.orderly_transfer _ _) trivial

theorem run_searchTransport_threePieces :
    afterThreePieces.outputs.filterMap message <+:
        afterTwoParts.started.map (fun sent =>
          delivered SearchState.shortHeader (sent.1.bytes, sent.2.bytes)) ∧
      (afterTwoParts.outstanding = [] → afterThreePieces.arrived = afterTwoParts.wire →
        Reading.Quiet (receiveLoop .little SearchState.shortHeader) afterThreePieces →
          afterThreePieces.outputs.filterMap message =
            afterTwoParts.started.map fun sent =>
              delivered SearchState.shortHeader (sent.1.bytes, sent.2.bytes)) := by
  have sent : execute (SharedStream.step (sendToSearch .big)) .idle inTwoParts =
      some afterTwoParts := rfl
  have received : execute (Reading.step (receiveLoop .little SearchState.shortHeader))
      (.initial .sizes) inThreePieces = some afterThreePieces := rfl
  refine run_searchTransport (runWithin_of_execute sent inTwoParts_orderly)
    (run_of_execute received) ⟨[], rfl⟩ fun sent started => ?_
  have only : sent ∈ [idThenPayload] := started
  rw [List.mem_singleton] at only
  rw [only]
  decide

end OefSearchClient

end OefCore
