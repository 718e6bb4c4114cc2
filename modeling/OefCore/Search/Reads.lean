import OefCore.Lib.ComposedRead
import OefCore.Search.Stream

/-! # Receiving from the search connection

`OefSearchClient::receive_` is two composed reads, one for the two length words and one
for the header and the payload; `handle_messages` calls it again for as long as it
hands on a message. Here are these reads as a program, on a connection on which bytes
arrive in pieces of any lengths. The second read is a synchronous one, which makes no
difference to the connection.

However the bytes arrive, the rounds end as those of `handle_messages` end on the whole
stream (`OefCore.OefSearchClient.run_handleMessages`).
-/

namespace OefCore

namespace OefSearchClient

/-- What the current read is for. -/
inductive ReceiveState where
  | sizes
  | data (headerSize payloadSize : UInt32)
  /-- The last round handed on no message. -/
  | stopped
  deriving DecidableEq

section Definitions

variable (host : ByteOrder) (parse : ParseFromArray TransportHeader)

/-- The part of `receive_` after header and payload were read. -/
def received (headerSize payloadSize : UInt32) (data : Buffer) : Received :=
  if data.length < headerSize.toNat + payloadSize.toNat then .outOfBounds
  else
    let headerBuffer := data.take headerSize.toNat
    let payloadBuffer := (data.drop headerSize.toNat).take payloadSize.toNat
    let (header, hstatus) := Pbs.deserializeStatus parse headerBuffer
    if !hstatus then .discarded
    else if payloadSize == 0 then .message header none
    else .message header (some payloadBuffer)

/-- The two length words that were read. -/
def headerSizeOf (sizes : Buffer) : UInt32 := ByteOrder.ntohl host (ByteOrder.load host sizes)

def payloadSizeOf (sizes : Buffer) : UInt32 :=
  ByteOrder.ntohl host (ByteOrder.load host (sizes.drop 4))

/-- What a round has to read next when it ended: `handle_messages` only goes on after a message. -/
def afterRound : Received → ReceiveState
  | .message _ _ => .sizes
  | .error | .discarded | .outOfBounds => .stopped

/-- The reads of `handle_messages`, and how its rounds end. -/
def receiveLoop : ReadProgram ReceiveState UInt8 Received where
  demand
    | .sizes => some 8
    | .data headerSize payloadSize => some (headerSize + payloadSize).toNat
    | .stopped => none
  completed
    | .sizes, sizes => (.data (headerSizeOf host sizes) (payloadSizeOf host sizes), [])
    | .data headerSize payloadSize, data =>
        let round := received parse headerSize payloadSize data
        (afterRound round, [round])
    | .stopped, _ => (.stopped, [])
  cutShort
    | .sizes, _ => (.stopped, [.error])
    | .data _ _, _ => (.stopped, [.discarded])
    | .stopped, _ => (.stopped, [])

/-- The bytes on the connection do not complete a round. -/
def incomplete (stream : Buffer) : Bool :=
  stream.length < 8 ||
    (stream.drop 8).length <
      (headerSizeOf host (stream.take 8) + payloadSizeOf host (stream.take 8)).toNat

/-- How all rounds end on a stream: those that hand on a message, and then the first one
that does not, if it has come to an end. -/
def endings (ended : Bool) (stream : Buffer) : List Received :=
  (handleMessages host parse stream).1.map (fun message => .message message.1 message.2) ++
    if incomplete host (handleMessages host parse stream).2 && !ended then []
    else [(receive host parse (handleMessages host parse stream).2).1]

end Definitions

variable {host : ByteOrder} {parse : ParseFromArray TransportHeader} {ended : Bool}
  {stream : Buffer}

/-! ### One round -/

theorem receive_of_short (short : stream.length < 8) :
    receive host parse stream = (.error, []) := by
  have few : (stream.take 8).length < 8 := by
    rw [List.length_take]
    omega
  rw [receive, if_pos few]

theorem receive_of_sizes (sizes : 8 ≤ stream.length) : receive host parse stream =
      let headerSize := headerSizeOf host (stream.take 8)
      let payloadSize := payloadSizeOf host (stream.take 8)
      if (stream.drop 8).length < (headerSize + payloadSize).toNat then (.discarded, [])
      else (received parse headerSize payloadSize
          ((stream.drop 8).take (headerSize + payloadSize).toNat),
        (stream.drop 8).drop (headerSize + payloadSize).toNat) := by
  have enough : ¬ (stream.take 8).length < 8 := by
    rw [List.length_take]
    omega
  have data : ((stream.drop 8).take
      (headerSizeOf host (stream.take 8) + payloadSizeOf host (stream.take 8)).toNat).length =
        min (headerSizeOf host (stream.take 8) + payloadSizeOf host (stream.take 8)).toNat
          (stream.drop 8).length := List.length_take
  rw [headerSizeOf, payloadSizeOf] at data ⊢
  simp only [receive, if_neg enough]
  by_cases short : (stream.drop 8).length <
      (ByteOrder.ntohl host (ByteOrder.load host (stream.take 8)) +
        ByteOrder.ntohl host (ByteOrder.load host ((stream.take 8).drop 4))).toNat
  · rw [if_pos short, if_pos (by omega)]
  · rw [if_neg short, if_neg (by omega)]
    simp only [received]
    split
    · rfl
    · split
      · rfl
      · split <;> rfl

/-- The read of the length words. -/
theorem round_sizes : (receiveLoop host parse).round ended .sizes stream =
    if 8 ≤ stream.length then
      some ((.data (headerSizeOf host (stream.take 8)) (payloadSizeOf host (stream.take 8)), []),
        stream.drop 8)
    else if ended then some ((.stopped, [.error]), [])
    else none := rfl

/-- The read of header and payload. -/
theorem round_data (headerSize payloadSize : UInt32) :
    (receiveLoop host parse).round ended (.data headerSize payloadSize) stream =
      let nbytes := (headerSize + payloadSize).toNat
      if nbytes ≤ stream.length then
        let round := received parse headerSize payloadSize (stream.take nbytes)
        some ((afterRound round, [round]), stream.drop nbytes)
      else if ended then some ((.stopped, [.discarded]), [])
      else none := rfl

theorem incomplete_iff : incomplete host stream = true ↔ stream.length < 8 ∨
    (stream.drop 8).length <
      (headerSizeOf host (stream.take 8) + payloadSizeOf host (stream.take 8)).toNat := by
  rw [incomplete, Bool.or_eq_true, decide_eq_true_iff, decide_eq_true_iff]

/-- The two reads of a round that has all its bytes. -/
theorem rounds_of_complete (complete : incomplete host stream = false) :
    (receiveLoop host parse).rounds ended 2 .sizes stream =
      some ((afterRound (receive host parse stream).1, [(receive host parse stream).1]),
        (receive host parse stream).2) := by
  rw [← Bool.not_eq_true, incomplete_iff, not_or] at complete
  obtain ⟨sizes, enough⟩ := complete
  have first := @round_sizes host parse ended stream
  rw [if_pos (Nat.le_of_not_lt sizes)] at first
  have second := @round_data host parse ended (stream.drop 8) (headerSizeOf host (stream.take 8))
    (payloadSizeOf host (stream.take 8))
  dsimp only at second
  rw [if_pos (Nat.le_of_not_lt enough)] at second
  rw [receive_of_sizes (Nat.le_of_not_lt sizes)]
  dsimp only
  rw [if_neg enough]
  exact ReadProgram.rounds_two first second

/-- A round that misses bytes waits for them, unless the stream has ended. -/
theorem rounds_of_incomplete (missing : incomplete host stream = true) :
    ∃ count last left, (receiveLoop host parse).rounds ended count .sizes stream =
        some ((last, if ended then [(receive host parse stream).1] else []), left) ∧
      (receiveLoop host parse).round ended last left = none := by
  have first := @round_sizes host parse ended stream
  rcases Nat.lt_or_ge stream.length 8 with short | sizes
  · rw [if_neg (Nat.not_le.mpr short)] at first
    cases ended with
    | false => exact ⟨0, _, _, rfl, first⟩
    | true =>
        rw [receive_of_short short]
        exact ⟨1, .stopped, [], ReadProgram.rounds_one first, rfl⟩
  · rw [if_pos sizes] at first
    have short := (incomplete_iff.mp missing).resolve_left (Nat.not_lt.mpr sizes)
    have second := @round_data host parse ended (stream.drop 8)
      (headerSizeOf host (stream.take 8)) (payloadSizeOf host (stream.take 8))
    dsimp only at second
    rw [if_neg (Nat.not_le.mpr short)] at second
    rw [receive_of_sizes sizes]
    dsimp only
    rw [if_pos short]
    cases ended with
    | false => exact ⟨1, _, _, ReadProgram.rounds_one first, second⟩
    | true =>
        exact ⟨2, .stopped, [], ReadProgram.rounds_two first second, rfl⟩

/-! ### All rounds -/

/-- A round that misses bytes hands on no message. -/
theorem complete_of_message {header : TransportHeader} {payload : Option Buffer} {rest : Buffer}
    (round : receive host parse stream = (.message header payload, rest)) :
    incomplete host stream = false := by
  rw [← Bool.not_eq_true, incomplete_iff]
  rintro (short | short)
  · rw [receive_of_short short] at round
    cases round
  · rcases Nat.lt_or_ge stream.length 8 with few | sizes
    · rw [receive_of_short few] at round
      cases round
    · rw [receive_of_sizes sizes] at round
      dsimp only at round
      rw [if_pos short] at round
      cases round

theorem rounds_of_message {message : TransportHeader × Option Buffer} {rest : Buffer}
    (found : (messageReader host parse).read stream = some (message, rest)) :
    ∃ count, (receiveLoop host parse).rounds ended count .sizes stream =
      some ((.sizes, [Received.message message.1 message.2]), rest) := by
  simp only [messageReader] at found
  split at found
  · rename_i round
    cases found
    have both := @rounds_of_complete host parse ended stream (complete_of_message round)
    rw [round] at both
    exact ⟨2, both⟩
  · cases found

theorem rounds_of_noMessage (nothing : (messageReader host parse).read stream = none) :
    ∃ count last left, (receiveLoop host parse).rounds ended count .sizes stream =
        some ((last, if incomplete host stream && !ended then []
          else [(receive host parse stream).1]), left) ∧
      (receiveLoop host parse).round ended last left = none := by
  cases missing : incomplete host stream with
  | true =>
      have waiting := @rounds_of_incomplete host parse ended stream missing
      cases ended with
      | false | true => exact waiting
  | false =>
      have both := @rounds_of_complete host parse ended stream missing
      have stopped : afterRound (receive host parse stream).1 = .stopped := by
        simp only [messageReader] at nothing
        split at nothing
        · cases nothing
        · rename_i other
          cases round : (receive host parse stream).1 with
          | message header payload =>
              have message : receive host parse stream =
                  (.message header payload, (receive host parse stream).2) := Prod.ext round rfl
              exact absurd message (other header payload _)
          | error | discarded | outOfBounds => rfl
      rw [stopped] at both
      exact ⟨2, .stopped, _, both, rfl⟩

variable (host parse ended stream) in
/-- All reads on a whole stream. -/
theorem rounds_handleMessages : ∃ count last left,
    (receiveLoop host parse).rounds ended count .sizes stream =
        some ((last, endings host parse ended stream), left) ∧
      (receiveLoop host parse).round ended last left = none :=
  ReadProgram.rounds_readAll rounds_of_message rounds_of_noMessage stream

/-- **How the bytes arrive does not matter.** At any time the rounds have ended as those of
`handle_messages` end on the whole stream, as far as they have ended; reading on, they
all do. -/
theorem run_handleMessages {events : List (ReadEvent UInt8)}
    {state : Reading ReceiveState UInt8 Received}
    (run : Run (Reading.step (receiveLoop host parse)) (.initial .sizes) events state) :
    state.outputs <+: endings host parse state.closed state.arrived ∧
      (Reading.Quiet (receiveLoop host parse) state →
        state.outputs = endings host parse state.closed state.arrived) ∧
      ∃ more next,
        RunWithin Reading.ReadsOn (Reading.step (receiveLoop host parse)) state more next ∧
        Reading.Quiet (receiveLoop host parse) next ∧
        next.outputs = endings host parse state.closed state.arrived := by
  obtain ⟨all, last, left, complete, stuck⟩ :=
    rounds_handleMessages host parse state.closed state.arrived
  exact Reading.run_reads run complete stuck

/-- A message that arrives in three pieces, and then lengths whose sum is no word. -/
def piecemeal : List (ReadEvent UInt8) :=
  [.arrive [0, 0, 0, 2, 0], .transfer 9, .arrive [0, 0, 1, 16], .transfer 9, .finish,
    .transfer 9, .arrive [4, 9, 255, 255, 255, 255, 0, 0, 0, 1], .transfer 9, .finish,
    .transfer 9, .finish, .finish]

def afterPiecemeal : Reading ReceiveState UInt8 Received :=
  (execute (Reading.step (receiveLoop .little SearchState.shortHeader)) (.initial .sizes)
    piecemeal).getD (.initial .sizes)

theorem run_handleMessages_piecemeal :
    afterPiecemeal.outputs <+:
        endings .little SearchState.shortHeader afterPiecemeal.closed afterPiecemeal.arrived ∧
      (Reading.Quiet (receiveLoop .little SearchState.shortHeader) afterPiecemeal →
        afterPiecemeal.outputs =
          endings .little SearchState.shortHeader afterPiecemeal.closed afterPiecemeal.arrived) ∧
      ∃ more next,
        RunWithin Reading.ReadsOn (Reading.step (receiveLoop .little SearchState.shortHeader))
          afterPiecemeal more next ∧
        Reading.Quiet (receiveLoop .little SearchState.shortHeader) next ∧
        next.outputs =
          endings .little SearchState.shortHeader afterPiecemeal.closed afterPiecemeal.arrived := by
  have executed : execute (Reading.step (receiveLoop .little SearchState.shortHeader))
      (.initial .sizes) piecemeal = some afterPiecemeal := rfl
  exact run_handleMessages (run_of_execute executed)

end OefSearchClient

end OefCore
