import OefCore.Comm.AgentStream
import OefCore.Comm.Writes
import OefCore.Lib.ComposedRead

/-! # Receiving from the agent connection

`AsioComm::receive_async` is two composed reads, one for the length word and one for
that many bytes. Whoever receives from an agent does so again and again, until a
receive ends with an error: the core for the two messages of the handshake and then
in `AgentSession::read`. Here are these reads as a program, on a connection on which
bytes arrive in pieces of any lengths.

However the bytes arrive, the receives end as `receive_async` ends on the whole stream,
one call after the other (`OefCore.AsioComm.run_receiveAll`).
-/

namespace OefCore

namespace AsioComm

variable (host : ByteOrder)

/-- What the current read is for. -/
inductive ReceiveState where
  | size
  | data (len : UInt32)
  /-- The last receive ended with an error. -/
  | stopped
  deriving DecidableEq

/-- The reads of `receive_async`, called again after every message, and what the
continuation is invoked with. -/
def receiveLoop : ReadProgram ReceiveState UInt8 (ErrorCode × Option Buffer) where
  demand
    | .size => some 4
    | .data len => some len.toNat
    | .stopped => none
  completed
    | .size, word => (.data (ByteOrder.load host word), [])
    | .data len, bytes => (.size, [(.success, some (filled len.toNat bytes))])
    | .stopped, _ => (.stopped, [])
  cutShort
    | .size, _ => (.stopped, [(eof, some [])])
    | .data len, bytes => (.stopped, [(eof, some (filled len.toNat bytes))])
    | .stopped, _ => (.stopped, [])

/-- The buffer of a receive without an error. -/
def message : ErrorCode × Option Buffer → Option Buffer
  | (ec, buffer) => if ec.failed then none else buffer

theorem receiveAsync_of_short {stream : Buffer} (short : stream.length < 4) :
    receiveAsync host stream = ((eof, some []), []) := by
  simp [receiveAsync, read, short, eof, ErrorCode.failed]

theorem receiveAsync_of_word {stream : Buffer} (word : 4 ≤ stream.length) :
    receiveAsync host stream =
      let len := (ByteOrder.load host (stream.take 4)).toNat
      if (stream.drop 4).length < len then ((eof, some (filled len (stream.drop 4))), [])
      else
        ((.success, some (filled len ((stream.drop 4).take len))), (stream.drop 4).drop len) := by
  rw [receiveAsync, read, if_neg (Nat.not_lt.mpr word)]
  dsimp only
  rw [ErrorCode.success_failed, if_neg Bool.false_ne_true, read]
  split <;> rfl

/-- A receive that ends without an error, as a reader of its message. -/
def messageReader : MessageStream.ConsumingReader UInt8 Buffer where
  read stream := (message (receiveAsync host stream).1).map fun buffer =>
    (buffer, (receiveAsync host stream).2)
  shorter := by
    intro stream buffer rest found
    rw [Option.map_eq_some_iff] at found
    obtain ⟨buffer, received, same⟩ := found
    cases same
    rcases Nat.lt_or_ge stream.length 4 with short | word
    · rw [receiveAsync_of_short host short] at received
      cases received
    · rw [receiveAsync_of_word host word] at received ⊢
      dsimp only at received ⊢
      split at received
      · cases received
      · rename_i enough
        rw [if_neg enough, List.length_drop, List.length_drop]
        omega

/-- One `receive_async` after the other, as long as they end without an error: the messages,
and what is left on the connection before the first receive that ends with one. -/
def receiveAll (stream : Buffer) : List Buffer × Buffer :=
  MessageStream.readAll (messageReader host) stream

/-- How all receives end on a stream: every message without an error, and then the first
error, if the stream has ended. -/
def endings (ended : Bool) (stream : Buffer) : List (ErrorCode × Option Buffer) :=
  (receiveAll host stream).1.map (fun buffer => (ErrorCode.success, some buffer)) ++
    if ended then [(receiveAsync host (receiveAll host stream).2).1] else []

section Loop

variable {host} {ended : Bool} {stream : Buffer}

/-- One more read of the loop. -/
theorem receiveLoop_round {control : ReceiveState} {nbytes : Nat}
    (demanded : (receiveLoop host).demand control = some nbytes) :
    (receiveLoop host).round ended control stream =
      if nbytes ≤ stream.length then
        some ((receiveLoop host).completed control (stream.take nbytes), stream.drop nbytes)
      else if ended then some ((receiveLoop host).cutShort control stream, [])
      else none := by
  rw [ReadProgram.round, demanded]

/-- The two reads of a message. -/
theorem rounds_of_message {buffer rest : Buffer}
    (found : (messageReader host).read stream = some (buffer, rest)) :
    ∃ count, (receiveLoop host).rounds ended count .size stream =
      some ((.size, [(ErrorCode.success, some buffer)]), rest) := by
  obtain ⟨taken, received, same⟩ := Option.map_eq_some_iff.mp found
  cases same
  rcases Nat.lt_or_ge stream.length 4 with short | word
  · rw [receiveAsync_of_short host short] at received
    cases received
  · rw [receiveAsync_of_word host word] at received ⊢
    dsimp only at received ⊢
    split at received
    · cases received
    · rename_i enough
      cases received
      have first : (receiveLoop host).round ended .size stream =
          some ((.data (ByteOrder.load host (stream.take 4)), []), stream.drop 4) := by
        rw [receiveLoop_round rfl, if_pos word]
        rfl
      have second : (receiveLoop host).round ended (.data (ByteOrder.load host (stream.take 4)))
          (stream.drop 4) = _ :=
        (receiveLoop_round rfl).trans (if_pos (Nat.le_of_not_lt enough))
      rw [if_neg enough]
      exact ⟨2, ReadProgram.rounds_two first second⟩

/-- Without a message the loop stops with the error of the receive, or waits. -/
theorem rounds_of_noMessage (missing : (messageReader host).read stream = none) :
    ∃ count last left, (receiveLoop host).rounds ended count .size stream =
        some ((last, if ended then [(receiveAsync host stream).1] else []), left) ∧
      (receiveLoop host).round ended last left = none := by
  have nothing := Option.map_eq_none_iff.mp missing
  rcases Nat.lt_or_ge stream.length 4 with short | word
  · have first := @receiveLoop_round host ended stream .size 4 rfl
    rw [if_neg (Nat.not_le.mpr short)] at first
    cases ended with
    | false => exact ⟨0, _, _, rfl, first⟩
    | true =>
        rw [receiveAsync_of_short host short]
        exact ⟨1, .stopped, [], ReadProgram.rounds_one first, rfl⟩
  · have first : (receiveLoop host).round ended .size stream =
        some ((.data (ByteOrder.load host (stream.take 4)), []), stream.drop 4) := by
      rw [receiveLoop_round rfl, if_pos word]
      rfl
    rw [receiveAsync_of_word host word] at nothing ⊢
    dsimp only at nothing ⊢
    split at nothing
    · rename_i short
      have second := @receiveLoop_round host ended (stream.drop 4)
        (.data (ByteOrder.load host (stream.take 4))) _ rfl
      rw [if_neg (Nat.not_le.mpr short)] at second
      rw [if_pos short]
      cases ended with
      | false => exact ⟨1, _, _, ReadProgram.rounds_one first, second⟩
      | true =>
          exact ⟨2, .stopped, [], ReadProgram.rounds_two first second, rfl⟩
    · cases nothing

variable (host ended stream) in
/-- All reads on a whole stream. -/
theorem rounds_receiveAll : ∃ count last left,
    (receiveLoop host).rounds ended count .size stream =
        some ((last, endings host ended stream), left) ∧
      (receiveLoop host).round ended last left = none :=
  ReadProgram.rounds_readAll rounds_of_message rounds_of_noMessage stream

/-- **How the bytes arrive does not matter.** At any time the receives have ended as they do
one after the other on the whole stream, as far as they have ended; reading on, they all
do. -/
theorem run_receiveAll {events : List (ReadEvent UInt8)}
    {state : Reading ReceiveState UInt8 (ErrorCode × Option Buffer)}
    (run : Run (Reading.step (receiveLoop host)) (.initial .size) events state) :
    state.outputs <+: endings host state.closed state.arrived ∧
      (Reading.Quiet (receiveLoop host) state →
        state.outputs = endings host state.closed state.arrived) ∧
      ∃ more next, RunWithin Reading.ReadsOn (Reading.step (receiveLoop host)) state more next ∧
        Reading.Quiet (receiveLoop host) next ∧
        next.outputs = endings host state.closed state.arrived := by
  obtain ⟨all, last, left, complete, stuck⟩ := rounds_receiveAll host state.closed state.arrived
  exact Reading.run_reads run complete stuck

end Loop

/-- A message that arrives in three pieces, with the beginning of another one, before the
stream ends. -/
def piecemeal : List (ReadEvent UInt8) :=
  [.arrive [2, 0], .transfer 4, .arrive [0, 0, 7], .transfer 2, .finish, .transfer 9,
    .arrive [8, 1, 0], .transfer 1, .finish, .transfer 3, .close, .finish]

def afterPiecemeal : Reading ReceiveState UInt8 (ErrorCode × Option Buffer) :=
  (execute (Reading.step (receiveLoop .little)) (.initial .size) piecemeal).getD (.initial .size)

theorem run_receiveAll_piecemeal :
    afterPiecemeal.outputs <+: endings .little afterPiecemeal.closed afterPiecemeal.arrived ∧
      (Reading.Quiet (receiveLoop .little) afterPiecemeal →
        afterPiecemeal.outputs = endings .little afterPiecemeal.closed afterPiecemeal.arrived) ∧
      ∃ more next,
        RunWithin Reading.ReadsOn (Reading.step (receiveLoop .little)) afterPiecemeal more next ∧
        Reading.Quiet (receiveLoop .little) next ∧
        next.outputs = endings .little afterPiecemeal.closed afterPiecemeal.arrived := by
  have executed : execute (Reading.step (receiveLoop .little)) (.initial .size) piecemeal =
      some afterPiecemeal := rfl
  exact run_receiveAll (run_of_execute executed)

example : afterPiecemeal.outputs = [(.success, some [7, 8]), (eof, some [])] := rfl

end AsioComm

end OefCore
