import OefCore.Comm.Communicator
import OefCore.Lib.MessageStream

/-! # The agent connection as a stream

The three sends and the two receives of `AsioComm`. A send gathers a list of
buffers for one write: the addresses of its length words, and the data of its
messages. What is written is a function of the memory in which the write finds the
words.

`OefCore.AsioComm.receiveEach_sendEach` says that any mix of sends is received, by
any mix of receives, as the messages that were sent, provided that every word still
has its value when it is written.
-/

namespace OefCore

namespace AsioComm

/-! ### Sends -/

/-- A call of one of the sends. -/
inductive Send where
  | async (buffer : Buffer)
  | sync (buffer : Buffer)
  | grouped (buffers : List Buffer)

def Send.gathered : Send → Gathered
  | .async buffer => gatherOne buffer
  | .sync buffer => gatherOne buffer
  | .grouped buffers => gatherAll buffers { lens := [], buffers := [] }

/-- The messages of a send. -/
def Send.messages : Send → List Buffer
  | .async buffer => [buffer]
  | .sync buffer => [buffer]
  | .grouped buffers => buffers

/-! ### Receives -/

/-- `asio::error::eof`. -/
def eof : ErrorCode := ⟨2⟩

/-- `asio::read` and `asio::async_read` of some bytes: the error code, the bytes that
were read, and those left on the connection. -/
def read (nbytes : Nat) (stream : Buffer) : ErrorCode × Buffer × Buffer :=
  if stream.length < nbytes then (eof, stream, [])
  else (.success, stream.take nbytes, stream.drop nbytes)

/-- A buffer of a size whose first bytes were read. -/
def filled (size : Nat) (bytes : Buffer) : Buffer :=
  bytes ++ List.replicate (size - bytes.length) 0

/-- `receive_async`: what the continuation is invoked with, and what is left on the
connection. -/
def receiveAsync (host : ByteOrder) (stream : Buffer) : (ErrorCode × Option Buffer) × Buffer :=
  let (ec, word, stream) := read 4 stream
  if ec.failed then ((ec, some []), stream)
  else
    let len := (ByteOrder.load host word).toNat
    let (ec, bytes, stream) := read len stream
    ((ec, some (filled len bytes)), stream)

/-- `receive_sync`, with the pointer it is given. -/
def receiveSync (host : ByteOrder) (buffer : Option Buffer) (stream : Buffer) :
    (ErrorCode × Option Buffer) × Buffer :=
  let (ec, word, stream) := read 4 stream
  if ec.failed || word.length != 4 then ((ec, buffer), stream)
  else
    let len := (ByteOrder.load host word).toNat
    let (ec, bytes, stream) := read len stream
    ((ec, some (filled len bytes)), stream)

/-- A call of one of the receives. -/
inductive Receive where
  | async
  | sync (buffer : Option Buffer)

def Receive.run (host : ByteOrder) : Receive → Buffer → (ErrorCode × Option Buffer) × Buffer
  | .async, stream => receiveAsync host stream
  | .sync buffer, stream => receiveSync host buffer stream

/-- A receive always ends with an error code and a buffer. -/
def Receive.reader (host : ByteOrder) (receive : Receive) :
    MessageStream.Reader UInt8 (ErrorCode × Option Buffer) :=
  fun stream => some (receive.run host stream)

/-- Receive one message after the other. -/
def receiveEach (host : ByteOrder) (receives : List Receive) (stream : Buffer) :
    List (ErrorCode × Option Buffer) × Buffer :=
  MessageStream.readEach (receives.map (Receive.reader host)) stream

/-! ### Sends write frames -/

/-- The frame of a message: its length word and its bytes. -/
def frame (host : ByteOrder) (buffer : Buffer) : Buffer :=
  ByteOrder.store host (UInt32.ofNat buffer.length) ++ buffer

section Written

variable {host : ByteOrder} {memory : Nat → UInt32}

/-- The bytes of a message are all there, as far as its length word counts them. -/
theorem ConstBuffer.bytes_data {buffer : Buffer} (small : buffer.length < 2 ^ 32) :
    ConstBuffer.bytes host memory (.data buffer (UInt32.ofNat buffer.length)) = buffer := by
  have len : (UInt32.ofNat buffer.length).toNat = buffer.length := by
    rw [UInt32.toNat_ofNat', Nat.mod_eq_of_lt small]
  rw [ConstBuffer.bytes, len, List.take_length]

/-- The two sends of one message write its frame. -/
theorem written_gatherOne {buffer : Buffer} (small : buffer.length < 2 ^ 32)
    (held : Held memory (gatherOne buffer)) :
    (gatherOne buffer).written host memory = frame host buffer := by
  have word : memory 0 = UInt32.ofNat buffer.length := held 0 _ rfl
  rw [Gathered.written, gatherOne, List.flatMap_cons, List.flatMap_cons, List.flatMap_nil,
    List.append_nil, ConstBuffer.bytes_data small, ConstBuffer.bytes, word, frame]

/-- The length words of the loop, in order. -/
theorem lens_gatherAll (buffers : List Buffer) (gathered : Gathered) :
    (gatherAll buffers gathered).lens =
      gathered.lens ++ buffers.map fun buffer => UInt32.ofNat buffer.length := by
  induction buffers generalizing gathered with
  | nil => exact (List.append_nil _).symm
  | cons buffer rest ih =>
      rw [gatherAll, ih, List.map_cons, List.append_assoc]
      rfl

/-- The loop appends the frames of its messages. -/
theorem written_gatherAll {buffers : List Buffer} {gathered : Gathered}
    (small : ∀ buffer ∈ buffers, buffer.length < 2 ^ 32)
    (held : Held memory (gatherAll buffers gathered)) :
    (gatherAll buffers gathered).written host memory =
      gathered.written host memory ++ buffers.flatMap (frame host) := by
  induction buffers generalizing gathered with
  | nil => exact (List.append_nil _).symm
  | cons buffer rest ih =>
      obtain ⟨fits, others⟩ := List.forall_mem_cons.mp small
      have word : memory gathered.lens.length = UInt32.ofNat buffer.length := by
        apply held
        rw [lens_gatherAll, List.getElem?_append_right (Nat.le_refl _), Nat.sub_self]
        rfl
      rw [gatherAll] at held ⊢
      rw [ih others held, List.flatMap_cons, ← List.append_assoc]
      simp only [Gathered.written, List.flatMap_append, List.flatMap_cons, List.flatMap_nil,
        List.append_nil, ConstBuffer.bytes_data fits]
      rw [ConstBuffer.bytes, word, frame]

/-- **Every send writes the frames of its messages**, if its length words hold. -/
theorem written_gathered {send : Send}
    (small : ∀ buffer ∈ send.messages, buffer.length < 2 ^ 32)
    (held : Held memory send.gathered) :
    send.gathered.written host memory = send.messages.flatMap (frame host) := by
  cases send with
  | async buffer | sync buffer =>
      exact (written_gatherOne (small buffer List.mem_cons_self) held).trans
        (List.append_nil _).symm
  | grouped buffers => exact written_gatherAll small held

end Written

/-! ### Receives undo sends -/

section Received

variable {host : ByteOrder}

theorem read_append {nbytes : Nat} {bytes : Buffer} (size : bytes.length = nbytes)
    (rest : Buffer) : read nbytes (bytes ++ rest) = (.success, bytes, rest) := by
  have enough : ¬ (bytes ++ rest).length < nbytes := by
    rw [List.length_append]
    omega
  rw [read, if_neg enough, List.take_left' size, List.drop_left' size]

theorem filled_of_length {size : Nat} {bytes : Buffer} (whole : bytes.length = size) :
    filled size bytes = bytes := by
  rw [filled, whole, Nat.sub_self, List.replicate_zero, List.append_nil]

/-- **Every receive takes off one frame** and yields its message. -/
theorem reader_undoes (receive : Receive) {buffer : Buffer} (small : buffer.length < 2 ^ 32) :
    MessageStream.Undoes (receive.reader host) (frame host)
      (fun buffer => (ErrorCode.success, some buffer)) buffer := by
  intro rest
  have word := read_append (ByteOrder.store_length host (UInt32.ofNat buffer.length))
    (buffer ++ rest)
  have len : (ByteOrder.load host (ByteOrder.store host (UInt32.ofNat buffer.length))).toNat =
      buffer.length := by
    rw [← List.append_nil (ByteOrder.store host _), ByteOrder.load_store, UInt32.toNat_ofNat',
      Nat.mod_eq_of_lt small]
  have data : read buffer.length (buffer ++ rest) = (.success, buffer, rest) := read_append rfl rest
  rw [frame, List.append_assoc]
  cases receive with
  | async =>
      simp only [Receive.reader, Receive.run, receiveAsync, word, ErrorCode.success_failed,
        Bool.false_eq_true, ↓reduceIte, len, data, filled_of_length]
  | sync pointer =>
      simp only [Receive.reader, Receive.run, receiveSync, word, ErrorCode.success_failed,
        ByteOrder.store_length, bne_self_eq_false, Bool.or_self, Bool.false_eq_true, ↓reduceIte,
        len, data, filled_of_length]

end Received

/-- **The framing of the agent connection round-trips.** What any mix of sends wrote,
one after the other, is received by any mix of as many receives as there are messages:
each without an error and as it was sent. Nothing is left of the stream. -/
theorem receiveEach_sendEach (host : ByteOrder) (sends : List (Send × (Nat → UInt32)))
    (receives : List Receive) (held : ∀ send ∈ sends, Held send.2 send.1.gathered)
    (small : ∀ send ∈ sends, ∀ buffer ∈ send.1.messages, buffer.length < 2 ^ 32)
    (asMany : receives.length = (sends.flatMap fun send => send.1.messages).length) :
    receiveEach host receives
        (sends.flatMap fun send => send.1.gathered.written host send.2) =
      ((sends.flatMap fun send => send.1.messages).map fun buffer =>
        (ErrorCode.success, some buffer), []) := by
  have frames : (sends.flatMap fun send => send.1.gathered.written host send.2) =
      (sends.flatMap fun send => send.1.messages).flatMap (frame host) ++ [] := by
    rw [List.append_nil, List.flatMap_assoc]
    exact List.flatMap_congr fun send inside =>
      written_gathered (small send inside) (held send inside)
  rw [receiveEach, frames]
  apply MessageStream.readEach_flatMap
  · intro read isReceive buffer sent
    obtain ⟨receive, _, rfl⟩ := List.mem_map.mp isReceive
    obtain ⟨send, inside, message⟩ := List.mem_flatMap.mp sent
    exact reader_undoes receive (small send inside buffer message)
  · rw [List.length_map, asMany]

/-- A group of one message, whose word is not moved, an empty message and another one. -/
def groupThenTwo : List (Send × (Nat → UInt32)) :=
  [.grouped [[7, 8]], .sync [], .async [9]].map fun send => (send, send.gathered.memory)

theorem receiveEach_sendEach_group :
    receiveEach .little [.async, .sync none, .async]
        (groupThenTwo.flatMap fun send => send.1.gathered.written .little send.2) =
      ([[7, 8], [], [9]].map fun buffer => (ErrorCode.success, some buffer), []) := by
  apply receiveEach_sendEach .little groupThenTwo
  · intro send inside
    obtain ⟨call, _, rfl⟩ := List.mem_map.mp inside
    exact held_memory call.gathered
  · decide
  · rfl

end AsioComm

end OefCore
