import Mathlib.Data.List.Forall2
import OefCore.Lib.MessageStream
import OefCore.Search.Machine

/-! # The search connection as a stream

`handle_messages` reads the search connection one round of `receive_` after the
other, and goes on as long as a round hands on a message. Every round that does so
takes a frame off the connection (`OefCore.OefSearchClient.frame_of_message`).

`OefCore.OefSearchClient.handleMessages_send_iff` says when what `send_` wrote on any
host, message by message, is handed on unchanged and to its end on any other: when each
byte of the messages and of their length words is in memory when it is written. `send_`
does not see to it, as the words are its own and no handler keeps them.
-/

namespace OefCore

namespace OefSearchClient

variable {host : ByteOrder} {parse : ParseFromArray TransportHeader}

/-- A round that hands on a message takes something off the connection. -/
theorem receive_shorter {stream rest : Buffer} {header : TransportHeader}
    {payload : Option Buffer}
    (round : receive host parse stream = (.message header payload, rest)) :
    rest.length < stream.length := by
  by_cases short : (stream.take 8).length < 8
  · simp only [receive, if_pos short] at round
    cases round
  · have enough : 8 ≤ stream.length := by
      rw [List.length_take] at short
      omega
    have left : ∃ nbytes, rest = (stream.drop 8).drop nbytes := by
      simp only [receive, if_neg short] at round
      split at round
      · cases round
      · split at round
        · cases round
        · split at round
          · cases round
          · split at round <;> cases round <;> exact ⟨_, rfl⟩
    obtain ⟨nbytes, rfl⟩ := left
    rw [List.length_drop, List.length_drop]
    omega

variable (host parse)

/-- A round of `receive_`, as far as it hands on a message. -/
def messageReader :
    MessageStream.ConsumingReader UInt8 (TransportHeader × Option Buffer) where
  read stream :=
    match receive host parse stream with
    | (.message header payload, rest) => some ((header, payload), rest)
    | _ => none
  shorter := by
    intro stream message rest found
    split at found
    · rename_i round
      cases found
      exact receive_shorter round
    · cases found

/-- The rounds of `handle_messages`: the messages passed to `process_message_`, and
what is left on the connection before the round that hands on none. -/
def handleMessages (stream : Buffer) : List (TransportHeader × Option Buffer) × Buffer :=
  MessageStream.readAll (messageReader host parse) stream

/-- The header of a message decodes, and header and payload are small enough for
protobuf. -/
structure Sendable (message : Buffer × Buffer) : Prop where
  decodable : (parse message.1).1 = true
  headerSmall : message.1.length < 2 ^ 31
  payloadSmall : message.2.length < 2 ^ 31

/-- What a message is delivered as: its header decoded, its payload as it is, or none
when it is empty. -/
def delivered (message : Buffer × Buffer) : TransportHeader × Option Buffer :=
  ((parse message.1).2, if message.2 = [] then none else some message.2)

variable {host parse}

/-! ### Rounds take off frames -/

/-- The words and the bytes that a round reads, put together again. -/
theorem frame_of_sizes {stream : Buffer} {headerSize payloadSize : UInt32}
    (words : 8 ≤ stream.length)
    (header : headerSize = ByteOrder.ntohl host (ByteOrder.load host (stream.take 8)))
    (payload : payloadSize = ByteOrder.ntohl host (ByteOrder.load host ((stream.take 8).drop 4)))
    (bytes : headerSize.toNat + payloadSize.toNat ≤ (stream.drop 8).length) :
    stream = frame ((stream.drop 8).take headerSize.toNat)
        (((stream.drop 8).drop headerSize.toNat).take payloadSize.toNat) ++
      (stream.drop 8).drop (headerSize.toNat + payloadSize.toNat) := by
  have sizes : (stream.take 8).length = 8 := List.length_take_of_le words
  have first : ByteOrder.store .big headerSize = (stream.take 8).take 4 := by
    rw [header, ByteOrder.store_ntohl_load host (by omega)]
  have second : ByteOrder.store .big payloadSize = (stream.take 8).drop 4 := by
    have four : ((stream.take 8).drop 4).length = 4 := by rw [List.length_drop, sizes]
    rw [payload, ByteOrder.store_ntohl_load host (Nat.le_of_eq four.symm),
      List.take_of_length_le (Nat.le_of_eq four)]
  have headerLength : ((stream.drop 8).take headerSize.toNat).length = headerSize.toNat :=
    List.length_take_of_le (by omega)
  have payloadLength : (((stream.drop 8).drop headerSize.toNat).take payloadSize.toNat).length =
      payloadSize.toNat := by
    apply List.length_take_of_le
    rw [List.length_drop]
    omega
  rw [frame, headerLength, payloadLength, UInt32.ofNat_toNat, UInt32.ofNat_toNat, first, second,
    List.take_append_drop, ← List.drop_drop, List.append_assoc, List.append_assoc,
    List.take_append_drop, List.take_append_drop, List.take_append_drop]

/-- **A round that hands on a message takes off its frame**, on any connection. -/
theorem frame_of_message {stream rest : Buffer} {header : TransportHeader}
    {payload : Option Buffer}
    (round : receive host parse stream = (.message header payload, rest)) :
    ∃ message : Buffer × Buffer, delivered parse message = (header, payload) ∧
      stream = frame message.1 message.2 ++ rest := by
  by_cases short : (stream.take 8).length < 8
  · simp only [receive, if_pos short] at round
    cases round
  have words : 8 ≤ stream.length := by
    rw [List.length_take] at short
    omega
  simp only [receive, if_neg short, Pbs.deserializeStatus] at round
  generalize header' : ByteOrder.ntohl host (ByteOrder.load host (stream.take 8)) = headerSize
    at round
  generalize payload' : ByteOrder.ntohl host (ByteOrder.load host ((stream.take 8).drop 4)) =
    payloadSize at round
  split at round
  · cases round
  rename_i there
  split at round
  · cases round
  rename_i inside
  -- the sum of the two lengths did not wrap around
  have whole : (headerSize + payloadSize).toNat = headerSize.toNat + payloadSize.toNat ∧
      headerSize.toNat + payloadSize.toNat ≤ (stream.drop 8).length := by
    have sum := UInt32.toNat_add headerSize payloadSize
    have most := Nat.mod_le (headerSize.toNat + payloadSize.toNat) (2 ^ 32)
    rw [List.length_take] at there inside
    omega
  obtain ⟨total, bytes⟩ := whole
  have again := frame_of_sizes words header'.symm payload'.symm bytes
  have headerBytes : ((stream.drop 8).take (headerSize + payloadSize).toNat).take
      headerSize.toNat = (stream.drop 8).take headerSize.toNat := by
    rw [List.take_take, Nat.min_eq_left (by omega)]
  have payloadBytes : (((stream.drop 8).take (headerSize + payloadSize).toNat).drop
      headerSize.toNat).take payloadSize.toNat =
        ((stream.drop 8).drop headerSize.toNat).take payloadSize.toNat := by
    rw [List.drop_take, List.take_take, Nat.min_eq_left (by omega)]
  have emptyPayload : payloadSize = 0 ↔
      ((stream.drop 8).drop headerSize.toNat).take payloadSize.toNat = [] := by
    rw [← List.length_eq_zero_iff, List.length_take_of_le (by rw [List.length_drop]; omega),
      ← UInt32.toNat_inj]
    rfl
  rw [headerBytes, payloadBytes, total] at round
  generalize (stream.drop 8).take headerSize.toNat = headerBuffer at again round
  generalize ((stream.drop 8).drop headerSize.toNat).take payloadSize.toNat = payloadBuffer
    at again round emptyPayload
  refine ⟨(headerBuffer, payloadBuffer), ?_⟩
  rw [delivered]
  cases decodes : (parse headerBuffer).1 with
  | false =>
      simp only [decodes, Bool.not_false, ↓reduceIte] at round
      cases round
  | true =>
      simp only [decodes, Bool.not_true, Bool.false_eq_true, ↓reduceIte, beq_iff_eq,
        emptyPayload] at round
      split at round
      · rename_i none
        cases round
        exact ⟨by rw [if_pos none], again⟩
      · rename_i some
        cases round
        exact ⟨by rw [if_neg some], again⟩

/-- A round takes exactly the frame of a message off the connection. -/
theorem messageReader_undoes {message : Buffer × Buffer} (sendable : Sendable parse message) :
    MessageStream.Undoes (messageReader host parse).read
      (fun message => frame message.1 message.2) (delivered parse) message := by
  intro rest
  have small : message.1.length + message.2.length < 2 ^ 32 := by
    have header := sendable.headerSmall
    have payload := sendable.payloadSmall
    omega
  have round : receive host parse (frame message.1 message.2 ++ rest) =
      (.message (delivered parse message).1 (delivered parse message).2, rest) := by
    rw [receive_frame_small small, receivedFrame, if_pos small, if_pos sendable.decodable]
    simp only [delivered, List.length_eq_zero_iff]
  simp only [messageReader, round]

/-! ### What is sent and what is handed on -/

/-- A message, and the memory in which its write finds the bytes. -/
abbrev Sent := (Buffer × Buffer) × (Nat → Nat → UInt8)

/-- What the write of a message puts on the connection. -/
def Sent.written (sender : ByteOrder) (sent : Sent) : Buffer :=
  (send sender sent.1.1 sent.1.2).written sent.2

/-- Each byte of a message and of its two length words still has its value when it is
written. -/
def Sent.Held (sender : ByteOrder) (sent : Sent) : Prop :=
  AsioBasicComm.Held sent.2 (send sender sent.1.1 sent.1.2)

/-- The messages are handed on, in order and to the end of the stream, by any parser that
decodes their headers. -/
def RoundTrips (sender receiver : ByteOrder) (sends : List Sent) : Prop :=
  ∀ parse : ParseFromArray TransportHeader, (∀ sent ∈ sends, Sendable parse sent.1) →
    handleMessages receiver parse (sends.flatMap (Sent.written sender)) =
      (sends.map fun sent => delivered parse sent.1, [])

/-- Frames are handed on, whatever host reads them. -/
theorem handleMessages_frames (receiver : ByteOrder) {sends : List Sent}
    (sendable : ∀ sent ∈ sends, Sendable parse sent.1) :
    handleMessages receiver parse (sends.flatMap fun sent => frame sent.1.1 sent.1.2) =
      (sends.map fun sent => delivered parse sent.1, []) := by
  have undoes : ∀ sent ∈ sends, MessageStream.Undoes (messageReader receiver parse).read
      (fun sent : Sent => frame sent.1.1 sent.1.2) (fun sent => delivered parse sent.1) sent :=
    fun sent inside rest => messageReader_undoes (sendable sent inside) rest
  exact MessageStream.readAll_flatMap_nil undoes

/-- A parser that keeps the bytes of a header, as the characters of its uri. -/
def keepBytes : ParseFromArray TransportHeader := fun bytes =>
  (true, { uri := String.ofList (bytes.map Char.ofUInt8), id := 0, success := true })

/-- With these bytes, what is handed on says what the message was. -/
theorem delivered_keepBytes {message other : Buffer × Buffer}
    (same : delivered keepBytes message = delivered keepBytes other) : message = other := by
  obtain ⟨header, payload⟩ := Prod.mk.inj same
  have headers : message.1 = other.1 := by
    have chars := String.ofList_injective (congrArg TransportHeader.uri header)
    refine List.map_injective_iff.mpr ?_ chars
    intro first second equal
    exact UInt8.toUInt32_inj.mp (congrArg Char.val equal)
  have payloads : message.2 = other.2 := by
    split at payload <;> split at payload
    · rename_i first second
      rw [first, second]
    · cases payload
    · cases payload
    · exact Option.some.inj payload
  exact Prod.ext headers payloads

theorem length_written (sender : ByteOrder) (sent : Sent) :
    (sent.written sender).length = (frame sent.1.1 sent.1.2).length := by
  have sizes : (send sender sent.1.1 sent.1.2).asioBuffers.map AsioBasicComm.ConstBuffer.size =
      [4, 4, sent.1.1.length, sent.1.2.length] := rfl
  rw [Sent.written, AsioBasicComm.Gathered.written, List.length_flatMap]
  simp only [AsioBasicComm.ConstBuffer.length_bytes, sizes, frame, List.length_append,
    ByteOrder.store_length, List.sum_cons, List.sum_nil]
  omega

/-- A stream from which the messages are handed on with their bytes is their frames. -/
theorem flatMap_frame_of_handleMessages {receiver : ByteOrder} {sends : List Sent}
    {stream : Buffer} (whole : handleMessages receiver keepBytes stream =
      (sends.map fun sent => delivered keepBytes sent.1, [])) :
    stream = sends.flatMap fun sent => frame sent.1.1 sent.1.2 := by
  have takes : ∀ {stream rest : Buffer} {found : TransportHeader × Option Buffer},
      (messageReader receiver keepBytes).read stream = some (found, rest) →
        ∃ piece, (∃ message : Buffer × Buffer, delivered keepBytes message = found ∧
          piece = frame message.1 message.2) ∧ stream = piece ++ rest := by
    intro stream rest found read
    simp only [messageReader] at read
    split at read
    · rename_i round
      cases read
      obtain ⟨message, handedOn, taken⟩ := frame_of_message round
      exact ⟨_, ⟨message, handedOn, rfl⟩, taken⟩
    · cases read
  obtain ⟨pieces, framed, same⟩ :=
    MessageStream.exists_pieces (fun read => takes read) stream
  rw [handleMessages] at whole
  rw [whole] at framed same
  have frames : List.Forall₂ (· = ·) (sends.map fun sent => frame sent.1.1 sent.1.2) pieces := by
    rw [List.forall₂_map_left_iff] at framed ⊢
    refine framed.imp fun sent piece => ?_
    rintro ⟨message, handedOn, rfl⟩
    rw [delivered_keepBytes handedOn]
  rw [List.forall₂_eq_eq_eq] at frames
  rw [same, List.append_nil, ← frames, List.flatMap_def]

/-- Pieces of the same lengths that make up the same stream are the same. -/
theorem eq_of_flatMap_eq {Part : Type} {first second : Part → Buffer}
    (lengths : ∀ part, (first part).length = (second part).length) {parts : List Part}
    (same : parts.flatMap first = parts.flatMap second) :
    ∀ part ∈ parts, first part = second part := by
  induction parts with
  | nil => exact fun _ inside => absurd inside List.not_mem_nil
  | cons part rest ih =>
      obtain ⟨here, later⟩ := List.append_inj same (lengths part)
      exact List.forall_mem_cons.mpr ⟨here, ih later⟩

/-- **The framing of the search connection round-trips** exactly when every byte of the
messages and of their length words still has its value when it is written: from a host
of any byte order to one of any byte order the messages are then delivered in order, and
nothing is left of the stream. -/
theorem handleMessages_send_iff (sender receiver : ByteOrder) (sends : List Sent)
    (small : ∀ sent ∈ sends, sent.1.1.length < 2 ^ 31 ∧ sent.1.2.length < 2 ^ 31) :
    RoundTrips sender receiver sends ↔ ∀ sent ∈ sends, sent.Held sender := by
  constructor
  · intro trips
    have whole := trips keepBytes fun sent inside =>
      ⟨rfl, (small sent inside).1, (small sent inside).2⟩
    have frames := flatMap_frame_of_handleMessages whole
    intro sent inside
    exact (written_send_iff sender _ _ _).mp
      (eq_of_flatMap_eq (length_written sender) frames sent inside)
  · intro held parse sendable
    have frames : sends.flatMap (Sent.written sender) =
        sends.flatMap fun sent => frame sent.1.1 sent.1.2 :=
      List.flatMap_congr fun sent inside =>
        (written_send_iff sender _ _ _).mpr (held sent inside)
    rw [frames, handleMessages_frames receiver sendable]

/-- A header that holds nothing but an id, with a payload and without one. -/
def idMessages : List (Buffer × Buffer) := [([0x10, 0x04], [1, 2, 3]), ([0x10, 0x04], [])]

/-- Messages whose buffers stay in memory. -/
def kept (sender : ByteOrder) (messages : List (Buffer × Buffer)) : List Sent :=
  messages.map fun message => (message, (send sender message.1 message.2).memory)

/-- Sent from a big-endian host to a little-endian one. -/
theorem handleMessages_send_iff_id : RoundTrips .big .little (kept .big idMessages) ↔
    ∀ sent ∈ kept .big idMessages, sent.Held .big :=
  handleMessages_send_iff .big .little (kept .big idMessages) (by decide)

/-- The size of the header was freed and reused when its last byte is written. -/
def reused : Sent :=
  (([0x10, 0x04], [1, 2, 3]), fun slot offset =>
    if slot = 0 ∧ offset = 3 then 3
    else (send .little [0x10, 0x04] [1, 2, 3]).memory slot offset)

/-- **A freed length word loses the message**: its header decodes, and the receiver hands on
nothing. -/
theorem reused_lost : Sendable SearchState.shortHeader reused.1 ∧
    reused.written .little = [0, 0, 0, 3, 0, 0, 0, 3, 0x10, 0x04, 1, 2, 3] ∧
    handleMessages .little SearchState.shortHeader (reused.written .little) =
      ([], reused.written .little) ∧
    ¬ RoundTrips .little .little [reused] := by
  have sendable : Sendable SearchState.shortHeader reused.1 :=
    ⟨by decide, by decide, by decide⟩
  have nothing : handleMessages .little SearchState.shortHeader (reused.written .little) =
      ([], reused.written .little) := MessageStream.readAll_of_none rfl
  refine ⟨sendable, by decide, nothing, fun trips => ?_⟩
  have whole := trips SearchState.shortHeader (List.forall_mem_singleton.mpr sendable)
  rw [List.flatMap_singleton, nothing] at whole
  cases whole

end OefSearchClient

end OefCore
