import OefCore.Comm.Communicator
import OefCore.Proto.Search

/-! # Frames of the search connection

A message on the search connection is two length words in network order, a
header and a payload. The sender hands the four buffers to one write
(`OefCore.OefSearchClient.send`), which puts a frame on the connection exactly when it
finds each of their bytes in memory (`OefCore.OefSearchClient.written_send_iff`). The
receiver reads the words, adds them in 32 bits, reads that many bytes and cuts them at
the two lengths (`OefCore.OefSearchClient.receive`); it hands the message on only when
its header decodes.

On a whole frame the receiver consumes exactly the frame, decodes its header and
finds the payload (`OefCore.OefSearchClient.receive_frame`), unless the two
lengths together leave the range of 32 bits.
-/

namespace OefCore

/-- What one round of `receive_` ends with. -/
inductive Received where
  /-- The continuation is invoked with a connection error. -/
  | error
  /-- The handler returns without invoking the continuation. -/
  | discarded
  /-- The continuation is invoked with a message. -/
  | message (header : TransportHeader) (payload : Option Buffer)
  /-- A slice leaves the buffer, which the language leaves undefined. -/
  | outOfBounds

namespace OefSearchClient

/-- `send_`: what is handed to the grouped write. When it returns, nothing refers to the
buffers of the sizes any more. -/
def send (host : ByteOrder) (header payload : Buffer) : AsioBasicComm.Gathered :=
  let headerSize := serializeWord host (ByteOrder.htonl host (UInt32.ofNat header.length))
  let payloadSize := serializeWord host (ByteOrder.htonl host (UInt32.ofNat payload.length))
  AsioBasicComm.sendAsync [headerSize, payloadSize, header, payload]
    [4, 4, header.length, payload.length]

/-- `receive_` on the bytes that are still to come on the connection: how the
round ends, and the bytes it leaves. -/
def receive (host : ByteOrder) (parse : ParseFromArray TransportHeader) (stream : Buffer) :
    Received × Buffer :=
  let sizes := stream.take 8
  if sizes.length < 8 then (.error, [])
  else
    let headerSize := ByteOrder.ntohl host (ByteOrder.load host sizes)
    let payloadSize := ByteOrder.ntohl host (ByteOrder.load host (sizes.drop 4))
    let stream := stream.drop 8
    let nbytes := (headerSize + payloadSize).toNat
    let data := stream.take nbytes
    let stream := stream.drop nbytes
    if data.length < nbytes then (.discarded, [])
    else if data.length < headerSize.toNat + payloadSize.toNat then (.outOfBounds, stream)
    else
      let headerBuffer := data.take headerSize.toNat
      let payloadBuffer := (data.drop headerSize.toNat).take payloadSize.toNat
      let (header, hstatus) := Pbs.deserializeStatus parse headerBuffer
      if !hstatus then (.discarded, stream)
      else if payloadSize == 0 then (.message header none, stream)
      else (.message header (some payloadBuffer), stream)

/-- A frame in network order: both lengths, the header and the payload. -/
def frame (header payload : Buffer) : Buffer :=
  ByteOrder.store .big (UInt32.ofNat header.length) ++
    ByteOrder.store .big (UInt32.ofNat payload.length) ++ header ++ payload

/-- What is sent is a frame in network order, on any host, if the write finds it in
memory. -/
theorem written_send_iff (host : ByteOrder) (header payload : Buffer)
    (memory : Nat → Nat → UInt8) :
    (send host header payload).written memory = frame header payload ↔
      AsioBasicComm.Held memory (send host header payload) := by
  have gathered : send host header payload = AsioBasicComm.sendAsync
      [ByteOrder.store .big (UInt32.ofNat header.length),
        ByteOrder.store .big (UInt32.ofNat payload.length), header, payload]
      (List.map List.length [ByteOrder.store .big (UInt32.ofNat header.length),
        ByteOrder.store .big (UInt32.ofNat payload.length), header, payload]) := by
    simp only [send, serializeWord, ByteOrder.store_htonl, List.map_cons, List.map_nil,
      ByteOrder.store_length]
  have whole : frame header payload = [ByteOrder.store .big (UInt32.ofNat header.length),
      ByteOrder.store .big (UInt32.ofNat payload.length), header, payload].flatten := by
    simp only [frame, List.flatten_cons, List.flatten_nil, List.append_nil, List.append_assoc]
  rw [gathered, whole, AsioBasicComm.written_eq_flatten_iff]

/-- How a round ends on a whole frame. -/
def receivedFrame (parse : ParseFromArray TransportHeader) (header payload : Buffer) : Received :=
  if header.length + payload.length < 2 ^ 32 then
    if (parse header).1 then
      .message (parse header).2 (if payload.length = 0 then none else some payload)
    else .discarded
  else .outOfBounds

variable {host : ByteOrder} {parse : ParseFromArray TransportHeader} {header payload : Buffer}

/-- A length below the range of a word is the word's value. -/
theorem word_toNat {length : Nat} (small : length < 2 ^ 32) :
    (UInt32.ofNat length).toNat = length := by
  rw [UInt32.toNat_ofNat', Nat.mod_eq_of_lt small]

/-- The two length words of a frame, as the receiver cuts them off. -/
theorem frame_split (header payload rest : Buffer) :
    (frame header payload ++ rest).take 8 =
        ByteOrder.store .big (UInt32.ofNat header.length) ++
          ByteOrder.store .big (UInt32.ofNat payload.length) ∧
      (frame header payload ++ rest).drop 8 = header ++ payload ++ rest := by
  have split : frame header payload ++ rest =
      (ByteOrder.store .big (UInt32.ofNat header.length) ++
        ByteOrder.store .big (UInt32.ofNat payload.length)) ++ (header ++ payload ++ rest) := by
    simp only [frame, List.append_assoc]
  have words : (ByteOrder.store .big (UInt32.ofNat header.length) ++
      ByteOrder.store .big (UInt32.ofNat payload.length)).length = 8 := by
    rw [List.length_append, ByteOrder.store_length, ByteOrder.store_length]
  rw [split]
  exact ⟨List.take_left' words, List.drop_left' words⟩

/-- The lengths the receiver reads from a frame are those of its parts. -/
theorem receive_lengths (header payload rest : Buffer) :
    receive host parse (frame header payload ++ rest) =
      let headerSize := UInt32.ofNat header.length
      let payloadSize := UInt32.ofNat payload.length
      let stream := header ++ payload ++ rest
      let nbytes := (headerSize + payloadSize).toNat
      let data := stream.take nbytes
      if data.length < nbytes then (.discarded, [])
      else if data.length < headerSize.toNat + payloadSize.toNat then
        (.outOfBounds, stream.drop nbytes)
      else if !(parse (data.take headerSize.toNat)).1 then (.discarded, stream.drop nbytes)
      else if payloadSize == 0 then
        (.message (parse (data.take headerSize.toNat)).2 none, stream.drop nbytes)
      else
        (.message (parse (data.take headerSize.toNat)).2
          (some ((data.drop headerSize.toNat).take payloadSize.toNat)), stream.drop nbytes) := by
  obtain ⟨taken, dropped⟩ := frame_split header payload rest
  have secondWord : (ByteOrder.store .big (UInt32.ofNat header.length) ++
      ByteOrder.store .big (UInt32.ofNat payload.length)).drop 4 =
      ByteOrder.store .big (UInt32.ofNat payload.length) ++ [] := by
    rw [List.append_nil]
    exact List.drop_left' (ByteOrder.store_length _ _)
  simp only [receive, taken, dropped, secondWord, ByteOrder.ntohl_load, List.length_append,
    ByteOrder.store_length, Nat.lt_irrefl, ↓reduceIte, Pbs.deserializeStatus]

/-- **One round on a whole frame** whose lengths add up within 32 bits: it reads
exactly the frame and cuts it into its parts. -/
theorem receive_frame_small (small : header.length + payload.length < 2 ^ 32) (rest : Buffer) :
    receive host parse (frame header payload ++ rest) =
      (receivedFrame parse header payload, rest) := by
  have headerWord : (UInt32.ofNat header.length).toNat = header.length :=
    word_toNat (by omega)
  have payloadWord : (UInt32.ofNat payload.length).toNat = payload.length :=
    word_toNat (by omega)
  have total : (UInt32.ofNat header.length + UInt32.ofNat payload.length).toNat =
      (header ++ payload).length := by
    rw [UInt32.toNat_add, headerWord, payloadWord, Nat.mod_eq_of_lt small, List.length_append]
  have emptyPayload : (UInt32.ofNat payload.length == 0) = decide (payload.length = 0) := by
    rw [Bool.eq_iff_iff, beq_iff_eq, decide_eq_true_eq, ← UInt32.toNat_inj, payloadWord]
    rfl
  have sum : header.length + payload.length = (header ++ payload).length :=
    List.length_append.symm
  rw [receive_lengths]
  simp only [headerWord, payloadWord, total, sum, emptyPayload, List.take_left, List.drop_left,
    Nat.lt_irrefl, ↓reduceIte, List.take_length, receivedFrame, sum ▸ small]
  cases (parse header).1 <;> by_cases empty : payload.length = 0 <;>
    simp [empty]

/-- On a frame whose lengths add up to more than 32 bits hold, the receiver reads
too little and slices outside of it. -/
theorem receive_frame_large (headerSmall : header.length < 2 ^ 32)
    (payloadSmall : payload.length < 2 ^ 32) (large : ¬ header.length + payload.length < 2 ^ 32)
    (rest : Buffer) :
    (receive host parse (frame header payload ++ rest)).1 = .outOfBounds := by
  have headerWord := word_toNat headerSmall
  have payloadWord := word_toNat payloadSmall
  have total : (UInt32.ofNat header.length + UInt32.ofNat payload.length).toNat =
      header.length + payload.length - 2 ^ 32 := by
    rw [UInt32.toNat_add, headerWord, payloadWord]
    omega
  have read : ((header ++ payload ++ rest).take
      (header.length + payload.length - 2 ^ 32)).length =
        header.length + payload.length - 2 ^ 32 := by
    rw [List.length_take, List.length_append, List.length_append]
    omega
  rw [receive_lengths]
  simp only [headerWord, payloadWord, total, read, Nat.lt_irrefl, ↓reduceIte]
  rw [if_pos (by omega)]

/-- How one round ends on a whole frame, whatever follows it on the connection. -/
theorem receive_frame (headerSmall : header.length < 2 ^ 32)
    (payloadSmall : payload.length < 2 ^ 32) (rest : Buffer) :
    (receive host parse (frame header payload ++ rest)).1 = receivedFrame parse header payload := by
  by_cases small : header.length + payload.length < 2 ^ 32
  · rw [receive_frame_small small]
  · rw [receive_frame_large headerSmall payloadSmall small, receivedFrame, if_neg small]

end OefSearchClient

end OefCore
