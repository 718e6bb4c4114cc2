import OefCore.Comm.AgentStream
import OefCore.Lib.SharedStream
import OefCore.Search.Framing

/-! # Frames on a connection

All agent sessions send through one search connection, and all sessions that
have a message for an agent send through the connection of that agent. Both
`OefSearchClient::send_` and `AgentSession::send` start an `asio::async_write`
right away, without waiting for the one before it, although a stream carries only
one such write at a time.

The connection carries whole frames, one of each message, as long as no write starts
before the bytes of the one before it are on the connection, and every byte is in memory
until then (`OefCore.run_wholeFrames`).
-/

namespace OefCore

/-- A message serialized by `pbs::serialize`; its size is an `int`. -/
structure Serialized where
  bytes : Buffer
  size : bytes.length < 2 ^ 31

/-- `OefSearchClient::send_` of a header and a payload: the bytes that its buffers hold at
the call. -/
def sendToSearch (host : ByteOrder) (message : Serialized × Serialized) : Buffer :=
  let gathered := OefSearchClient.send host message.1.bytes message.2.bytes
  gathered.written gathered.memory

/-- `AgentSession::send` of a message: the bytes that its buffers hold at the call. -/
def sendToAgent (host : ByteOrder) (message : Serialized) : Buffer :=
  let gathered := AsioComm.gatherOne message.bytes
  gathered.written host gathered.memory

/-- Two length words in network order, and exactly the bytes they announce. -/
def SearchFrame (bytes : Buffer) : Prop :=
  ∃ headerSize payloadSize : UInt32, ∃ rest : Buffer,
    bytes = ByteOrder.store .big headerSize ++ ByteOrder.store .big payloadSize ++ rest ∧
      rest.length = headerSize.toNat + payloadSize.toNat

/-- A length word in the order of the host, and exactly the bytes it announces. -/
def AgentFrame (host : ByteOrder) (bytes : Buffer) : Prop :=
  ∃ size : UInt32, ∃ rest : Buffer,
    bytes = ByteOrder.store host size ++ rest ∧ rest.length = size.toNat

/-- Bytes that are whole frames, one after the other. -/
def Framed (frame : Buffer → Prop) (bytes : Buffer) : Prop :=
  ∃ frames : List Buffer, (∀ bytes ∈ frames, frame bytes) ∧ bytes = frames.flatten

/-- The connection carries, in some order, a whole frame of every message whose write was
started, and nothing else. -/
def WholeFrames {Message : Type} (frame : Buffer → Prop) (encode : Message → Buffer)
    (stream : SharedStream Message UInt8) : Prop :=
  ∃ order : List Message, order.Perm stream.started ∧ (∀ message ∈ order, frame (encode message)) ∧
    stream.wire = order.flatMap encode

/-- The frame of a message to the search service, or to an agent. -/
def frameToSearch (message : Serialized × Serialized) : Buffer :=
  OefSearchClient.frame message.1.bytes message.2.bytes

def frameToAgent (host : ByteOrder) (message : Serialized) : Buffer :=
  AsioComm.frame host message.bytes

theorem WholeFrames.framed {Message : Type} {frame : Buffer → Prop} {encode : Message → Buffer}
    {stream : SharedStream Message UInt8} (whole : WholeFrames frame encode stream) :
    Framed frame stream.wire := by
  obtain ⟨order, _, frames, wire⟩ := whole
  refine ⟨order.map encode, fun bytes member => ?_, ?_⟩
  · obtain ⟨message, inside, rfl⟩ := List.mem_map.mp member
    exact frames message inside
  · rw [wire, List.flatMap_def]

theorem Serialized.size_toNat (message : Serialized) :
    (UInt32.ofNat message.bytes.length).toNat = message.bytes.length :=
  OefSearchClient.word_toNat (by have := message.size; omega)

/-- The buffers of a message to the search service hold its frame at the call. -/
theorem sendToSearch_eq (host : ByteOrder) (message : Serialized × Serialized) :
    sendToSearch host message = frameToSearch message :=
  (OefSearchClient.written_send_iff host _ _ _).mpr (AsioBasicComm.held_memory _)

/-- The buffers of a message to an agent hold its frame at the call. -/
theorem sendToAgent_eq (host : ByteOrder) (message : Serialized) :
    sendToAgent host message = frameToAgent host message :=
  AsioComm.written_gatherOne (by have := message.size; omega) (AsioComm.held_memory _)

/-- The frame of a message to the search service is one. -/
theorem searchFrame_frameToSearch (message : Serialized × Serialized) :
    SearchFrame (frameToSearch message) := by
  refine ⟨UInt32.ofNat message.1.bytes.length, UInt32.ofNat message.2.bytes.length,
    message.1.bytes ++ message.2.bytes, ?_, ?_⟩
  · rw [frameToSearch, OefSearchClient.frame, List.append_assoc]
  · rw [List.length_append, message.1.size_toNat, message.2.size_toNat]

/-- The frame of a message to an agent is one. -/
theorem agentFrame_frameToAgent (host : ByteOrder) (message : Serialized) :
    AgentFrame host (frameToAgent host message) :=
  ⟨UInt32.ofNat message.bytes.length, message.bytes, rfl, message.size_toNat.symm⟩

/-- Bytes that begin with the length of more than what follows are no frames. -/
theorem not_framed_of_large {host : ByteOrder} {bytes : Buffer} (some : bytes ≠ [])
    (large : bytes.length < 4 + (ByteOrder.load host bytes).toNat) :
    ¬ Framed (AgentFrame host) bytes := by
  rintro ⟨frames, whole, rfl⟩
  cases frames with
  | nil => exact some rfl
  | cons first rest =>
      obtain ⟨size, announced, rfl, length⟩ := whole first (List.mem_cons_self ..)
      rw [List.flatten_cons, List.append_assoc, ByteOrder.load_store, List.length_append,
        ByteOrder.store_length, List.length_append, length] at large
      omega

/-- Orderly writes of frames leave whole frames. -/
theorem wholeFrames_of_orderly {Message : Type} {send encode : Message → Buffer}
    {frame : Buffer → Prop} (sends : ∀ message, send message = encode message)
    (encodes : ∀ message, frame (encode message)) {events : List (WriteEvent Message UInt8)}
    {stream : SharedStream Message UInt8}
    (run : RunWithin SharedStream.Orderly (SharedStream.step send) .idle events stream)
    (complete : stream.outstanding = []) : WholeFrames frame encode stream := by
  refine ⟨stream.started, List.Perm.refl _, fun message _ => encodes message, ?_⟩
  rw [SharedStream.run_wire_complete run complete, funext sends]

/-- **Frames stay whole on both kinds of connections**, however the writes are split, if no
write starts before the one before it is complete and every byte is in memory until it is
written. -/
theorem run_wholeFrames (host : ByteOrder) :
    (∀ events stream,
      RunWithin SharedStream.Orderly (SharedStream.step (sendToSearch host)) .idle events
        stream → stream.outstanding = [] → WholeFrames SearchFrame frameToSearch stream) ∧
    ∀ events stream,
      RunWithin SharedStream.Orderly (SharedStream.step (sendToAgent host)) .idle events
        stream → stream.outstanding = [] →
          WholeFrames (AgentFrame host) (frameToAgent host) stream :=
  ⟨fun _ _ run complete => wholeFrames_of_orderly (sendToSearch_eq host)
      searchFrame_frameToSearch run complete,
    fun _ _ run complete => wholeFrames_of_orderly (sendToAgent_eq host)
      (agentFrame_frameToAgent host) run complete⟩

/-! ### Two answers to an agent -/

/-- The answer that a search with some message id found no agents. -/
def noAgents (answerId : UInt8) : Serialized where
  bytes := [0x08, answerId, 0x22, 0x00]
  size := (by decide : 4 < 2 ^ 31)

/-- The first answer is sent in two parts, then the second, whose memory is written to in
between with what it holds. -/
def oneByOne : List (WriteEvent Serialized UInt8) :=
  [.start (noAgents 1), .transfer 0 1, .transfer 0 7, .start (noAgents 2), .overwrite 0 0 4,
    .transfer 0 8]

/-- The second answer is sent between the two parts of the first. -/
def overlapping : List (WriteEvent Serialized UInt8) :=
  [.start (noAgents 1), .start (noAgents 2), .transfer 0 1, .transfer 1 8, .transfer 0 7]

/-- The length word of the one answer is overwritten before it is sent. -/
def overwritten : List (WriteEvent Serialized UInt8) :=
  [.start (noAgents 1), .overwrite 0 1 4, .transfer 0 8]

def wireAfter (events : List (WriteEvent Serialized UInt8)) : SharedStream Serialized UInt8 :=
  (execute (SharedStream.step (sendToAgent .little)) .idle events).getD .idle

theorem oneByOne_orderly :
    AlongExecution SharedStream.Orderly (SharedStream.step (sendToAgent .little)) .idle
      oneByOne := by
  refine And.intro (SharedStream.orderly_start rfl _) <|
    And.intro (SharedStream.orderly_transfer _ _) <|
      And.intro (SharedStream.orderly_transfer _ _) <|
        And.intro (SharedStream.orderly_start rfl _) <|
          And.intro ⟨nofun, ?_⟩ <| And.intro (SharedStream.orderly_transfer _ _) trivial
  intro write place byte overwritten bytes found
  cases overwritten
  cases found
  rfl

/-- Two answers, one by one. -/
theorem run_wholeFrames_oneByOne :
    WholeFrames (AgentFrame .little) (frameToAgent .little) (wireAfter oneByOne) := by
  have executed : execute (SharedStream.step (sendToAgent .little)) .idle oneByOne =
      some (wireAfter oneByOne) := rfl
  exact (run_wholeFrames .little).2 oneByOne _ (runWithin_of_execute executed oneByOne_orderly)
    rfl

/-- **Overlapping writes break frames, and so does a length word that is overwritten**: all
answers are written completely, and in both runs the bytes on the connection do not start with
a frame. -/
theorem overlapping_broken :
    (Run (SharedStream.step (sendToAgent .little)) .idle overlapping (wireAfter overlapping) ∧
      (wireAfter overlapping).outstanding = [] ∧
      ¬ Framed (AgentFrame .little) (wireAfter overlapping).wire ∧
      ¬ WholeFrames (AgentFrame .little) (frameToAgent .little) (wireAfter overlapping)) ∧
    Run (SharedStream.step (sendToAgent .little)) .idle overwritten (wireAfter overwritten) ∧
      (wireAfter overwritten).outstanding = [] ∧
      ¬ Framed (AgentFrame .little) (wireAfter overwritten).wire ∧
      ¬ WholeFrames (AgentFrame .little) (frameToAgent .little) (wireAfter overwritten) := by
  have crossed : ¬ Framed (AgentFrame .little) (wireAfter overlapping).wire :=
    not_framed_of_large (by decide) (by decide)
  have freed : ¬ Framed (AgentFrame .little) (wireAfter overwritten).wire :=
    not_framed_of_large (by decide) (by decide)
  exact ⟨⟨run_of_execute rfl, rfl, crossed, fun whole => crossed whole.framed⟩,
    run_of_execute rfl, rfl, freed, fun whole => freed whole.framed⟩

end OefCore
