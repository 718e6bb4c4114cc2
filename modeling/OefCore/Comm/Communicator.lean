import OefCore.Lib.ByteOrder
import OefCore.Proto.Serialization

/-! # Communicators

The sending side of the classes `AsioBasicComm` and `AsioComm`: what a send hands to
its write, and what the completion handler of the write does with the continuation of
the send.

A write is handed addresses. It takes a byte from memory when it comes to it, for an
asynchronous send after the call has returned if the connection does not take
everything at once. Nothing keeps the buffers until then: a word is a local variable of
`AsioComm::send_async`, and no completion handler captures a buffer. So what is
written is a function of the memory that the write finds
(`OefCore.AsioBasicComm.Gathered.written`, `OefCore.AsioComm.Gathered.written`).
-/

namespace OefCore

namespace AsioBasicComm

/-- A buffer of a gathered write: the data of a buffer of the call, by its place among
those, and a size. -/
structure ConstBuffer where
  slot : Nat
  size : Nat

/-- What a call hands to its write: its buffers and the addresses of their data. -/
structure Gathered where
  buffers : List Buffer
  asioBuffers : List ConstBuffer

/-- The bytes of a buffer in a memory that is given by slots and offsets. -/
def ConstBuffer.bytes (memory : Nat → Nat → UInt8) (buffer : ConstBuffer) : Buffer :=
  (List.range buffer.size).map (memory buffer.slot)

/-- The bytes of a gathered write. -/
def Gathered.written (memory : Nat → Nat → UInt8) (gathered : Gathered) : Buffer :=
  gathered.asioBuffers.flatMap (ConstBuffer.bytes memory)

/-- The grouped `send_async`. -/
def sendAsync (buffers : List Buffer) (nbytes : List Nat) : Gathered where
  buffers
  asioBuffers := List.zipWith ConstBuffer.mk (List.range buffers.length) nbytes

/-- Every byte of the buffers of a call still has its value in the memory of its
write. -/
def Held (memory : Nat → Nat → UInt8) (gathered : Gathered) : Prop :=
  ∀ slot buffer, gathered.buffers[slot]? = some buffer →
    ∀ offset byte, buffer[offset]? = some byte → memory slot offset = byte

/-- The memory of a call, with its buffers in their places. -/
def Gathered.memory (gathered : Gathered) (slot offset : Nat) : UInt8 :=
  (gathered.buffers.getD slot []).getD offset 0

/-- The buffers hold as long as nobody else writes to the memory of the call. -/
theorem held_memory (gathered : Gathered) : Held gathered.memory gathered := by
  intro slot buffer found offset byte there
  have here : gathered.buffers.getD slot [] = buffer := by
    rw [List.getD_eq_getElem?_getD, found, Option.getD_some]
  rw [Gathered.memory, here, List.getD_eq_getElem?_getD, there, Option.getD_some]

section Written

variable {memory : Nat → Nat → UInt8}

@[simp] theorem ConstBuffer.length_bytes (buffer : ConstBuffer) :
    (buffer.bytes memory).length = buffer.size := by
  rw [ConstBuffer.bytes, List.length_map, List.length_range]

/-- A buffer is written as it is when its bytes are in memory. -/
theorem ConstBuffer.bytes_eq_iff (slot : Nat) (buffer : Buffer) :
    ConstBuffer.bytes memory ⟨slot, buffer.length⟩ = buffer ↔
      ∀ offset byte, buffer[offset]? = some byte → memory slot offset = byte := by
  have written : ∀ offset < buffer.length,
      (ConstBuffer.bytes memory ⟨slot, buffer.length⟩)[offset]? = some (memory slot offset) := by
    intro offset below
    rw [ConstBuffer.bytes, List.getElem?_map, List.getElem?_range below, Option.map_some]
  constructor
  · intro same offset byte there
    obtain ⟨below, _⟩ := List.getElem?_eq_some_iff.mp there
    have found := written offset below
    rw [same, there] at found
    exact (Option.some.inj found).symm
  · intro held
    refine List.ext_getElem? fun offset => ?_
    rcases Nat.lt_or_ge offset buffer.length with below | beyond
    · rw [written offset below, held offset _ (List.getElem?_eq_getElem below),
        List.getElem?_eq_getElem below]
    · rw [List.getElem?_eq_none beyond, List.getElem?_eq_none]
      rwa [ConstBuffer.length_bytes]

/-- Buffers from some slot on are written as they are when their bytes are in memory. -/
theorem bytes_eq_flatten_iff (start : Nat) (buffers : List Buffer) :
    (List.zipWith ConstBuffer.mk (List.range' start buffers.length)
        (buffers.map List.length)).flatMap (ConstBuffer.bytes memory) = buffers.flatten ↔
      ∀ slot buffer, buffers[slot]? = some buffer →
        ∀ offset byte, buffer[offset]? = some byte → memory (start + slot) offset = byte := by
  induction buffers generalizing start with
  | nil => exact iff_of_true rfl fun _ _ found => nomatch found
  | cons first rest ih =>
      rw [List.length_cons, List.range'_succ, List.map_cons, List.zipWith_cons_cons,
        List.flatMap_cons, List.flatten_cons]
      have apart : ∀ written : Buffer,
          ConstBuffer.bytes memory ⟨start, first.length⟩ ++ written = first ++ rest.flatten ↔
            ConstBuffer.bytes memory ⟨start, first.length⟩ = first ∧ written = rest.flatten :=
        fun _ => ⟨fun same => List.append_inj same (ConstBuffer.length_bytes _),
          fun ⟨front, later⟩ => congrArg₂ _ front later⟩
      rw [apart, ConstBuffer.bytes_eq_iff, ih (start + 1)]
      constructor
      · rintro ⟨here, later⟩ slot buffer found
        cases slot with
        | zero =>
            cases found
            exact here
        | succ slot =>
            rw [← Nat.add_assoc, Nat.add_right_comm]
            exact later slot buffer found
      · refine fun held => ⟨held 0 first rfl, fun slot buffer found => ?_⟩
        rw [Nat.add_right_comm]
        exact held (slot + 1) buffer found

/-- **A send writes its buffers** exactly when each byte of them still has its value
when it is written. -/
theorem written_eq_flatten_iff (buffers : List Buffer) :
    (sendAsync buffers (buffers.map List.length)).written memory = buffers.flatten ↔
      Held memory (sendAsync buffers (buffers.map List.length)) := by
  have held := @bytes_eq_flatten_iff memory 0 buffers
  simp only [Nat.zero_add] at held
  rw [Gathered.written, sendAsync, List.range_eq_range', held]
  rfl

end Written

/-- The completion handler of `send_async`: it logs an error and invokes the
continuation in any case. -/
def sendCompleted {Result : Type} (continuation : ErrorCode → Nat → List Result)
    (ec : ErrorCode) (length : Nat) : List Result :=
  continuation ec length

end AsioBasicComm

namespace AsioComm

/-- A buffer of a gathered write: a length word, by its place among those of the
call, or the first bytes of a message. -/
inductive ConstBuffer where
  | word (slot : Nat)
  | data (buffer : Buffer) (len : UInt32)

/-- What a call hands to its write: its length words and the buffers. -/
structure Gathered where
  lens : List UInt32
  buffers : List ConstBuffer

/-- The bytes of a buffer in a memory that holds the length words. -/
def ConstBuffer.bytes (host : ByteOrder) (memory : Nat → UInt32) : ConstBuffer → Buffer
  | .word slot => ByteOrder.store host (memory slot)
  | .data buffer len => buffer.take len.toNat

/-- The bytes of a gathered write. -/
def Gathered.written (host : ByteOrder) (memory : Nat → UInt32) (gathered : Gathered) : Buffer :=
  gathered.buffers.flatMap (ConstBuffer.bytes host memory)

/-- The buffers of `send_async` and of `send_sync` with one message: one local
length word and the message. -/
def gatherOne (buffer : Buffer) : Gathered :=
  let len := UInt32.ofNat buffer.length
  { lens := [len], buffers := [.word 0, .data buffer len] }

/-- The loop of `send_sync` over a vector of messages. -/
def gatherAll : List Buffer → Gathered → Gathered
  | [], gathered => gathered
  | buffer :: rest, gathered =>
      let len := UInt32.ofNat buffer.length
      gatherAll rest {
        lens := gathered.lens ++ [len]
        buffers := gathered.buffers ++ [.word gathered.lens.length, .data buffer len] }

/-- Every length word of a call still has its value in the memory of its write. -/
def Held (memory : Nat → UInt32) (gathered : Gathered) : Prop :=
  ∀ slot len, gathered.lens[slot]? = some len → memory slot = len

/-- The memory of a call, with its length words in their places. -/
def Gathered.memory (gathered : Gathered) (slot : Nat) : UInt32 := gathered.lens.getD slot 0

/-- The words hold as long as nobody else writes to the memory of the call. -/
theorem held_memory (gathered : Gathered) : Held gathered.memory gathered := by
  intro slot len found
  rw [Gathered.memory, List.getD_eq_getElem?_getD, found, Option.getD_some]

/-- The completion handler of `send_async`: the continuation is only invoked when
there was no error. -/
def sendCompleted {Result : Type} (continuation : ErrorCode → Nat → List Result)
    (ec : ErrorCode) (length : Nat) : List Result :=
  if ec.failed then [] else continuation ec length

end AsioComm

/-- `oef::serialize` of a word: its bytes in memory. -/
def serializeWord (host : ByteOrder) (size : UInt32) : Buffer := ByteOrder.store host size

end OefCore
