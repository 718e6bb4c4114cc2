import Mathlib.Data.List.Basic
import OefCore.Lib.Run

/-! # Composed writes on a shared stream

Several messages are written to one stream. The write of a message is a composed
operation: it transfers the bytes of the message in any number of partial writes,
of any lengths, and is outstanding while some bytes are left. Partial writes of
different outstanding operations come in any order. A write is given the memory of
its message, not a copy, and takes a byte from there when it transfers it; until
then the memory can be overwritten.

A stream on which no write starts while another one is outstanding, and whose writes
find their memory as it was, carries the messages one after the other
(`SharedStream.run_wire`).
-/

/-- The memory that outstanding writes have left to transfer, the bytes on the stream,
and the messages whose writes were started. -/
structure SharedStream (Message Byte : Type*) where
  outstanding : List (List Byte)
  wire : List Byte
  started : List Message
  deriving DecidableEq

inductive WriteEvent (Message Byte : Type*) where
  /-- The write of a message is started. -/
  | start (message : Message)
  /-- An outstanding write transfers some of the bytes it has left. -/
  | transfer (write count : Nat)
  /-- A byte is overwritten in the memory that an outstanding write has left. -/
  | overwrite (write place : Nat) (byte : Byte)

namespace SharedStream

variable {Message Byte : Type*}

def idle : SharedStream Message Byte := { outstanding := [], wire := [], started := [] }

variable (encode : Message → List Byte)

/-- An operation with bytes left, or nothing. -/
def pending (bytes : List Byte) : List (List Byte) := if bytes.isEmpty then [] else [bytes]

def step (stream : SharedStream Message Byte) :
    WriteEvent Message Byte → Option (SharedStream Message Byte)
  | .start message =>
      some { stream with
        outstanding := stream.outstanding ++ pending (encode message)
        started := stream.started ++ [message] }
  | .transfer write count =>
      match stream.outstanding[write]? with
      | none => none
      | some bytes =>
          some { stream with
            outstanding := stream.outstanding.take write ++ pending (bytes.drop count) ++
              stream.outstanding.drop (write + 1)
            wire := stream.wire ++ bytes.take count }
  | .overwrite write place byte =>
      match stream.outstanding[write]? with
      | none => none
      | some bytes =>
          some { stream with
            outstanding := stream.outstanding.set write (bytes.set place byte) }

/-- No write starts while another one is outstanding. -/
def Exclusive (stream : SharedStream Message Byte) (event : WriteEvent Message Byte) : Prop :=
  ∀ message, event = .start message → stream.outstanding = []

/-- The memory that an outstanding write has left holds its bytes. -/
def Held (stream : SharedStream Message Byte) (event : WriteEvent Message Byte) : Prop :=
  ∀ write place byte, event = .overwrite write place byte →
    ∀ bytes, stream.outstanding[write]? = some bytes → bytes.set place byte = bytes

/-- Writes do not overlap, and each finds its bytes in memory. -/
structure Orderly (stream : SharedStream Message Byte) (event : WriteEvent Message Byte) :
    Prop where
  exclusive : stream.Exclusive event
  held : stream.Held event

@[simp] theorem flatten_pending (bytes : List Byte) : (pending bytes).flatten = bytes := by
  unfold pending
  cases bytes with
  | nil => rfl
  | cons byte bytes => exact List.append_nil _

theorem length_pending (bytes : List Byte) : (pending bytes).length ≤ 1 := by
  unfold pending
  split
  · exact Nat.zero_le 1
  · exact Nat.le_refl 1

variable {encode} {stream next : SharedStream Message Byte} {event : WriteEvent Message Byte}

theorem orderly_start (complete : stream.outstanding = []) (message : Message) :
    stream.Orderly (.start message) where
  exclusive _ _ := complete
  held := nofun

theorem orderly_transfer (write count : Nat) : stream.Orderly (.transfer write count) where
  exclusive := nofun
  held := nofun

/-- A single outstanding write transfers its bytes in order. -/
theorem step_wire (orderly : stream.Orderly event)
    (single : stream.outstanding.length ≤ 1)
    (prefixed : stream.wire ++ stream.outstanding.flatten = stream.started.flatMap encode)
    (taken : step encode stream event = some next) :
    next.outstanding.length ≤ 1 ∧
      next.wire ++ next.outstanding.flatten = next.started.flatMap encode := by
  cases event with
  | start message =>
      cases taken
      have none := orderly.exclusive message rfl
      rw [none, List.flatten_nil, List.append_nil] at prefixed
      dsimp only
      rw [none, List.nil_append, flatten_pending, prefixed, List.flatMap_append,
        List.flatMap_singleton]
      exact ⟨length_pending _, rfl⟩
  | transfer write count =>
      simp only [step] at taken
      split at taken
      · cases taken
      · rename_i bytes found
        cases taken
        obtain ⟨below, here⟩ := List.getElem?_eq_some_iff.mp found
        have first : write = 0 := by omega
        subst first
        obtain ⟨only, one⟩ := List.length_eq_one_iff.mp (Nat.le_antisymm single below)
        rw [one, List.getElem?_cons_zero] at found
        cases found
        rw [one, List.flatten_singleton] at prefixed
        dsimp only
        rw [one, List.take_zero, List.nil_append, List.drop_succ_cons, List.drop_nil,
          List.append_nil, flatten_pending, List.append_assoc, List.take_append_drop]
        exact ⟨length_pending _, prefixed⟩
  | overwrite write place byte =>
      simp only [step] at taken
      split at taken
      · cases taken
      · rename_i bytes found
        cases taken
        have same := orderly.held write place byte rfl bytes found
        obtain ⟨below, rfl⟩ := List.getElem?_eq_some_iff.mp found
        dsimp only
        rw [same, List.set_getElem_self below]
        exact ⟨single, prefixed⟩

/-- **Orderly writes keep messages whole.** What is on the stream, followed by
what the outstanding write has left, is the encodings of the messages in the
order in which they were started. -/
theorem run_wire {events : List (WriteEvent Message Byte)}
    (run : RunWithin Orderly (step encode) idle events stream) :
    stream.wire ++ stream.outstanding.flatten = stream.started.flatMap encode := by
  have both : stream.outstanding.length ≤ 1 ∧
      stream.wire ++ stream.outstanding.flatten = stream.started.flatMap encode :=
    run.invariant (fun stream => stream.outstanding.length ≤ 1 ∧
        stream.wire ++ stream.outstanding.flatten = stream.started.flatMap encode)
      ⟨Nat.zero_le 1, rfl⟩ fun _ _ _ before orderly taken =>
        step_wire orderly before.1 before.2 taken
  exact both.2

/-- With no write outstanding, the stream carries exactly the messages. -/
theorem run_wire_complete {events : List (WriteEvent Message Byte)}
    (run : RunWithin Orderly (step encode) idle events stream)
    (complete : stream.outstanding = []) : stream.wire = stream.started.flatMap encode := by
  have whole := run_wire run
  rwa [complete, List.flatten_nil, List.append_nil] at whole

end SharedStream
