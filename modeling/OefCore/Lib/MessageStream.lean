import Mathlib.Data.List.Basic

/-! # Messages on a byte stream

A reader takes a message off the front of a stream. Read one after the other, the
messages of a stream come either by one reader until it finds none
(`MessageStream.readAll`) or by a given reader each (`MessageStream.readEach`).

A reader undoes a writer when it takes off exactly what the writer put in front of
any stream. Then what was written one after the other is read back as it is, and
what follows on the stream is left (`MessageStream.readAll_flatMap`,
`MessageStream.readEach_flatMap`). Conversely, a stream is what its messages were read
off (`MessageStream.exists_pieces`).
-/

namespace MessageStream

variable {Byte Sent Message : Type*}

/-- Take a message off the front of a stream, if there is one. -/
abbrev Reader (Byte Message : Type*) := List Byte → Option (Message × List Byte)

/-- A reader that takes something off with every message. -/
structure ConsumingReader (Byte Message : Type*) where
  read : Reader Byte Message
  shorter : ∀ {stream message rest}, read stream = some (message, rest) →
    rest.length < stream.length

/-- Reading takes off what writing put in front of a stream, and yields what is to
be delivered for it. -/
def Undoes (read : Reader Byte Message) (write : Sent → List Byte) (deliver : Sent → Message)
    (sent : Sent) : Prop :=
  ∀ rest, read (write sent ++ rest) = some (deliver sent, rest)

/-- Read until there is no message: the messages, and the stream they leave. -/
def readAll (reader : ConsumingReader Byte Message) (stream : List Byte) :
    List Message × List Byte :=
  match _found : reader.read stream with
  | none => ([], stream)
  | some (message, rest) =>
      let (messages, left) := readAll reader rest
      (message :: messages, left)
termination_by stream.length
decreasing_by exact reader.shorter _found

/-- Read one message with every reader, as long as there are messages. -/
def readEach : List (Reader Byte Message) → List Byte → List Message × List Byte
  | [], stream => ([], stream)
  | read :: readers, stream =>
      match read stream with
      | none => ([], stream)
      | some (message, rest) =>
          let (messages, left) := readEach readers rest
          (message :: messages, left)

section ReadAll

variable {reader : ConsumingReader Byte Message} {stream rest : List Byte} {message : Message}

theorem readAll_of_none (nothing : reader.read stream = none) :
    readAll reader stream = ([], stream) := by
  rw [readAll]
  split
  · rfl
  · rename_i found
    rw [nothing] at found
    cases found

theorem readAll_of_some (found : reader.read stream = some (message, rest)) :
    readAll reader stream = (message :: (readAll reader rest).1, (readAll reader rest).2) := by
  rw [readAll]
  split
  · rename_i nothing
    rw [nothing] at found
    cases found
  · rename_i again
    rw [again] at found
    cases found
    rfl

/-- Reading stops where there is no message. -/
theorem read_rest (reader : ConsumingReader Byte Message) (stream : List Byte) :
    reader.read (readAll reader stream).2 = none := by
  induction stream using readAll.induct reader with
  | case1 stream nothing =>
      rw [readAll_of_none nothing]
      exact nothing
  | case2 stream message rest found _ _ _ ih =>
      rw [readAll_of_some found]
      exact ih

/-- What is read stays the same when more follows on the stream, if that is so of one
message. -/
theorem readAll_prefix (monotone : ∀ {stream message rest},
      reader.read stream = some (message, rest) → ∀ more,
        reader.read (stream ++ more) = some (message, rest ++ more))
    (stream more : List Byte) :
    (readAll reader stream).1 <+: (readAll reader (stream ++ more)).1 := by
  induction stream using readAll.induct reader with
  | case1 stream nothing =>
      rw [readAll_of_none nothing]
      exact List.nil_prefix
  | case2 stream message rest found _ _ _ ih =>
      rw [readAll_of_some found, readAll_of_some (monotone found more)]
      exact List.cons_prefix_cons.mpr ⟨rfl, ih⟩

/-- **What was written is read back**, and reading goes on with what follows. -/
theorem readAll_flatMap {write : Sent → List Byte} {deliver : Sent → Message} {sent : List Sent}
    (undoes : ∀ s ∈ sent, Undoes reader.read write deliver s) (rest : List Byte) :
    readAll reader (sent.flatMap write ++ rest) =
      (sent.map deliver ++ (readAll reader rest).1, (readAll reader rest).2) := by
  induction sent with
  | nil => rfl
  | cons first later ih =>
      have front := undoes first List.mem_cons_self (later.flatMap write ++ rest)
      rw [List.flatMap_cons, List.append_assoc, readAll_of_some front,
        ih fun s inside => undoes s (List.mem_cons_of_mem _ inside)]
      rfl

/-- With nothing following, what was written is read back and nothing is left. -/
theorem readAll_flatMap_nil {write : Sent → List Byte} {deliver : Sent → Message}
    {sent : List Sent} (undoes : ∀ s ∈ sent, Undoes reader.read write deliver s) :
    readAll reader (sent.flatMap write) = (sent.map deliver, []) := by
  have nothing : reader.read [] = none := by
    cases front : reader.read [] with
    | none => rfl
    | some taken => exact absurd (reader.shorter front) (Nat.not_lt_zero _)
  have whole := readAll_flatMap undoes []
  rwa [readAll_of_none nothing, List.append_nil, List.append_nil] at whole

/-- **A part of what was written** is read back as the beginning of it. -/
theorem readAll_part {write : Sent → List Byte} {deliver : Sent → Message} {sent : List Sent}
    (monotone : ∀ {stream message rest}, reader.read stream = some (message, rest) → ∀ more,
      reader.read (stream ++ more) = some (message, rest ++ more))
    (undoes : ∀ s ∈ sent, Undoes reader.read write deliver s)
    (part : stream <+: sent.flatMap write) :
    (readAll reader stream).1 <+: sent.map deliver := by
  obtain ⟨more, whole⟩ := part
  have read := readAll_prefix monotone stream more
  rwa [whole, readAll_flatMap_nil undoes] at read

/-- **What is read was there**: when each message is read off a piece of the stream, the
stream is the pieces of the messages, in order, and what is left. -/
theorem exists_pieces {Piece : Message → List Byte → Prop}
    (takes : ∀ {stream message rest}, reader.read stream = some (message, rest) →
      ∃ piece, Piece message piece ∧ stream = piece ++ rest)
    (stream : List Byte) : ∃ pieces, List.Forall₂ Piece (readAll reader stream).1 pieces ∧
      stream = pieces.flatten ++ (readAll reader stream).2 := by
  induction stream using readAll.induct reader with
  | case1 stream nothing =>
      rw [readAll_of_none nothing]
      exact ⟨[], .nil, rfl⟩
  | case2 stream message rest found _ _ _ ih =>
      obtain ⟨piece, taken, whole⟩ := takes found
      obtain ⟨pieces, others, left⟩ := ih
      rw [readAll_of_some found]
      refine ⟨piece :: pieces, .cons taken others, ?_⟩
      rw [List.flatten_cons, List.append_assoc, ← left, whole]

end ReadAll

/-- **What was written is read back** by as many readers, whichever undoes it. -/
theorem readEach_flatMap {readers : List (Reader Byte Message)} {write : Sent → List Byte}
    {deliver : Sent → Message} {sent : List Sent}
    (undoes : ∀ read ∈ readers, ∀ s ∈ sent, Undoes read write deliver s)
    (asMany : readers.length = sent.length) (rest : List Byte) :
    readEach readers (sent.flatMap write ++ rest) = (sent.map deliver, rest) := by
  induction sent generalizing readers with
  | nil =>
      rw [List.length_eq_zero_iff.mp asMany]
      rfl
  | cons first later ih =>
      cases readers with
      | nil => cases asMany
      | cons read readers =>
          have front := undoes read List.mem_cons_self first List.mem_cons_self
            (later.flatMap write ++ rest)
          have others := @ih readers (fun other inside s waiting =>
            undoes other (List.mem_cons_of_mem _ inside) s (List.mem_cons_of_mem _ waiting))
            (Nat.succ.inj asMany)
          rw [List.flatMap_cons, List.append_assoc, readEach, front]
          dsimp only
          rw [others]
          rfl

end MessageStream
