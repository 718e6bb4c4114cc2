import OefCore.Lib.MessageStream
import OefCore.Lib.Run

/-! # Composed reads on a stream

A program reads a stream by composed reads, one at a time. The read that it starts in
some state of its control is for a number of bytes; the operation takes bytes off the
stream in any number of partial reads, and its handler runs when it has them all, or
when the stream has ended before that. The bytes of the stream arrive in pieces of any
lengths, at any time.

How the bytes arrive and how they are taken off does not matter: what the handlers put
out is what they put out on the whole stream, and is all of it once the program has
made all the reads it can, where it gets by reading on (`Reading.run_reads`). A program
that reads one message after the other puts out the messages that a reader of messages
finds on the whole stream (`ReadProgram.rounds_readAll`).
-/

/-- A program that reads: the number of bytes each of its reads is for, if it still reads, and
the handlers of a read that got its bytes and of one that the end of the stream cut short. -/
structure ReadProgram (Control Byte Output : Type*) where
  demand : Control → Option Nat
  completed : Control → List Byte → Control × List Output
  cutShort : Control → List Byte → Control × List Output

/-- A program at work: what its current read got, the bytes that have arrived and were not
taken off, and whether the stream has ended. All bytes that have arrived and all that
was put out are kept. -/
structure Reading (Control Byte Output : Type*) where
  control : Control
  got : List Byte
  queue : List Byte
  closed : Bool
  arrived : List Byte
  outputs : List Output
  deriving DecidableEq

inductive ReadEvent (Byte : Type*) where
  /-- Some bytes arrive. -/
  | arrive (bytes : List Byte)
  /-- The stream ends. -/
  | close
  /-- The current read takes some bytes off the stream. -/
  | transfer (count : Nat)
  /-- The handler of the current read runs. -/
  | finish
  deriving DecidableEq

namespace ReadProgram

variable {Control Byte Output : Type*} (program : ReadProgram Control Byte Output)

/-! ### Reads on a whole stream -/

/-- The next read on all bytes that a stream still has. -/
def round (closed : Bool) (control : Control) (stream : List Byte) :
    Option ((Control × List Output) × List Byte) :=
  match program.demand control with
  | none => none
  | some nbytes =>
      if nbytes ≤ stream.length then
        some (program.completed control (stream.take nbytes), stream.drop nbytes)
      else if closed then some (program.cutShort control stream, [])
      else none

/-- A number of reads one after the other: the state they lead to, what they put out, and
the bytes they leave. -/
def rounds (closed : Bool) : Nat → Control → List Byte →
    Option ((Control × List Output) × List Byte)
  | 0, control, stream => some ((control, []), stream)
  | count + 1, control, stream =>
      (rounds closed count control stream).bind fun before =>
        (program.round closed before.1.1 before.2).map fun after =>
          ((after.1.1, before.1.2 ++ after.1.2), after.2)

variable {program} {closed : Bool} {start control : Control} {stream rest : List Byte}
  {outputs : List Output} {count : Nat}

theorem rounds_zero : program.rounds closed 0 control stream = some ((control, []), stream) := rfl

/-- One more read. -/
theorem rounds_succ {after : (Control × List Output) × List Byte}
    (before : program.rounds closed count start stream = some ((control, outputs), rest))
    (next : program.round closed control rest = some after) :
    program.rounds closed (count + 1) start stream =
      some ((after.1.1, outputs ++ after.1.2), after.2) := by
  rw [rounds, before, Option.bind_some, next]
  rfl

theorem rounds_one {after : (Control × List Output) × List Byte}
    (next : program.round closed start stream = some after) :
    program.rounds closed 1 start stream = some after :=
  rounds_succ rounds_zero next

/-- A read whose handler only starts the next one. -/
theorem rounds_two {after : (Control × List Output) × List Byte}
    (first : program.round closed start stream = some ((control, []), rest))
    (second : program.round closed control rest = some after) :
    program.rounds closed 2 start stream = some after :=
  rounds_succ (rounds_one first) second

/-- Reads after other reads. -/
theorem rounds_add (first : program.rounds closed count start stream =
      some ((control, outputs), rest)) (more : Nat) :
    program.rounds closed (count + more) start stream =
      (program.rounds closed more control rest).map fun after =>
        ((after.1.1, outputs ++ after.1.2), after.2) := by
  induction more with
  | zero => simp [rounds, first]
  | succ more ih =>
      rw [← Nat.add_assoc, rounds, ih, rounds]
      cases program.rounds closed more control rest with
      | none => rfl
      | some after =>
          simp only [Option.map_some, Option.bind_some, Option.map_map, Function.comp_def,
            List.append_assoc]

theorem rounds_of_stuck (stuck : program.round closed control rest = none) (more : Nat) :
    program.rounds closed (more + 1) control rest = none := by
  induction more with
  | zero => simp [rounds, stuck]
  | succ more ih =>
      rw [rounds, ih]
      rfl

/-- A program that can read no more has made all the reads there are. -/
theorem count_le_of_stuck
    (all : program.rounds closed count start stream = some ((control, outputs), rest))
    (stuck : program.round closed control rest = none) {fewer : Nat}
    {after : (Control × List Output) × List Byte}
    (made : program.rounds closed fewer start stream = some after) : fewer ≤ count := by
  by_contra more
  obtain ⟨extra, rfl⟩ := Nat.exists_eq_add_of_lt (Nat.lt_of_not_le more)
  rw [Nat.add_assoc, rounds_add all, rounds_of_stuck stuck] at made
  cases made

/-- What some reads put out is the beginning of what all of them put out, and the rest of
them is made from where they lead to. -/
theorem rounds_of_stuck_of_le {last : Control} {whole : List Output} {left : List Byte} {all : Nat}
    (made : program.rounds closed count start stream = some ((control, outputs), rest))
    (complete : program.rounds closed all start stream = some ((last, whole), left))
    (stuck : program.round closed last left = none) :
    ∃ more later, program.rounds closed more control rest = some ((last, later), left) ∧
      whole = outputs ++ later := by
  obtain ⟨more, rfl⟩ := Nat.exists_eq_add_of_le (count_le_of_stuck complete stuck made)
  rw [rounds_add made, Option.map_eq_some_iff] at complete
  obtain ⟨⟨⟨reached, later⟩, remaining⟩, there, same⟩ := complete
  cases same
  exact ⟨more, later, there, rfl⟩

/-- A read on a stream that has not ended is the same when more bytes follow. -/
theorem round_append {after : (Control × List Output) × List Byte}
    (made : program.round false control stream = some after) (ended : Bool) (more : List Byte) :
    program.round ended control (stream ++ more) = some (after.1, after.2 ++ more) := by
  unfold round at made ⊢
  cases demanded : program.demand control with
  | none =>
      rw [demanded] at made
      cases made
  | some nbytes =>
      simp only [demanded] at made ⊢
      split at made
      · rename_i enough
        cases made
        have still : nbytes ≤ (stream ++ more).length := by
          rw [List.length_append]
          exact Nat.le_add_right_of_le enough
        rw [if_pos still, List.take_append_of_le_length enough,
          List.drop_append_of_le_length enough]
      · cases made

theorem rounds_append {after : (Control × List Output) × List Byte}
    (made : program.rounds false count start stream = some after) (ended : Bool)
    (more : List Byte) :
    program.rounds ended count start (stream ++ more) = some (after.1, after.2 ++ more) := by
  induction count generalizing after with
  | zero =>
      cases made
      rfl
  | succ count ih =>
      obtain ⟨before, earlier, last⟩ := Option.bind_eq_some_iff.mp made
      obtain ⟨next, taken, same⟩ := Option.map_eq_some_iff.mp last
      cases same
      exact rounds_succ (ih earlier) (round_append taken ended more)

/-- **A program that reads messages.** If its reads for one message are those of a reader, and
it stops where the reader finds none, it puts out every message of the stream and what is
to be put out at the end. -/
theorem rounds_readAll {Message : Type*} {reader : MessageStream.ConsumingReader Byte Message}
    {deliver : Message → Output} {atEnd : List Byte → List Output}
    (found : ∀ {stream message rest}, reader.read stream = some (message, rest) →
      ∃ count, program.rounds closed count start stream = some ((start, [deliver message]), rest))
    (missing : ∀ {stream}, reader.read stream = none → ∃ count last left,
      program.rounds closed count start stream = some ((last, atEnd stream), left) ∧
        program.round closed last left = none) (stream : List Byte) :
    ∃ count last left,
      program.rounds closed count start stream =
        some ((last, (MessageStream.readAll reader stream).1.map deliver ++
          atEnd (MessageStream.readAll reader stream).2), left) ∧
      program.round closed last left = none := by
  induction hlen : stream.length using Nat.strongRecOn generalizing stream with
  | ind length ih =>
      subst hlen
      cases front : reader.read stream with
      | none =>
          rw [MessageStream.readAll_of_none front]
          exact missing front
      | some taken =>
          obtain ⟨message, rest⟩ := taken
          obtain ⟨count, first⟩ := found front
          obtain ⟨more, last, left, others, stuck⟩ := ih _ (reader.shorter front) rest rfl
          refine ⟨count + more, last, left, ?_, stuck⟩
          rw [rounds_add first, others, MessageStream.readAll_of_some front]
          rfl

end ReadProgram

namespace Reading

variable {Control Byte Output : Type*} (program : ReadProgram Control Byte Output)

/-! ### The machine -/

/-- Nothing has arrived. -/
def initial (control : Control) : Reading Control Byte Output :=
  { control, got := [], queue := [], closed := false, arrived := [], outputs := [] }

/-- The handler of the current read has run. -/
def finished (state : Reading Control Byte Output) (after : Control × List Output) :
    Reading Control Byte Output :=
  { state with control := after.1, got := [], outputs := state.outputs ++ after.2 }

/-- A read of no bytes is complete at once, and one that has all its bytes does not care
whether the stream has ended. -/
def step (state : Reading Control Byte Output) :
    ReadEvent Byte → Option (Reading Control Byte Output)
  | .arrive bytes =>
      if state.closed then none
      else some { state with queue := state.queue ++ bytes, arrived := state.arrived ++ bytes }
  | .close => if state.closed then none else some { state with closed := true }
  | .transfer count =>
      match program.demand state.control with
      | none => none
      | some nbytes =>
          let moved := min count (nbytes - state.got.length)
          some { state with
            got := state.got ++ state.queue.take moved
            queue := state.queue.drop moved }
  | .finish =>
      match program.demand state.control with
      | none => none
      | some nbytes =>
          if state.got.length = nbytes then
            some (state.finished (program.completed state.control state.got))
          else if state.closed && state.queue.isEmpty then
            some (state.finished (program.cutShort state.control state.got))
          else none

/-- The program has made all reads it can: it reads no more, or its current read waits for
bytes that have not arrived. -/
def Quiet (state : Reading Control Byte Output) : Prop :=
  ∀ nbytes, program.demand state.control = some nbytes →
    state.got.length + state.queue.length < nbytes ∧ state.closed = false

/-- The program reads on: nothing arrives and the stream does not end. -/
inductive ReadsOn (state : Reading Control Byte Output) : ReadEvent Byte → Prop where
  | transfer (count : Nat) : ReadsOn state (.transfer count)
  | finish : ReadsOn state .finish

variable {program} {start : Control} {state next : Reading Control Byte Output}
  {events : List (ReadEvent Byte)}

/-! ### Runs -/

/-- The reads of the program were made on the bytes that have arrived: the finished ones
left what the current one got and what is still there. -/
structure Made (program : ReadProgram Control Byte Output) (start : Control)
    (state : Reading Control Byte Output) : Prop where
  rounds : ∃ count, program.rounds state.closed count start state.arrived =
    some ((state.control, state.outputs), state.got ++ state.queue)
  within : ∀ nbytes, program.demand state.control = some nbytes → state.got.length ≤ nbytes

/-- The next read, seen on all the bytes that are there, is the handler of the current one. -/
theorem round_of_finish (taken : step program state .finish = some next)
    (within : ∀ nbytes, program.demand state.control = some nbytes → state.got.length ≤ nbytes) :
    ∃ after, program.round state.closed state.control (state.got ++ state.queue) =
      some (after, state.queue) ∧ next = state.finished after := by
  unfold step at taken
  unfold ReadProgram.round
  cases demanded : program.demand state.control with
  | none =>
      rw [demanded] at taken
      cases taken
  | some nbytes =>
      simp only [demanded] at taken ⊢
      by_cases whole : state.got.length = nbytes
      · rw [if_pos whole] at taken
        cases taken
        have enough : nbytes ≤ (state.got ++ state.queue).length := by
          rw [List.length_append, whole]
          exact Nat.le_add_right _ _
        rw [if_pos enough, List.take_left' whole, List.drop_left' whole]
        exact ⟨_, rfl, rfl⟩
      · rw [if_neg whole] at taken
        split at taken
        · rename_i ended
          cases taken
          rw [Bool.and_eq_true, List.isEmpty_iff] at ended
          have short : ¬ nbytes ≤ state.got.length := by
            have := within nbytes demanded
            omega
          rw [ended.2, List.append_nil, if_neg short, if_pos ended.1]
          exact ⟨_, rfl, rfl⟩
        · cases taken

theorem Made.step (made : Made program start state) {event : ReadEvent Byte}
    (taken : Reading.step program state event = some next) : Made program start next := by
  obtain ⟨⟨count, rounds⟩, within⟩ := made
  cases event with
  | arrive bytes =>
      simp only [Reading.step] at taken
      split at taken
      · cases taken
      · rename_i ended
        cases taken
        rw [Bool.not_eq_true] at ended
        rw [ended] at rounds
        refine ⟨⟨count, ?_⟩, within⟩
        dsimp only
        rw [ReadProgram.rounds_append rounds, List.append_assoc]
  | close =>
      simp only [Reading.step] at taken
      split at taken
      · cases taken
      · rename_i ended
        cases taken
        rw [Bool.not_eq_true] at ended
        rw [ended] at rounds
        have same := ReadProgram.rounds_append rounds true []
        rw [List.append_nil, List.append_nil] at same
        exact ⟨⟨count, same⟩, within⟩
  | transfer amount =>
      simp only [Reading.step] at taken
      split at taken
      · cases taken
      · rename_i nbytes demanded
        cases taken
        refine ⟨⟨count, ?_⟩, ?_⟩
        · dsimp only
          rw [List.append_assoc, List.take_append_drop]
          exact rounds
        · intro other same
          dsimp only at same ⊢
          rw [demanded] at same
          cases same
          have before := within nbytes demanded
          rw [List.length_append, List.length_take]
          omega
  | finish =>
      obtain ⟨after, read, rfl⟩ := round_of_finish taken within
      exact ⟨⟨count + 1, ReadProgram.rounds_succ rounds read⟩, fun _ _ => Nat.zero_le _⟩

theorem made_initial : Made program start (initial start) :=
  ⟨⟨0, rfl⟩, fun _ _ => Nat.zero_le _⟩

theorem run_made (run : Run (step program) (initial start) events state) :
    Made program start state :=
  run.invariant (Made program start) made_initial fun _ _ _ before _ taken => before.step taken

/-! ### What is put out -/

theorem quiet_iff : Quiet program state ↔
    program.round state.closed state.control (state.got ++ state.queue) = none := by
  unfold Quiet ReadProgram.round
  cases demanded : program.demand state.control with
  | none => simp
  | some nbytes =>
      by_cases enough : nbytes ≤ (state.got ++ state.queue).length
      · rw [List.length_append] at enough
        simp [enough, Nat.not_lt.mpr enough]
      · rw [List.length_append] at enough
        cases closed : state.closed
        · simp only [List.length_append, if_neg enough]
          simpa using Nat.lt_of_not_le enough
        · simp [enough]

/-- The current read takes all that it can off the bytes that are there. -/
theorem transfer_all {nbytes : Nat} (demanded : program.demand state.control = some nbytes)
    (within : state.got.length ≤ nbytes) :
    step program state (.transfer state.queue.length) = some { state with
      got := (state.got ++ state.queue).take nbytes
      queue := (state.got ++ state.queue).drop nbytes } := by
  have moved : state.queue.take (min state.queue.length (nbytes - state.got.length)) =
        state.queue.take (nbytes - state.got.length) ∧
      state.queue.drop (min state.queue.length (nbytes - state.got.length)) =
        state.queue.drop (nbytes - state.got.length) := by
    rcases Nat.le_total state.queue.length (nbytes - state.got.length) with all | some
    · rw [Nat.min_eq_left all, List.take_of_length_le all, List.drop_of_length_le all,
        List.take_length, List.drop_length]
      exact ⟨rfl, rfl⟩
    · rw [Nat.min_eq_right some]
      exact ⟨rfl, rfl⟩
  rw [step, demanded]
  dsimp only
  rw [moved.1, moved.2, List.take_append, List.drop_append, List.take_of_length_le within,
    List.drop_of_length_le within, List.nil_append]

/-- A read that can be completed on the bytes that are there is completed by taking them
off and running its handler. -/
theorem reads_round (within : ∀ nbytes, program.demand state.control = some nbytes →
      state.got.length ≤ nbytes) {after : (Control × List Output) × List Byte}
    (read : program.round state.closed state.control (state.got ++ state.queue) = some after) :
    ∃ events, RunWithin ReadsOn (step program) state events
      { state with
        control := after.1.1, got := [], queue := after.2
        outputs := state.outputs ++ after.1.2 } := by
  unfold ReadProgram.round at read
  cases demanded : program.demand state.control with
  | none =>
      rw [demanded] at read
      cases read
  | some nbytes =>
      have transferred := transfer_all demanded (within nbytes demanded)
      refine ⟨_, .snoc (.snoc .nil (.transfer _) transferred) .finish ?_⟩
      simp only [demanded] at read
      rw [step, demanded]
      dsimp only
      split at read
      · rename_i enough
        cases read
        rw [if_pos (List.length_take_of_le enough)]
        rfl
      · rename_i short
        split at read
        · rename_i ended
          cases read
          have all := Nat.le_of_lt (Nat.lt_of_not_le short)
          have fewer : ¬ (state.got ++ state.queue).length = nbytes :=
            fun same => short (Nat.le_of_eq same.symm)
          rw [List.take_of_length_le all, List.drop_of_length_le all, if_neg fewer, ended]
          rfl
        · cases read

/-- Reads that can be made on the bytes that are there are made by reading on. -/
theorem reads_rounds {count : Nat} (within : ∀ nbytes, program.demand state.control = some nbytes →
      state.got.length ≤ nbytes) {after : (Control × List Output) × List Byte}
    (read : program.rounds state.closed count state.control (state.got ++ state.queue) =
      some after) :
    ∃ events next, RunWithin ReadsOn (step program) state events next ∧
      next.closed = state.closed ∧ next.control = after.1.1 ∧
      next.outputs = state.outputs ++ after.1.2 ∧ next.got ++ next.queue = after.2 ∧
      ∀ nbytes, program.demand next.control = some nbytes → next.got.length ≤ nbytes := by
  induction count generalizing after with
  | zero =>
      cases read
      exact ⟨[], state, .nil, rfl, rfl, (List.append_nil _).symm, rfl, within⟩
  | succ count ih =>
      obtain ⟨before, earlier, last⟩ := Option.bind_eq_some_iff.mp read
      obtain ⟨after, taken, same⟩ := Option.map_eq_some_iff.mp last
      cases same
      obtain ⟨events, middle, run, closed, control, outputs, bytes, kept⟩ := ih earlier
      rw [← closed, ← control, ← bytes] at taken
      obtain ⟨more, run'⟩ := reads_round kept taken
      refine ⟨_, _, run.append run', closed, rfl, ?_, rfl, fun _ _ => Nat.zero_le _⟩
      dsimp only
      rw [outputs, List.append_assoc]

/-- **How the bytes arrive does not matter.** What the handlers put out is the beginning of
what all reads on the bytes that have arrived put out. It is all of that as soon as
the program has made all the reads it can, and reading on gets it there. -/
theorem run_reads (run : Run (step program) (initial start) events state) {all : Nat}
    {last : Control} {whole : List Output} {left : List Byte}
    (complete : program.rounds state.closed all start state.arrived = some ((last, whole), left))
    (stuck : program.round state.closed last left = none) :
    state.outputs <+: whole ∧ (Quiet program state → state.outputs = whole) ∧
      ∃ more next, RunWithin ReadsOn (step program) state more next ∧ Quiet program next ∧
        next.outputs = whole := by
  obtain ⟨⟨count, rounds⟩, within⟩ := run_made run
  obtain ⟨more, later, rest, rfl⟩ := ReadProgram.rounds_of_stuck_of_le rounds complete stuck
  refine ⟨List.prefix_append _ _, ?_, ?_⟩
  · intro quiet
    cases more with
    | zero =>
        cases rest
        exact (List.append_nil _).symm
    | succ more =>
        rw [ReadProgram.rounds_of_stuck (quiet_iff.mp quiet)] at rest
        cases rest
  · obtain ⟨events, next, onward, closed, control, outputs, bytes, _⟩ := reads_rounds within rest
    refine ⟨events, next, onward, ?_, outputs⟩
    rw [quiet_iff, closed, control, bytes]
    exact stuck

end Reading
