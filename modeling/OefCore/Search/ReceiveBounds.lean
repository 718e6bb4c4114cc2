import OefCore.Search.Framing

/-! # The buffer of a received message

`receive_` takes two lengths from the connection. It allocates and fills a buffer of
their sum, computed in 32 bits, and cuts two slices out of it, whose ends are
computed with pointers and do not wrap (`OefCore.OefSearchClient.accesses`).

The buffer has the announced size and both slices stay within it exactly when the sum
of the lengths fits in 32 bits (`OefCore.OefSearchClient.withinBuffer_iff`).
-/

namespace OefCore

namespace OefSearchClient

/-- What one round of `receive_` does to memory once it knows the lengths: the bytes
it allocates, those it asks `receive_sync` for, and the offsets at which the slices
for the header and for the payload begin and end. -/
structure Accesses where
  allocated : Nat
  filled : Nat
  header : Nat × Nat
  payload : Nat × Nat
  deriving DecidableEq, Repr

def accesses (headerSize payloadSize : UInt32) : Accesses where
  allocated := (headerSize + payloadSize).toNat
  filled := (headerSize + payloadSize).toNat
  header := (0, headerSize.toNat)
  payload := (headerSize.toNat, headerSize.toNat + payloadSize.toNat)

/-- The first length, as it is read from the prefix of a message. -/
def headerSize (host : ByteOrder) (sizes : Buffer) : UInt32 :=
  ByteOrder.ntohl host (ByteOrder.load host sizes)

/-- The second length. -/
def payloadSize (host : ByteOrder) (sizes : Buffer) : UInt32 :=
  ByteOrder.ntohl host (ByteOrder.load host (sizes.drop 4))

/-- The sum of the two lengths, as a natural number. -/
def announced (host : ByteOrder) (sizes : Buffer) : Nat :=
  (headerSize host sizes).toNat + (payloadSize host sizes).toNat

/-- After a prefix the buffer has the announced size, both slices lie within it, and
so a round never leaves it and takes exactly the announced bytes off the connection. -/
structure WithinBuffer (host : ByteOrder) (sizes : Buffer) : Prop where
  allocated : (accesses (headerSize host sizes) (payloadSize host sizes)).allocated =
    announced host sizes
  filled : (accesses (headerSize host sizes) (payloadSize host sizes)).filled =
    announced host sizes
  header : (accesses (headerSize host sizes) (payloadSize host sizes)).header.2 ≤
    (accesses (headerSize host sizes) (payloadSize host sizes)).allocated
  payload : (accesses (headerSize host sizes) (payloadSize host sizes)).payload.2 ≤
    (accesses (headerSize host sizes) (payloadSize host sizes)).allocated
  round : ∀ parse rest, (receive host parse (sizes ++ rest)).1 ≠ .outOfBounds
  consumed : ∀ parse rest, announced host sizes ≤ rest.length →
    (receive host parse (sizes ++ rest)).2 = rest.drop (announced host sizes)

variable {host : ByteOrder} {sizes : Buffer}

/-- A round that has the prefix, in terms of what it does to memory. -/
theorem receive_accesses (whole : sizes.length = 8) (parse : ParseFromArray TransportHeader)
    (rest : Buffer) : receive host parse (sizes ++ rest) =
      let memory := accesses (headerSize host sizes) (payloadSize host sizes)
      let data := rest.take memory.filled
      if data.length < memory.filled then (.discarded, [])
      else if data.length < memory.payload.2 then (.outOfBounds, rest.drop memory.filled)
      else
        let parsed := parse (data.take memory.header.2)
        if !parsed.1 then (.discarded, rest.drop memory.filled)
        else if payloadSize host sizes == 0 then
          (.message parsed.2 none, rest.drop memory.filled)
        else
          (.message parsed.2 (some ((data.drop memory.payload.1).take
            (payloadSize host sizes).toNat)), rest.drop memory.filled) := by
  have taken : (sizes ++ rest).take 8 = sizes := List.take_left' whole
  have dropped : (sizes ++ rest).drop 8 = rest := List.drop_left' whole
  simp only [receive, taken, dropped, whole, Nat.lt_irrefl, ↓reduceIte]
  rfl

/-- The sum of the lengths in 32 bits is the announced one when that fits. -/
theorem filled_eq_announced_iff :
    (accesses (headerSize host sizes) (payloadSize host sizes)).filled = announced host sizes ↔
      announced host sizes < 2 ^ 32 := by
  change (headerSize host sizes + payloadSize host sizes).toNat = announced host sizes ↔ _
  rw [UInt32.toNat_add, ← announced]
  constructor
  · intro same
    rw [← same]
    exact Nat.mod_lt _ (by decide)
  · exact Nat.mod_eq_of_lt

/-- **Received lengths stay within the buffer** exactly when they add up to less than
2^32. -/
theorem withinBuffer_iff (host : ByteOrder) (sizes : Buffer) (whole : sizes.length = 8) :
    WithinBuffer host sizes ↔ announced host sizes < 2 ^ 32 := by
  constructor
  · intro within
    exact filled_eq_announced_iff.mp within.filled
  · intro small
    have filled := filled_eq_announced_iff.mpr small
    have ends : (accesses (headerSize host sizes) (payloadSize host sizes)).payload.2 =
        (accesses (headerSize host sizes) (payloadSize host sizes)).filled := filled.symm
    refine ⟨filled, filled, ?_, Nat.le_of_eq ends, fun parse rest => ?_,
      fun parse rest enough => ?_⟩
    · apply Nat.le_trans (Nat.le_add_right _ (payloadSize host sizes).toNat)
      exact Nat.le_of_eq ends
    · rw [receive_accesses whole]
      dsimp only
      rw [ends]
      split
      · exact nofun
      · split
        · exact nofun
        · split <;> exact nofun
    · have whole' : (rest.take (announced host sizes)).length = announced host sizes := by
        rw [List.length_take, Nat.min_eq_left enough]
      rw [receive_accesses whole]
      dsimp only
      rw [ends, filled, whole', if_neg (Nat.lt_irrefl _), if_neg (Nat.lt_irrefl _)]
      split
      · rfl
      · split <;> rfl

theorem withinBuffer_iff_small : WithinBuffer .little [0, 0, 0, 2, 0, 0, 0, 3] ↔
    announced .little [0, 0, 0, 2, 0, 0, 0, 3] < 2 ^ 32 :=
  withinBuffer_iff .little [0, 0, 0, 2, 0, 0, 0, 3] rfl

/-- The lengths 2^32 - 1 and 1: the buffer is empty, nothing is read, and the slices
of the round are outside of it. -/
theorem wrapped_outOfBounds :
    accesses (headerSize .little [255, 255, 255, 255, 0, 0, 0, 1])
        (payloadSize .little [255, 255, 255, 255, 0, 0, 0, 1]) =
      { allocated := 0, filled := 0, header := (0, 4294967295),
        payload := (4294967295, 4294967296) } ∧
    (∀ parse rest, (receive .little parse ([255, 255, 255, 255, 0, 0, 0, 1] ++ rest)).1 =
      .outOfBounds) ∧ ¬ WithinBuffer .little [255, 255, 255, 255, 0, 0, 0, 1] := by
  have memory : accesses (headerSize .little [255, 255, 255, 255, 0, 0, 0, 1])
      (payloadSize .little [255, 255, 255, 255, 0, 0, 0, 1]) =
        { allocated := 0, filled := 0, header := (0, 4294967295),
          payload := (4294967295, 4294967296) } := by decide
  refine ⟨memory, fun parse rest => ?_, fun within => ?_⟩
  · rw [receive_accesses rfl, memory]
    rfl
  · have inside := within.payload
    rw [memory] at inside
    exact absurd inside (by decide)

end OefSearchClient

end OefCore
