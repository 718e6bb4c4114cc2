import Mathlib.Algebra.Ring.Nat
import Mathlib.Data.List.Basic

/-! # Words in memory

A 32-bit word is four bytes in memory, in the order of the host. Network order
is big-endian on every host: a word converted with `ByteOrder.htonl` and stored
in host order is in network order (`ByteOrder.store_htonl`), and a word in
network order loaded in host order and converted with `ByteOrder.ntohl` is the
word that was stored (`ByteOrder.ntohl_load`).
-/

/-- The byte order of a host. -/
inductive ByteOrder where
  | little
  | big
  deriving DecidableEq, Repr

namespace ByteOrder

/-- The byte of a word at a weight. -/
def byte (word : UInt32) (weight : Nat) : UInt8 := UInt8.ofNat (word.toNat / weight)

/-- The four bytes of a word in memory. -/
def store : ByteOrder → UInt32 → List UInt8
  | .little, word => [byte word 1, byte word 256, byte word 65536, byte word 16777216]
  | .big, word => [byte word 16777216, byte word 65536, byte word 256, byte word 1]

/-- The word in the first four bytes of a region of memory. -/
def load : ByteOrder → List UInt8 → UInt32
  | .little, bytes => UInt32.ofNat ((bytes.getD 0 0).toNat + (bytes.getD 1 0).toNat * 256 +
      (bytes.getD 2 0).toNat * 65536 + (bytes.getD 3 0).toNat * 16777216)
  | .big, bytes => UInt32.ofNat ((bytes.getD 3 0).toNat + (bytes.getD 2 0).toNat * 256 +
      (bytes.getD 1 0).toNat * 65536 + (bytes.getD 0 0).toNat * 16777216)

/-- Reversing the bytes of a word. -/
def swap (word : UInt32) : UInt32 := load .big (store .little word)

/-- Host to network order. -/
def htonl : ByteOrder → UInt32 → UInt32
  | .little, word => swap word
  | .big, word => word

/-- Network to host order. -/
def ntohl : ByteOrder → UInt32 → UInt32
  | .little, word => swap word
  | .big, word => word

@[simp] theorem store_length (order : ByteOrder) (word : UInt32) :
    (store order word).length = 4 := by
  cases order <;> rfl

theorem byte_toNat (word : UInt32) (weight : Nat) :
    (byte word weight).toNat = word.toNat / weight % 256 := by
  rw [byte, UInt8.toNat_ofNat']

/-- Loading a stored word, whatever follows it in memory. -/
@[simp] theorem load_store (order : ByteOrder) (word : UInt32) (rest : List UInt8) :
    load order (store order word ++ rest) = word := by
  have bounded : word.toNat < 2 ^ 32 := word.toNat_lt
  apply UInt32.toNat_inj.mp
  cases order <;>
    simp only [load, store, List.cons_append, List.getD_cons_zero, List.getD_cons_succ,
      byte_toNat, UInt32.toNat_ofNat'] <;>
    omega

theorem swap_toNat (word : UInt32) :
    (swap word).toNat = word.toNat / 16777216 % 256 + word.toNat / 65536 % 256 * 256 +
      word.toNat / 256 % 256 * 65536 + word.toNat / 1 % 256 * 16777216 := by
  simp only [swap, load, store, List.getD_cons_zero, List.getD_cons_succ, byte_toNat,
    UInt32.toNat_ofNat']
  omega

private theorem digits {a b c d : Nat} (first : a < 256) (second : b < 256) (third : c < 256)
    (fourth : d < 256) :
    (a + b * 256 + c * 65536 + d * 16777216) / 1 % 256 = a ∧
      (a + b * 256 + c * 65536 + d * 16777216) / 256 % 256 = b ∧
      (a + b * 256 + c * 65536 + d * 16777216) / 65536 % 256 = c ∧
      (a + b * 256 + c * 65536 + d * 16777216) / 16777216 % 256 = d := by
  omega

/-- The stored bytes of a swapped word come in the opposite order. -/
theorem store_swap (word : UInt32) : store .little (swap word) = store .big word := by
  have below : ∀ weight, word.toNat / weight % 256 < 256 :=
    fun weight => Nat.mod_lt _ (by omega)
  have swapped := digits (below 16777216) (below 65536) (below 256) (below 1)
  rw [← swap_toNat] at swapped
  obtain ⟨first, second, third, fourth⟩ := swapped
  have byteEq : ∀ {weight opposite}, (swap word).toNat / weight % 256 =
      word.toNat / opposite % 256 → byte (swap word) weight = byte word opposite := by
    intro weight opposite same
    apply UInt8.toNat_inj.mp
    rw [byte_toNat, byte_toNat, same]
  simp only [store, byteEq first, byteEq second, byteEq third, byteEq fourth]

theorem swap_swap (word : UInt32) : swap (swap word) = word := by
  rw [swap, store_swap, ← List.append_nil (store .big word), load_store]

/-- A word converted to network order is stored in network order on any host. -/
theorem store_htonl (order : ByteOrder) (word : UInt32) :
    store order (htonl order word) = store .big word := by
  cases order with
  | big => rfl
  | little => exact store_swap word

/-- A word in network order, loaded and converted on any host. -/
theorem ntohl_load (order : ByteOrder) (word : UInt32) (rest : List UInt8) :
    ntohl order (load order (store .big word ++ rest)) = word := by
  cases order with
  | big => exact load_store .big word rest
  | little => rw [← store_swap, load_store, ntohl, swap_swap]

/-- A word put together from four bytes has them at its weights. -/
private theorem byte_ofNat (a b c d : UInt8) :
    let word := UInt32.ofNat (a.toNat + b.toNat * 256 + c.toNat * 65536 + d.toNat * 16777216)
    byte word 1 = a ∧ byte word 256 = b ∧ byte word 65536 = c ∧ byte word 16777216 = d := by
  intro word
  have total : word.toNat =
      a.toNat + b.toNat * 256 + c.toNat * 65536 + d.toNat * 16777216 := by
    have := a.toNat_lt
    have := b.toNat_lt
    have := c.toNat_lt
    have := d.toNat_lt
    rw [UInt32.toNat_ofNat', Nat.mod_eq_of_lt (by omega)]
  obtain ⟨first, second, third, fourth⟩ := digits a.toNat_lt b.toNat_lt c.toNat_lt d.toNat_lt
  rw [← total] at first second third fourth
  refine ⟨?_, ?_, ?_, ?_⟩ <;> apply UInt8.toNat_inj.mp <;> rw [byte_toNat] <;> assumption

/-- The word that was loaded from four bytes is stored as these bytes. -/
theorem store_load (order : ByteOrder) {bytes : List UInt8} (enough : 4 ≤ bytes.length) :
    store order (load order bytes) = bytes.take 4 := by
  rcases bytes with _ | ⟨a, _ | ⟨b, _ | ⟨c, _ | ⟨d, rest⟩⟩⟩⟩
  case cons.cons.cons.cons =>
    cases order with
    | little =>
        obtain ⟨first, second, third, fourth⟩ := byte_ofNat a b c d
        simp only [store, load, List.getD_cons_zero, List.getD_cons_succ, first, second, third,
          fourth, List.take_succ_cons, List.take_zero]
    | big =>
        obtain ⟨first, second, third, fourth⟩ := byte_ofNat d c b a
        simp only [store, load, List.getD_cons_zero, List.getD_cons_succ, first, second, third,
          fourth, List.take_succ_cons, List.take_zero]
  all_goals
    simp only [List.length_cons, List.length_nil] at enough
    omega

/-- The same for a word that is loaded in network order. -/
theorem store_ntohl_load (order : ByteOrder) {bytes : List UInt8} (enough : 4 ≤ bytes.length) :
    store .big (ntohl order (load order bytes)) = bytes.take 4 := by
  cases order with
  | big => exact store_load .big enough
  | little => rw [ntohl, ← store_swap, swap_swap, store_load .little enough]

end ByteOrder
