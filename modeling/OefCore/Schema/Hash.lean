import Mathlib.Data.List.AList
import OefCore.Schema.InstanceEquality

/-! # Hashing instances

`Instance::hash` folds over the values in the order in which the map is iterated. Every
value shifts what was hashed before it by three bits. The hash functions of the elements
are those of the standard library, and parameters here.

Two bits of every position tell the order apart, one of the key and one of the value, as
long as they are not shifted out of the 64 bits. Instances with the same model name and
the same values therefore have the same hash, for all choices of the element hashes,
exactly when their iterations end alike (`OefCore.Instance.hash_compatible_iff`).
-/

namespace OefCore

variable {Double : Type}

/-- The instances of `std::hash` for the elements of an instance. A `size_t` has 64
bits. -/
structure Hashes (Double : Type) where
  string : String → BitVec 64
  int : Int32 → BitVec 64
  double : Double → BitVec 64
  bool : Bool → BitVec 64

namespace Instance

/-- The match on a value in the loop of `hash`. -/
def hashValue (hashes : Hashes Double) : VariantType Double → BitVec 64
  | .int i => hashes.int i
  | .double d => hashes.double d
  | .string s => hashes.string s
  | .location l =>
      let h1 := hashes.double l.lon
      h1 ^^^ (hashes.double l.lat <<< 1)
  | .bool b => hashes.bool b

/-- One round of the loop of `hash`. -/
def hashEntry (hashes : Hashes Double) (h : BitVec 64) (p : Σ _ : String, VariantType Double) :
    BitVec 64 :=
  let hs := hashes.string p.1
  let h := hs ^^^ (h <<< 1)
  let hs := hashValue hashes p.2
  hs ^^^ (h <<< 2)

/-- `hash`, which is also what `std::hash` of an instance returns. -/
def hash (hashes : Hashes Double) (self : Instance Double) : BitVec 64 :=
  self.values.entries.foldl (hashEntry hashes) (hashes.string self.model.name)

/-- The part of a value that its hash does not shift: the longitude of a location. -/
def unshifted : VariantType Double → VariantType Double
  | .location l => .double l.lon
  | v => v

/-- Two lists of entries, read from their ends, agree in some entries and in the
unshifted part of the value after those. -/
def AgreeIn (count : Nat) (first second : List (Σ _ : String, VariantType Double)) : Prop :=
  first.take count = second.take count ∧
    (first[count]?.map fun p => unshifted p.2) = second[count]?.map fun p => unshifted p.2

/-- The iterations of two instances end alike, as far as 64 bits reach. -/
def EndAlike (a b : Instance Double) : Prop :=
  AgreeIn 21 a.values.entries.reverse b.values.entries.reverse

/-! ### Bits of the hash -/

/-- A round in terms of bits: those of the value, those of the key two bits above, and
those of the hash so far three bits above. -/
theorem getLsbD_hashEntry (hashes : Hashes Double) (h : BitVec 64)
    (p : Σ _ : String, VariantType Double) (bit : Nat) (small : bit < 64) :
    (hashEntry hashes h p).getLsbD bit =
      ((hashValue hashes p.2).getLsbD bit ^^
        ((decide (2 ≤ bit) && (hashes.string p.1).getLsbD (bit - 2)) ^^
          (decide (3 ≤ bit) && h.getLsbD (bit - 3)))) := by
  simp only [hashEntry, BitVec.getLsbD_xor, BitVec.getLsbD_shiftLeft, small, decide_true,
    Bool.true_and]
  by_cases two : bit < 2
  · have notThree : ¬ 3 ≤ bit := by omega
    have notTwo : ¬ 2 ≤ bit := by omega
    simp [two, notTwo, notThree]
  · have atLeastTwo : 2 ≤ bit := by omega
    have inside : bit - 2 < 64 := by omega
    have back : bit - 2 - 1 = bit - 3 := by omega
    by_cases three : 3 ≤ bit
    · have notFirst : ¬ bit - 2 < 1 := by omega
      simp [two, atLeastTwo, inside, three, notFirst, back]
    · have isFirst : bit - 2 < 1 := by omega
      simp [two, atLeastTwo, three, isFirst]

/-- The fold of `hash`, from the last entry. -/
def hashFrom (hashes : Hashes Double) (start : BitVec 64)
    (entries : List (Σ _ : String, VariantType Double)) : BitVec 64 :=
  entries.foldr (fun p h => hashEntry hashes h p) start

theorem hash_eq_hashFrom (hashes : Hashes Double) (self : Instance Double) :
    hash hashes self =
      hashFrom hashes (hashes.string self.model.name) self.values.entries.reverse := by
  rw [hash, hashFrom, List.foldr_reverse]

/-- The lowest bit of a value is that of its unshifted part. -/
theorem getLsbD_zero_hashValue (hashes : Hashes Double) (v : VariantType Double) :
    (hashValue hashes v).getLsbD 0 = (hashValue hashes (unshifted v)).getLsbD 0 := by
  cases v with
  | location l => simp [hashValue, unshifted]
  | int | double | string | bool => rfl

/-- Entries that agree give the same low bits. -/
theorem getLsbD_hashFrom_of_agreeIn (hashes : Hashes Double) (start : BitVec 64) {count : Nat}
    {first second : List (Σ _ : String, VariantType Double)}
    (agree : AgreeIn count first second) {bit : Nat} (low : bit ≤ 3 * count) (small : bit < 64) :
    (hashFrom hashes start first).getLsbD bit = (hashFrom hashes start second).getLsbD bit := by
  induction count generalizing first second bit with
  | zero =>
      have lowest : bit = 0 := by omega
      subst lowest
      cases first with
      | nil =>
          cases second with
          | nil => rfl
          | cons q rest => cases agree.2
      | cons p rest =>
          cases second with
          | nil => cases agree.2
          | cons q others =>
              have same : unshifted p.2 = unshifted q.2 := Option.some.inj agree.2
              change (hashEntry hashes _ p).getLsbD 0 = (hashEntry hashes _ q).getLsbD 0
              rw [getLsbD_hashEntry _ _ _ _ small, getLsbD_hashEntry _ _ _ _ small,
                getLsbD_zero_hashValue hashes p.2, getLsbD_zero_hashValue hashes q.2, same]
              rfl
  | succ count ih =>
      cases first with
      | nil =>
          cases second with
          | nil => rfl
          | cons q rest => cases agree.1
      | cons p rest =>
          cases second with
          | nil => cases agree.1
          | cons q others =>
              obtain ⟨taken, next⟩ := agree
              rw [List.take_succ_cons, List.take_succ_cons, List.cons.injEq] at taken
              rw [List.getElem?_cons_succ, List.getElem?_cons_succ] at next
              obtain ⟨same, taken⟩ := taken
              subst same
              change (hashEntry hashes _ p).getLsbD bit = (hashEntry hashes _ p).getLsbD bit
              rw [getLsbD_hashEntry _ _ _ _ small, getLsbD_hashEntry _ _ _ _ small]
              have before : (hashFrom hashes start rest).getLsbD (bit - 3) =
                  (hashFrom hashes start others).getLsbD (bit - 3) :=
                ih ⟨taken, next⟩ (by omega) (by omega)
              rw [hashFrom, hashFrom] at before
              rw [before]

/-! ### Telling entries apart -/

/-- Entries with the same key in two orders of the same map are the same. -/
theorem getElem?_eq_of_key {first second : List (Σ _ : String, VariantType Double)}
    (distinct : first.NodupKeys) (permuted : first.Perm second) {position : Nat}
    (sameKey : first[position]?.map Sigma.fst = second[position]?.map Sigma.fst) :
    first[position]? = second[position]? := by
  cases here : first[position]? with
  | none =>
      rw [here, Option.map_none] at sameKey
      exact (Option.map_eq_none_iff.mp sameKey.symm).symm
  | some p =>
      rw [here, Option.map_some] at sameKey
      obtain ⟨q, there, key⟩ := Option.map_eq_some_iff.mp sameKey.symm
      have pInside : p ∈ first := List.mem_of_getElem? here
      have qInside : q ∈ first := permuted.mem_iff.mpr (List.mem_of_getElem? there)
      rw [there, distinct.eq_of_fst_eq qInside pInside key]

section Marking

variable [DecidableEq Double]

/-- One for a marked value, zero for all others. -/
def mark (marked v : VariantType Double) : BitVec 64 := if v = marked then 1 else 0

/-- Element hashes that only see one value, as a string, integer, double or Boolean. -/
def marking (marked : VariantType Double) : Hashes Double where
  string s := mark marked (.string s)
  int i := mark marked (.int i)
  double d := mark marked (.double d)
  bool b := mark marked (.bool b)

theorem getLsbD_zero_mark (marked v : VariantType Double) :
    (mark marked v).getLsbD 0 = decide (v = marked) := by
  unfold mark
  by_cases same : v = marked
  · rw [if_pos same, decide_eq_true same]
    rfl
  · rw [if_neg same, decide_eq_false same]
    rfl

theorem getLsbD_mark_of_pos (marked v : VariantType Double) {bit : Nat} (positive : 0 < bit) :
    (mark marked v).getLsbD bit = false := by
  unfold mark
  split
  · change (1#64).getLsbD bit = false
    rw [BitVec.getLsbD_one]
    simp only [Bool.and_eq_false_imp, decide_eq_true_iff, decide_eq_false_iff_not]
    omega
  · exact BitVec.getLsbD_zero

theorem getLsbD_zero_marking (marked v : VariantType Double) :
    (hashValue (marking marked) v).getLsbD 0 = decide (unshifted v = marked) := by
  rw [getLsbD_zero_hashValue]
  cases v <;> exact getLsbD_zero_mark marked _

theorem getLsbD_marking_of_two (marked v : VariantType Double) {bit : Nat} (above : 2 ≤ bit) :
    (hashValue (marking marked) v).getLsbD bit = false := by
  cases v with
  | location l =>
      change (mark marked (.double l.lon) ^^^ (mark marked (.double l.lat) <<< 1)).getLsbD bit = _
      rw [BitVec.getLsbD_xor, BitVec.getLsbD_shiftLeft, getLsbD_mark_of_pos _ _ (by omega),
        getLsbD_mark_of_pos _ _ (by omega : 0 < bit - 1), Bool.and_false, Bool.xor_false]
  | int | double | string | bool => exact getLsbD_mark_of_pos marked _ (by omega)

/-- Above its lowest three bits a round with marking hashes only shifts. -/
theorem getLsbD_hashFrom_cons (marked : VariantType Double) (start : BitVec 64)
    (p : Σ _ : String, VariantType Double) (rest : List (Σ _ : String, VariantType Double))
    (bit : Nat) (small : bit + 3 < 64) :
    (hashFrom (marking marked) start (p :: rest)).getLsbD (bit + 3) =
      (hashFrom (marking marked) start rest).getLsbD bit := by
  have key : ((marking marked).string p.1).getLsbD (bit + 3 - 2) = false :=
    getLsbD_mark_of_pos _ _ (by omega)
  change (hashEntry _ (hashFrom _ _ rest) p).getLsbD (bit + 3) = _
  rw [getLsbD_hashEntry _ _ _ _ small, getLsbD_marking_of_two _ _ (by omega), key, Bool.and_false,
    Bool.false_xor, Bool.false_xor, decide_eq_true (by omega : 3 ≤ bit + 3), Bool.true_and,
    Nat.add_sub_cancel]

/-- The bit in which a key at some position from the end is seen. -/
theorem getLsbD_key (marked name : String) (position : Nat)
    (entries : List (Σ _ : String, VariantType Double)) (small : 3 * position + 2 < 64) :
    (hashFrom (marking (.string marked : VariantType Double))
      (mark (.string marked) (.string name : VariantType Double)) entries).getLsbD
        (3 * position + 2) = decide ((entries[position]?.map Sigma.fst) = some marked) := by
  induction position generalizing entries with
  | zero =>
      cases entries with
      | nil => exact getLsbD_mark_of_pos _ _ (by omega)
      | cons p rest =>
          have key : ((marking (.string marked : VariantType Double)).string p.1).getLsbD 0 =
              decide (VariantType.string p.1 = (.string marked : VariantType Double)) :=
            getLsbD_zero_mark _ _
          change (hashEntry _ _ p).getLsbD 2 = _
          rw [getLsbD_hashEntry _ _ _ _ (by omega), getLsbD_marking_of_two _ _ (Nat.le_refl 2),
            Bool.false_xor, decide_eq_true (Nat.le_refl 2), Bool.true_and,
            decide_eq_false (by omega : ¬ 3 ≤ 2), Bool.false_and, Bool.xor_false]
          apply key.trans
          simp
  | succ position ih =>
      cases entries with
      | nil => exact getLsbD_mark_of_pos _ _ (by omega)
      | cons p rest =>
          have shifted : 3 * (position + 1) + 2 = 3 * position + 2 + 3 := by omega
          rw [shifted, getLsbD_hashFrom_cons _ _ _ _ _ (by omega), List.getElem?_cons_succ]
          exact ih rest (by omega)

/-- The bit in which a value at some position from the end is seen. -/
theorem getLsbD_value (marked : VariantType Double) (start : BitVec 64) (position : Nat)
    (entries : List (Σ _ : String, VariantType Double)) (inside : position < entries.length)
    (small : 3 * position < 64) :
    (hashFrom (marking marked) start entries).getLsbD (3 * position) =
      decide ((entries[position]?.map fun p => unshifted p.2) = some marked) := by
  induction position generalizing entries with
  | zero =>
      cases entries with
      | nil => exact absurd inside (Nat.not_lt_zero 0)
      | cons p rest =>
          change (hashEntry _ _ p).getLsbD 0 = _
          rw [getLsbD_hashEntry _ _ _ _ (by omega), getLsbD_zero_marking]
          simp
  | succ position ih =>
      cases entries with
      | nil => exact absurd inside (Nat.not_lt_zero _)
      | cons p rest =>
          have shifted : 3 * (position + 1) = 3 * position + 3 := by omega
          rw [shifted, getLsbD_hashFrom_cons _ _ _ _ _ (by omega), List.getElem?_cons_succ]
          exact ih rest (Nat.lt_of_succ_lt_succ inside) (by omega)

/-- Two orders of the same entries whose hashes never differ agree where the hash
reaches. -/
theorem agreeIn_of_hashFrom (name : String)
    {first second : List (Σ _ : String, VariantType Double)}
    (distinct : first.NodupKeys) (permuted : first.Perm second)
    (equal : ∀ hashes : Hashes Double, hashFrom hashes (hashes.string name) first =
      hashFrom hashes (hashes.string name) second) : AgreeIn 21 first second := by
  constructor
  · apply List.ext_getElem?
    intro position
    rw [List.getElem?_take, List.getElem?_take]
    split
    · rename_i near
      have sameKey : first[position]?.map Sigma.fst = second[position]?.map Sigma.fst := by
        apply Option.ext
        intro marked
        have bit := congrArg (fun h : BitVec 64 => h.getLsbD (3 * position + 2))
          (equal (marking (.string marked)))
        have firstKey := getLsbD_key marked name position first (by omega)
        have secondKey := getLsbD_key marked name position second (by omega)
        exact decide_eq_decide.mp (firstKey.symm.trans (bit.trans secondKey))
      exact getElem?_eq_of_key distinct permuted sameKey
    · rfl
  · have sameLength := permuted.length_eq
    by_cases far : 21 < first.length
    · apply Option.ext
      intro marked
      have bit := congrArg (fun h : BitVec 64 => h.getLsbD (3 * 21)) (equal (marking marked))
      have firstValue := getLsbD_value marked ((marking marked).string name) 21 first far
        (by omega)
      have secondValue := getLsbD_value marked ((marking marked).string name) 21 second
        (sameLength ▸ far) (by omega)
      exact decide_eq_decide.mp (firstValue.symm.trans (bit.trans secondValue))
    · rw [List.getElem?_eq_none (Nat.not_lt.mp far),
        List.getElem?_eq_none (sameLength ▸ Nat.not_lt.mp far)]

end Marking

/-- **Hashing is compatible with equality** at two instances with the same model name
and the same values, for every choice of the element hashes, exactly when their
iterations end alike. -/
theorem hash_compatible_iff [DecidableEq Double] (a b : Instance Double)
    (named : a.model.name = b.model.name) (same : ∀ name, a.value name = b.value name) :
    (∀ hashes : Hashes Double, hash hashes a = hash hashes b) ↔ EndAlike a b := by
  have permuted : a.values.entries.Perm b.values.entries := by
    apply List.lookup_ext a.values.nodupKeys b.values.nodupKeys
    intro name v
    exact Iff.of_eq (congrArg (v ∈ ·) (same name))
  constructor
  · intro equal
    apply agreeIn_of_hashFrom a.model.name
    · exact (List.perm_nodupKeys (List.reverse_perm _)).mpr a.values.nodupKeys
    · exact (List.reverse_perm _).trans (permuted.trans (List.reverse_perm _).symm)
    · intro hashes
      have sameHash := equal hashes
      rw [hash_eq_hashFrom, hash_eq_hashFrom, ← named] at sameHash
      exact sameHash
  · intro alike hashes
    rw [hash_eq_hashFrom, hash_eq_hashFrom, named]
    apply BitVec.eq_of_getLsbD_eq
    intro bit small
    exact getLsbD_hashFrom_of_agreeIn hashes _ alike (by omega) small

section Person

attribute [local instance] wholeDoubles

/-- The values of `alan`, inserted in the opposite order. -/
def alanReversed : UnorderedMap String (VariantType Int) :=
  AList.insert "age" (.int 42)
    (AList.insert "firstName" (.string "Alan") (AList.insert "birth_place" (.location ⟨12, 52⟩) ∅))

theorem lookup_alanReversed (name : String) : alan.lookup name = alanReversed.lookup name := by
  simp only [alan, alanReversed, UnorderedMap.lookup_insert_eq_ite]
  by_cases age : name = "age"
  · subst age
    rfl
  · rw [if_neg age, if_neg age]
    by_cases first : name = "firstName"
    · subst first
      rfl
    · rw [if_neg first, if_neg first]

/-- Strings hash to their lengths, numbers to themselves. -/
def lengthHashes : Hashes Int where
  string s := BitVec.ofNat 64 s.length
  int i := BitVec.ofInt 64 i.toInt
  double d := BitVec.ofInt 64 d
  bool b := if b then 1 else 0

theorem hash_compatible_iff_alan : ∃ a b, make person alan = .ok a ∧
    make person alanReversed = .ok b ∧
      ((∀ hashes : Hashes Int, hash hashes a = hash hashes b) ↔ EndAlike a b) :=
  ⟨_, _, rfl, rfl, @hash_compatible_iff Int _ _ _ rfl lookup_alanReversed⟩

/-- The same person described in two orders: the two instances are equal and their
hashes differ. -/
theorem alanReversed_hash : ∃ a b, make person alan = .ok a ∧ make person alanReversed = .ok b ∧
    a.model.name = b.model.name ∧ (∀ name, a.value name = b.value name) ∧ (a == b) = true ∧
      (b == a) = true ∧ hash lengthHashes a ≠ hash lengthHashes b :=
  ⟨_, _, rfl, rfl, rfl, lookup_alanReversed, by decide, by decide, by decide⟩

end Person

end Instance

end OefCore
