import Mathlib.Data.List.AList

/-! # Hash maps

A hash map from keys to values, given by its entries in the order in which it
is iterated. Nothing is known about that order, so a statement about every map
is a statement about every iteration order.
-/

/-- A finite map with an iteration order and at most one entry for a key. -/
abbrev UnorderedMap (Key Value : Type) := AList fun _ : Key => Value

namespace UnorderedMap

variable {Key Value : Type} [DecidableEq Key]

/-- An insertion is only seen at its own key. -/
theorem lookup_insert_eq_ite (table : UnorderedMap Key Value) (key query : Key) (value : Value) :
    (table.insert key value).lookup query = if query = key then some value
      else table.lookup query := by
  by_cases same : query = key
  · subst same
    rw [if_pos rfl]
    exact AList.lookup_insert table
  · rw [if_neg same]
    exact AList.lookup_insert_ne same

/-- An erasure is only seen at its own key. -/
theorem lookup_erase_eq_ite (table : UnorderedMap Key Value) (key query : Key) :
    (table.erase key).lookup query = if query = key then none else table.lookup query := by
  by_cases same : query = key
  · subst same
    rw [if_pos rfl]
    exact AList.lookup_erase query table
  · rw [if_neg same]
    exact AList.lookup_erase_ne same

/-- Every entry of one map is an entry of the other. -/
def Within (small large : UnorderedMap Key Value) : Prop :=
  ∀ key value, small.lookup key = some value → large.lookup key = some value

theorem Within.refl (table : UnorderedMap Key Value) : Within table table := fun _ _ => id

theorem Within.trans {small middle large : UnorderedMap Key Value} (first : Within small middle)
    (second : Within middle large) : Within small large :=
  fun key value stored => second key value (first key value stored)

/-- A map within one that has no other keys is the same map. -/
theorem Within.lookup_eq {small large : UnorderedMap Key Value} (within : Within small large)
    (noMore : ∀ key, small.lookup key = none → large.lookup key = none) (key : Key) :
    small.lookup key = large.lookup key := by
  cases stored : small.lookup key with
  | none => exact (noMore key stored).symm
  | some value => exact (within key value stored).symm

/-- Insert entries one after the other. -/
def insertAll (table : UnorderedMap Key Value) (entries : List (Σ _ : Key, Value)) :
    UnorderedMap Key Value :=
  entries.foldl (fun table entry => table.insert entry.1 entry.2) table

/-- Entries with different keys are all seen after they were inserted, in front of
what was there before. -/
theorem lookup_insertAll (table : UnorderedMap Key Value) {entries : List (Σ _ : Key, Value)}
    (distinct : entries.NodupKeys) (query : Key) :
    (insertAll table entries).lookup query =
      (entries.dlookup query).or (table.lookup query) := by
  induction entries generalizing table with
  | nil => rfl
  | cons entry rest ih =>
      obtain ⟨key, value⟩ := entry
      rw [List.nodupKeys_cons] at distinct
      obtain ⟨fresh, distinct⟩ := distinct
      change (insertAll (table.insert key value) rest).lookup query = _
      rw [ih _ distinct, lookup_insert_eq_ite]
      by_cases same : query = key
      · subst same
        rw [if_pos rfl, List.dlookup_eq_none.mpr fresh, List.dlookup_cons_eq]
        rfl
      · rw [if_neg same, List.dlookup_cons_ne _ _ same]

@[simp] theorem lookup_empty_eq_none (query : Key) :
    (∅ : UnorderedMap Key Value).lookup query = none :=
  AList.lookup_empty query

end UnorderedMap
