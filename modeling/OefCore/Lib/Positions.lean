import Mathlib.Data.List.Induction
import Mathlib.Data.List.Nodup

/-! # Positions in a log

A log is counted by the positions of its entries: as many different positions as have
entries with a property, so many entries with the property there are at least
(`length_le_countP`). If nothing is named twice by the entries of a list, and everything
they name has a position in a log, the list is no longer than the log
(`countP_le_countP`).
-/

section

variable {Entry Item : Type*} {log : List Entry} {test : Entry → Bool}

/-- Different positions of entries that pass a test. -/
theorem length_le_countP {positions : List Nat} (distinct : positions.Nodup)
    (entries : ∀ position ∈ positions, ∃ entry, log[position]? = some entry ∧ test entry = true) :
    positions.length ≤ log.countP test := by
  induction log using List.reverseRecOn generalizing positions with
  | nil =>
      cases positions with
      | nil => exact Nat.le_refl 0
      | cons position rest =>
          obtain ⟨entry, found, _⟩ := entries position List.mem_cons_self
          cases found
  | append_singleton log last ih =>
      have earlier : (positions.erase log.length).length ≤ log.countP test := by
        apply ih (distinct.erase _)
        intro position member
        obtain ⟨different, inside⟩ := distinct.mem_erase_iff.mp member
        obtain ⟨entry, found, passes⟩ := entries position inside
        obtain ⟨below, _⟩ := List.getElem?_eq_some_iff.mp found
        rw [List.length_append, List.length_singleton] at below
        rw [List.getElem?_append_left (by omega)] at found
        exact ⟨entry, found, passes⟩
      rw [List.countP_append, List.countP_singleton]
      by_cases here : log.length ∈ positions
      · obtain ⟨entry, found, passes⟩ := entries log.length here
        rw [List.getElem?_concat_length] at found
        cases found
        rw [List.length_erase_of_mem here] at earlier
        rw [if_pos passes]
        omega
      · rw [List.erase_of_not_mem here] at earlier
        exact Nat.le_add_right_of_le earlier

/-- Items that name different positions, each that of an entry that passes a test when
the item does. -/
theorem countP_le_countP {items : List Item} {marked : Item → Bool} {position : Item → Nat}
    (distinct : (items.map position).Nodup)
    (entries : ∀ item ∈ items, marked item = true →
      ∃ entry, log[position item]? = some entry ∧ test entry = true) :
    items.countP marked ≤ log.countP test := by
  have chosen : ((items.filter marked).map position).Nodup :=
    distinct.sublist (List.filter_sublist.map position)
  rw [List.countP_eq_length_filter, ← List.length_map position]
  apply length_le_countP chosen
  intro place member
  obtain ⟨item, inside, rfl⟩ := List.mem_map.mp member
  obtain ⟨listed, passes⟩ := List.mem_filter.mp inside
  exact entries item listed passes

end
