import Mathlib.Data.List.Basic

/-! # Lists in ascending order

Searching a list whose entries are ordered by a reflexive relation. The first entry
that passes a test is the least of those that do (`Ascending.first_least`), the last
entry is the greatest (`Ascending.last_greatest`), and an entry can be appended when
it is above all others (`Ascending.append_singleton_iff`).
-/

namespace Ascending

variable {α : Type*} {before : α → α → Prop} {entries : List α}

/-- A list stays in ascending order when the entry appended to it is above the
others. -/
theorem append_singleton_iff (entry : α) : (entries ++ [entry]).Pairwise before ↔
    entries.Pairwise before ∧ ∀ a ∈ entries, before a entry := by
  rw [List.pairwise_append]
  constructor
  · intro ⟨ascending, _, above⟩
    exact ⟨ascending, fun a inside => above a inside entry (List.mem_singleton.mpr rfl)⟩
  · intro ⟨ascending, above⟩
    refine ⟨ascending, List.pairwise_singleton _ _, fun a inside b last => ?_⟩
    rw [List.mem_singleton.mp last]
    exact above a inside

/-- The first entry that passes a test is below every other that does. -/
theorem first_least (refl : ∀ a, before a a) (ascending : entries.Pairwise before)
    {test : α → Bool} {first : α} (found : entries.find? test = some first) :
    ∀ a ∈ entries, test a = true → before first a := by
  obtain ⟨_, skipped, rest, split, failed⟩ := List.find?_eq_some_iff_append.mp found
  subst split
  intro a inside passes
  rcases List.mem_append.mp inside with earlier | later
  · have fails := failed a earlier
    rw [passes] at fails
    cases fails
  · have tail := (List.pairwise_append.mp ascending).2.1
    rcases List.mem_cons.mp later with rfl | later
    · exact refl a
    · exact (List.pairwise_cons.mp tail).1 a later

/-- The last entry is above all others. -/
theorem last_greatest (refl : ∀ a, before a a) (ascending : entries.Pairwise before) {last : α}
    (ends : entries.getLast? = some last) : ∀ a ∈ entries, before a last := by
  obtain ⟨others, split⟩ := List.getLast?_eq_some_iff.mp ends
  subst split
  intro a inside
  rcases List.mem_append.mp inside with other | same
  · exact ((append_singleton_iff last).mp ascending).2 a other
  · rw [List.mem_singleton.mp same]
    exact refl last

end Ascending
