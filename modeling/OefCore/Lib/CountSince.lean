import Mathlib.Data.List.Basic
import Mathlib.Data.List.Induction

/-! # Counting since the last reset

Some entries of a log are marked, and some reset the count of marks. When the
count since the last reset never exceeds a bound, no part of the log without a
reset has more marks than that (`countP_between_le`).
-/

section

variable {Entry : Type*} (reset mark : Entry → Bool)

/-- The marks since the last reset. -/
def countSince (log : List Entry) : Nat :=
  log.foldl (fun count entry =>
    if reset entry then 0 else if mark entry then count + 1 else count) 0

@[simp] theorem countSince_nil : countSince reset mark [] = 0 := rfl

theorem countSince_append (log : List Entry) (entry : Entry) :
    countSince reset mark (log ++ [entry]) =
      if reset entry then 0
      else if mark entry then countSince reset mark log + 1 else countSince reset mark log := by
  rw [countSince, List.foldl_append]
  rfl

variable {reset mark}

/-- A part without resets counts in full. -/
theorem countP_le_countSince (before between : List Entry)
    (unreset : ∀ entry ∈ between, reset entry = false) :
    between.countP mark ≤ countSince reset mark (before ++ between) := by
  induction between using List.reverseRecOn with
  | nil => exact Nat.zero_le _
  | append_singleton between entry ih =>
      have here := unreset entry (List.mem_append_right _ (List.mem_singleton_self _))
      have counted := ih fun earlier member => unreset earlier (List.mem_append_left _ member)
      rw [← List.append_assoc, countSince_append, here, List.countP_append, List.countP_singleton]
      cases mark entry with
      | true => exact Nat.succ_le_succ counted
      | false => exact counted

/-- A bound for every beginning of a log is a bound between two resets. -/
theorem countP_between_le {bound : Nat} {log before between after : List Entry}
    (bounded : ∀ first rest, log = first ++ rest → countSince reset mark first ≤ bound)
    (whole : log = before ++ between ++ after)
    (unreset : ∀ entry ∈ between, reset entry = false) : between.countP mark ≤ bound :=
  Nat.le_trans (countP_le_countSince before between unreset) (bounded _ after whole)

/-- A longer log stays within the bound when its last count does. -/
theorem countSince_bounded_append {bound : Nat} {log : List Entry} {entry : Entry}
    (bounded : ∀ first rest, log = first ++ rest → countSince reset mark first ≤ bound)
    (last : countSince reset mark (log ++ [entry]) ≤ bound) :
    ∀ first rest, log ++ [entry] = first ++ rest → countSince reset mark first ≤ bound := by
  intro first rest whole
  rcases rest.eq_nil_or_concat with rfl | ⟨rest, final, rfl⟩
  · rw [List.append_nil] at whole
    exact whole ▸ last
  · rw [List.concat_eq_append, ← List.append_assoc] at whole
    obtain ⟨same, _⟩ := List.append_inj' whole rfl
    exact bounded first rest same

end
