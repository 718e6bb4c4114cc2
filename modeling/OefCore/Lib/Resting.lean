import Mathlib.Algebra.BigOperators.Group.Finset.Piecewise
import OefCore.Lib.Run

/-! # Machines that come to rest

Some events of a machine are steps it takes on its own, the others are inputs. If every
internal step uses up some of the work that is left (`Drains`), then internal steps alone
end after a bounded number (`Drains.length_le`), and lead to a state in which none is
possible any more (`Drains.exists_resting`).

The work that is left is often a sum over the parts of a state, of which a step changes
one (`sum_weight_update`).
-/

section

variable {State Event : Type*}

/-- Internal steps stay within some states, and use up work there. -/
structure Drains (step : State → Event → Option State) (internal : Event → Prop)
    (keep : State → Prop) (work : State → Nat) : Prop where
  kept : ∀ state event next, keep state → internal event → step state event = some next →
    keep next
  less : ∀ state event next, keep state → internal event → step state event = some next →
    work next < work state

/-- No internal step is possible. -/
def Resting (step : State → Event → Option State) (internal : Event → Prop) (state : State) :
    Prop :=
  ∀ event, internal event → step state event = none

/-- A run of internal steps. -/
abbrev InternalRun (step : State → Event → Option State) (internal : Event → Prop) :
    State → List Event → State → Prop :=
  RunWithin (fun _ event => internal event) step

namespace Drains

variable {step : State → Event → Option State} {internal : Event → Prop} {keep : State → Prop}
  {work : State → Nat} {start state : State} {events : List Event}

theorem keep_run (drains : Drains step internal keep work) (kept : keep start)
    (run : InternalRun step internal start events state) : keep state :=
  run.invariant keep kept fun _ _ _ kept inner taken => drains.kept _ _ _ kept inner taken

/-- There are no more internal steps than there is work. -/
theorem length_le (drains : Drains step internal keep work) (kept : keep start)
    (run : InternalRun step internal start events state) :
    events.length + work state ≤ work start := by
  induction run with
  | nil => exact (Nat.zero_add _).le
  | @snoc events state next event before inner taken ih =>
      have used := drains.less state event next (drains.keep_run kept before) inner taken
      rw [List.length_append, List.length_singleton]
      omega

/-- Internal steps lead to a state of rest. -/
theorem exists_resting (drains : Drains step internal keep work) (kept : keep start) :
    ∃ events state, InternalRun step internal start events state ∧
      Resting step internal state := by
  induction left : work start using Nat.strongRecOn generalizing start with
  | ind left ih =>
      by_cases resting : Resting step internal start
      · exact ⟨[], start, .nil, resting⟩
      · rw [Resting] at resting
        push Not at resting
        obtain ⟨event, inner, possible⟩ := resting
        obtain ⟨next, taken⟩ := Option.ne_none_iff_exists'.mp possible
        have used := drains.less start event next kept inner taken
        rw [left] at used
        obtain ⟨events, state, run, resting⟩ :=
          ih (work next) used (drains.kept start event next kept inner taken) rfl
        have first : InternalRun step internal start [event] next := .snoc .nil inner taken
        exact ⟨[event] ++ events, state, first.append run, resting⟩

end Drains

/-- A sum of weights when one part is changed. -/
theorem sum_weight_update {ι β : Type*} [DecidableEq ι] (parts : Finset ι) (weight : β → ℕ)
    (f : ι → β) {i : ι} (inside : i ∈ parts) (b : β) :
    ∑ x ∈ parts, weight (Function.update f i b x) + weight (f i) =
      ∑ x ∈ parts, weight (f x) + weight b := by
  have moved : ∀ x, weight (Function.update f i b x) =
      Function.update (fun x => weight (f x)) i (weight b) x :=
    Function.apply_update (fun _ => weight) f i b
  simp only [moved]
  rw [Finset.sum_update_of_mem inside,
    Finset.sum_eq_add_sum_sdiff_singleton_of_mem inside fun x => weight (f x)]
  omega

end
