import Mathlib.Data.List.Induction

/-! # Runs of a partial machine

A machine is a function that takes a state and an event to the next state, if
the event can happen there. A run is a list of events that can happen one after
the other (`Run`), possibly with a condition on every step (`RunWithin`). An
invariant is proved for one step and then holds along every run
(`RunWithin.invariant`, and `RunWithin.traceInvariant` for one that also speaks
of the events so far). A machine whose steps are matched by those of a coarser one
has its runs there: by one step for every event with an image
(`RunWithin.refines`), or by a step that depends on the state
(`RunWithin.simulates`). What the steps of a run put out is collected in order
(`collect`).
-/

section

variable {State Event : Type*}

/-- The events lead from one state to another, and every step meets a condition
on the state before it and its event. -/
inductive RunWithin (condition : State → Event → Prop) (step : State → Event → Option State)
    (start : State) : List Event → State → Prop where
  | nil : RunWithin condition step start [] start
  | snoc {events : List Event} {state next : State} {event : Event} :
      RunWithin condition step start events state →
      condition state event →
      step state event = some next →
      RunWithin condition step start (events ++ [event]) next

/-- The events lead from one state to another. -/
abbrev Run (step : State → Event → Option State) : State → List Event → State → Prop :=
  RunWithin (fun _ _ => True) step

/-- Execute a list of events, as far as it can happen. -/
def execute (step : State → Event → Option State) (state : State) : List Event → Option State
  | [] => some state
  | event :: rest => (step state event).bind fun next => execute step next rest

namespace RunWithin

variable {condition : State → Event → Prop} {step : State → Event → Option State}
  {start state : State} {events : List Event}

/-- A property of the events so far and the state they lead to holds along every
run, if it holds at the start and every step within the condition preserves it. -/
theorem traceInvariant (property : List Event → State → Prop) (initial : property [] start)
    (preserved : ∀ events state event next, RunWithin condition step start events state →
      property events state → condition state event → step state event = some next →
        property (events ++ [event]) next)
    (run : RunWithin condition step start events state) : property events state := by
  induction run with
  | nil => exact initial
  | snoc before allowed taken ih => exact preserved _ _ _ _ before ih allowed taken

/-- A property of states, preserved by every step within the condition. -/
theorem invariant (property : State → Prop) (initial : property start)
    (preserved : ∀ state event next, property state → condition state event →
      step state event = some next → property next)
    (run : RunWithin condition step start events state) : property state := by
  induction run with
  | nil => exact initial
  | snoc _ allowed taken ih => exact preserved _ _ _ ih allowed taken

/-- A run within a condition is one within a condition that follows where it leads. -/
theorem mono {weaker : State → Event → Prop}
    (weakens : ∀ events state event, RunWithin condition step start events state →
      condition state event → weaker state event)
    (run : RunWithin condition step start events state) :
    RunWithin weaker step start events state := by
  induction run with
  | nil => exact .nil
  | snoc before allowed taken ih => exact .snoc ih (weakens _ _ _ before allowed) taken

/-- Every run within a condition is a run. -/
theorem forget (run : RunWithin condition step start events state) :
    Run step start events state :=
  run.mono fun _ _ _ _ _ => trivial

theorem append {middle : State} {later : List Event}
    (first : RunWithin condition step start events middle)
    (second : RunWithin condition step middle later state) :
    RunWithin condition step start (events ++ later) state := by
  induction second with
  | nil => rwa [List.append_nil]
  | snoc _ allowed taken ih =>
      rw [← List.append_assoc]
      exact .snoc ih allowed taken

/-- The last step of a run. -/
theorem snoc_iff {event : Event} {next : State} :
    RunWithin condition step start (events ++ [event]) next ↔
      ∃ state, RunWithin condition step start events state ∧ condition state event ∧
        step state event = some next := by
  constructor
  · intro run
    generalize whole : events ++ [event] = all at run
    cases run with
    | nil => exact absurd whole (List.append_ne_nil_of_right_ne_nil _ (List.cons_ne_nil _ _))
    | @snoc _ state _ _ before allowed taken =>
        obtain ⟨rfl, same⟩ := List.append_inj' whole rfl
        cases same
        exact ⟨state, before, allowed, taken⟩
  · rintro ⟨state, before, allowed, taken⟩
    exact .snoc before allowed taken

/-- A run passes through a state after every part of its events. -/
theorem split {earlier later : List Event}
    (run : RunWithin condition step start (earlier ++ later) state) :
    ∃ middle, RunWithin condition step start earlier middle ∧
      RunWithin condition step middle later state := by
  induction later using List.reverseRecOn generalizing state with
  | nil =>
      rw [List.append_nil] at run
      exact ⟨state, run, .nil⟩
  | append_singleton later event ih =>
      rw [← List.append_assoc, snoc_iff] at run
      obtain ⟨before, run, allowed, taken⟩ := run
      obtain ⟨middle, first, second⟩ := ih run
      exact ⟨middle, first, .snoc second allowed taken⟩

/-- The step that an event of a run stands for. -/
theorem around {earlier later : List Event} {event : Event}
    (run : RunWithin condition step start (earlier ++ event :: later) state) :
    ∃ before after, RunWithin condition step start earlier before ∧ condition before event ∧
      step before event = some after ∧ RunWithin condition step after later state := by
  rw [List.append_cons] at run
  obtain ⟨after, first, rest⟩ := run.split
  obtain ⟨before, prior, allowed, taken⟩ := snoc_iff.mp first
  exact ⟨before, after, prior, allowed, taken, rest⟩

/-- A run of a machine is a run of a coarser one, if every step whose event has an image
there is matched and every other step changes nothing there. -/
theorem refines {Abstract Image : Type*} {abstractStep : Abstract → Image → Option Abstract}
    {abstractStart : Abstract} (image : Event → Option Image)
    (represents : State → Abstract → Prop) (initial : represents start abstractStart)
    (stutters : ∀ events state event next abstract, RunWithin condition step start events state →
      step state event = some next → represents state abstract → image event = none →
        represents next abstract)
    (matched : ∀ events state event next abstract imaged,
      RunWithin condition step start events state → step state event = some next →
        represents state abstract → image event = some imaged →
          ∃ after, abstractStep abstract imaged = some after ∧ represents next after)
    (run : RunWithin condition step start events state) :
    ∃ abstract, Run abstractStep abstractStart (events.filterMap image) abstract ∧
      represents state abstract := by
  induction run with
  | nil => exact ⟨abstractStart, .nil, initial⟩
  | @snoc events state next event before _ taken ih =>
      obtain ⟨abstract, run, represented⟩ := ih
      rw [List.filterMap_append]
      cases there : image event with
      | none =>
          rw [List.filterMap_cons_none there, List.filterMap_nil, List.append_nil]
          exact ⟨abstract, run, stutters _ _ _ _ _ before taken represented there⟩
      | some imaged =>
          obtain ⟨after, moved, represented⟩ :=
            matched _ _ _ _ _ _ before taken represented there
          rw [List.filterMap_cons_some there, List.filterMap_nil]
          exact ⟨after, .snoc run trivial moved, represented⟩

/-- The same when the step that matches another one depends on the state, and on the
state it is matched in. -/
theorem simulates {Abstract Image : Type*} {allowed : Abstract → Image → Prop}
    {abstractStep : Abstract → Image → Option Abstract} {abstractStart : Abstract}
    (represents : State → Abstract → Prop) (initial : represents start abstractStart)
    (matched : ∀ events state event next abstract, RunWithin condition step start events state →
      condition state event → step state event = some next → represents state abstract →
        represents next abstract ∨ ∃ image after, allowed abstract image ∧
          abstractStep abstract image = some after ∧ represents next after)
    (run : RunWithin condition step start events state) :
    ∃ images abstract, RunWithin allowed abstractStep abstractStart images abstract ∧
      represents state abstract := by
  induction run with
  | nil => exact ⟨[], abstractStart, .nil, initial⟩
  | @snoc events state next event before fine taken ih =>
      obtain ⟨images, abstract, run, represented⟩ := ih
      rcases matched _ _ _ _ _ before fine taken represented with
        kept | ⟨image, after, fine, moved, represented⟩
      · exact ⟨images, abstract, run, kept⟩
      · exact ⟨images ++ [image], after, .snoc run fine moved, represented⟩

end RunWithin

/-- What can be executed in two parts. -/
theorem execute_append {step : State → Event → Option State} {start : State}
    (earlier later : List Event) : execute step start (earlier ++ later) =
      (execute step start earlier).bind fun middle => execute step middle later := by
  induction earlier generalizing start with
  | nil => rfl
  | cons event rest ih =>
      rw [List.cons_append, execute, execute]
      cases step start event with
      | none => rfl
      | some next => exact ih

/-- The events of a run can be executed. -/
theorem RunWithin.executed {condition : State → Event → Prop}
    {step : State → Event → Option State} {start state : State} {events : List Event}
    (run : RunWithin condition step start events state) :
    execute step start events = some state := by
  induction run with
  | nil => rfl
  | snoc _ _ taken ih =>
      rw [execute_append, ih, Option.bind_some, execute, taken]
      rfl

section Collect

variable {Output : Type*}

/-- What steps put out, while a list of events is executed. -/
def collect (step : State → Event → Option State) (output : State → Event → List Output)
    (state : State) : List Event → List Output
  | [] => []
  | event :: rest => output state event ++
      (step state event).elim [] fun next => collect step output next rest

variable {condition : State → Event → Prop} {step : State → Event → Option State}
  {output : State → Event → List Output} {start state : State} {events : List Event}

/-- What is put out in two parts. -/
theorem collect_append {middle : State} {earlier : List Event}
    (executed : execute step start earlier = some middle) (later : List Event) :
    collect step output start (earlier ++ later) =
      collect step output start earlier ++ collect step output middle later := by
  induction earlier generalizing start with
  | nil =>
      cases executed
      rfl
  | cons event rest ih =>
      obtain ⟨next, taken, executed⟩ := Option.bind_eq_some_iff.mp executed
      rw [List.cons_append, collect, collect, taken, List.append_assoc]
      exact congrArg (output start event ++ ·) (ih executed)

/-- The last step of a run puts out something after everything else. -/
theorem RunWithin.collect_snoc (run : RunWithin condition step start events state)
    (event : Event) : collect step output start (events ++ [event]) =
      collect step output start events ++ output state event := by
  have last : collect step output state [event] = output state event := by
    rw [collect]
    cases step state event with
    | none => exact List.append_nil _
    | some next => exact List.append_nil _
  rw [collect_append run.executed, last]

end Collect

/-- A condition holds of every step while a list of events is executed. -/
def AlongExecution (condition : State → Event → Prop) (step : State → Event → Option State)
    (state : State) : List Event → Prop
  | [] => True
  | event :: rest => condition state event ∧
      (step state event).elim True fun next => AlongExecution condition step next rest

/-- What can be executed within a condition is a run within it. -/
theorem runWithin_of_execute {condition : State → Event → Prop}
    {step : State → Event → Option State} {start state : State} {events : List Event}
    (executed : execute step start events = some state)
    (along : AlongExecution condition step start events) :
    RunWithin condition step start events state := by
  induction events generalizing start with
  | nil =>
      cases executed
      exact .nil
  | cons event rest ih =>
      obtain ⟨next, taken, executed⟩ := Option.bind_eq_some_iff.mp executed
      obtain ⟨allowed, along⟩ := along
      rw [taken] at along
      have first : RunWithin condition step start [event] next := .snoc .nil allowed taken
      exact first.append (ih executed along)

/-- A condition that the events meet in every state. -/
theorem alongExecution_of_forall {condition : State → Event → Prop}
    {step : State → Event → Option State} {start : State} {events : List Event}
    (always : ∀ event ∈ events, ∀ state, condition state event) :
    AlongExecution condition step start events := by
  induction events generalizing start with
  | nil => trivial
  | cons event rest ih =>
      refine ⟨always event List.mem_cons_self start, ?_⟩
      cases step start event with
      | none => trivial
      | some next => exact ih fun event member => always event (List.mem_cons_of_mem _ member)

/-- What can be executed is a run. -/
theorem run_of_execute {step : State → Event → Option State} {start state : State}
    {events : List Event} (executed : execute step start events = some state) :
    Run step start events state :=
  runWithin_of_execute executed (alongExecution_of_forall fun _ _ _ => trivial)

end
