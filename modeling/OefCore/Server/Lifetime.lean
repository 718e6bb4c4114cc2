import OefCore.Lib.CountSince
import OefCore.Server.CoreServer

/-! # The directory and the lifetime of sessions

The directory holds exactly the sessions that were added and whose read loops did
not end, for every order in which connections send their messages, break and are
made again. A session is added under a key only when none is registered there, a
session that was not added is never started, and only a session that was started
removes a key: so `remove`, which looks at the key only, always hits the session
that calls it.

`OefCore.ServerState.run_lifetimes` collects what follows for handshakes and
disconnections.
-/

namespace OefCore

/-- The entry of a session under a key is removed. -/
def ServerEntry.removes (key : String) : ServerEntry → Bool
  | .ended _ publicKey removed => publicKey == key && removed
  | _ => false

/-- A handshake for a key is answered `Connected(true)`. -/
def ServerEntry.confirms (key : String) : ServerEntry → Bool
  | .answered _ publicKey _ reply => publicKey == key && reply.status
  | _ => false

namespace ServerState

@[simp] theorem setPhase_directory (state : ServerState) (connection : SessionId)
    (phase : ConnectionPhase) : (state.setPhase connection phase).directory = state.directory := rfl

@[simp] theorem setPhase_history (state : ServerState) (connection : SessionId)
    (phase : ConnectionPhase) : (state.setPhase connection phase).history = state.history := rfl

@[simp] theorem setPhase_phase (state : ServerState) (connection other : SessionId)
    (phase : ConnectionPhase) : (state.setPhase connection phase).phase other =
      if other = connection then some phase else state.phase other :=
  Function.update_apply ..

@[simp] theorem record_directory (state : ServerState) (entry : ServerEntry) :
    (state.record entry).directory = state.directory := rfl

@[simp] theorem record_phase (state : ServerState) (entry : ServerEntry) :
    (state.record entry).phase = state.phase := rfl

@[simp] theorem record_history (state : ServerState) (entry : ServerEntry) :
    (state.record entry).history = state.history ++ [entry] := rfl

/-- The session was added under the key. -/
def Added (state : ServerState) (session : SessionId) (key : String) : Prop :=
  ∃ reply, ServerEntry.answered session key true reply ∈ state.history

/-- The read loop of the session ended. -/
def Ended (state : ServerState) (session : SessionId) : Prop :=
  ∃ key removed, ServerEntry.ended session key removed ∈ state.history

/-- A connection that is neither read nor closed. -/
def Quiet (state : ServerState) (connection : SessionId) : Prop :=
  ∀ phase, state.phase connection = some phase → phase ≠ .closed ∧ ∀ key, phase ≠ .reading key

/-- How directory, connections and history belong together. -/
structure Lifetimes (state : ServerState) : Prop where
  directory : ∀ key session, state.directory.lookup key = some session ↔
    state.phase session = some (.reading key)
  added : ∀ session key, state.Added session key ↔
    state.phase session = some (.reading key) ∨
      ∃ removed, ServerEntry.ended session key removed ∈ state.history
  ended : ∀ session key removed, ServerEntry.ended session key removed ∈ state.history →
    state.phase session = some .closed ∧ removed = true
  answered : ∀ session key added reply,
    ServerEntry.answered session key added reply ∈ state.history →
      reply.status = added ∧
        (state.phase session = some .closed ∨ ∃ key, state.phase session = some (.reading key))
  refused : ∀ session key, ServerEntry.identified session key .failure ∈ state.history →
    state.phase session = some .closed ∧ ∀ key added reply,
      ServerEntry.answered session key added reply ∉ state.history
  bounded : ∀ key first rest, state.history = first ++ rest →
    countSince (ServerEntry.removes key) (ServerEntry.confirms key) first ≤ 1
  current : ∀ key, countSince (ServerEntry.removes key) (ServerEntry.confirms key) state.history =
    (state.directory.lookup key).isSome.toNat

variable {parsers : HandshakeParsers} {state next : ServerState} {event : ServerEvent}

theorem lifetimes_initial : initial.Lifetimes where
  directory key session := by
    change (∅ : AgentDirectory).lookup key = _ ↔ none = _
    rw [UnorderedMap.lookup_empty_eq_none]
    exact iff_of_false nofun nofun
  added session key := iff_of_false (fun added => nomatch added.choose_spec)
    (fun wrong => wrong.elim nofun fun ended => nomatch ended.choose_spec)
  ended _ _ _ member := nomatch member
  answered _ _ _ _ member := nomatch member
  refused _ _ member := nomatch member
  bounded key first rest whole := by
    rw [(List.append_eq_nil_iff.mp whole.symm).1]
    exact Nat.zero_le 1
  current key := rfl

theorem quiet_of_fresh {connection : SessionId} (fresh : state.phase connection = none) :
    state.Quiet connection := by
  intro phase there
  rw [fresh] at there
  cases there

/-- A connection that waits for a message of the handshake is quiet. -/
theorem quiet_of_waiting {connection : SessionId}
    (waiting : state.phase connection = some .awaitId ∨
      ∃ publicKey, state.phase connection = some (.awaitAnswer publicKey)) :
    state.Quiet connection := by
  intro phase there
  rcases waiting with waiting | ⟨publicKey, waiting⟩
  all_goals
    rw [waiting] at there
    cases there
    exact ⟨nofun, nofun⟩

theorem Quiet.not_closed {connection : SessionId} (quiet : state.Quiet connection) :
    state.phase connection ≠ some .closed :=
  fun closed => (quiet _ closed).1 rfl

theorem Quiet.not_reading {connection : SessionId} (quiet : state.Quiet connection)
    (key : String) : state.phase connection ≠ some (.reading key) :=
  fun reading => (quiet _ reading).2 key rfl

theorem Quiet.ne_of_closed {connection session : SessionId} (quiet : state.Quiet connection)
    (closed : state.phase session = some .closed) : session ≠ connection := by
  rintro rfl
  exact quiet.not_closed closed

/-- A quiet connection has not been answered. -/
theorem Lifetimes.unanswered (lifetimes : state.Lifetimes) {connection : SessionId}
    (quiet : state.Quiet connection) {key : String} {added : Bool} {reply : Server.Connected} :
    ServerEntry.answered connection key added reply ∉ state.history := by
  intro member
  rcases (lifetimes.answered connection key added reply member).2 with closed | ⟨key, reading⟩
  · exact quiet.not_closed closed
  · exact quiet.not_reading key reading

/-- A quiet connection changes its phase, and no entry says that it was answered or
ended. -/
theorem Lifetimes.step_waiting (lifetimes : state.Lifetimes) {connection : SessionId}
    (quiet : state.Quiet connection) (phase : ConnectionPhase)
    (unread : ∀ key, phase ≠ .reading key) : (state.setPhase connection phase).Lifetimes := by
  have reading : ∀ session key, (state.setPhase connection phase).phase session =
      some (.reading key) ↔ state.phase session = some (.reading key) := by
    intro session key
    rw [setPhase_phase]
    split
    · rename_i same
      subst same
      exact iff_of_false (fun wrong => unread key (Option.some.inj wrong)) (quiet.not_reading key)
    · exact Iff.rfl
  have closed : ∀ session, state.phase session = some .closed →
      (state.setPhase connection phase).phase session = some .closed := by
    intro session closed
    rw [setPhase_phase, if_neg (quiet.ne_of_closed closed), closed]
  exact {
    directory := fun key session =>
      (lifetimes.directory key session).trans (reading session key).symm
    added := fun session key => (lifetimes.added session key).trans
      (or_congr_left (reading session key).symm)
    ended := fun session key removed member =>
      ⟨closed session (lifetimes.ended session key removed member).1,
        (lifetimes.ended session key removed member).2⟩
    answered := fun session key added reply member => by
      obtain ⟨status, there⟩ := lifetimes.answered session key added reply member
      exact ⟨status, there.imp (closed session) fun ⟨key, read⟩ =>
        ⟨key, (reading session key).mpr read⟩⟩
    refused := fun session key member =>
      ⟨closed session (lifetimes.refused session key member).1,
        (lifetimes.refused session key member).2⟩
    bounded := lifetimes.bounded
    current := lifetimes.current }

theorem mem_record {entry other : ServerEntry} :
    other ∈ (state.record entry).history ↔ other ∈ state.history ∨ other = entry := by
  rw [record_history, List.mem_append, List.mem_singleton]

theorem added_record {entry : ServerEntry} {session : SessionId} {key : String} :
    (state.record entry).Added session key ↔
      state.Added session key ∨ ∃ reply, .answered session key true reply = entry := by
  unfold Added
  rw [← exists_or]
  exact exists_congr fun reply => mem_record

theorem ended_record {entry : ServerEntry} {session : SessionId} {key : String} :
    (∃ removed, ServerEntry.ended session key removed ∈ (state.record entry).history) ↔
      (∃ removed, ServerEntry.ended session key removed ∈ state.history) ∨
        ∃ removed, .ended session key removed = entry := by
  rw [← exists_or]
  exact exists_congr fun removed => mem_record

/-- The confirmations since the last removal, after one more entry. -/
theorem Lifetimes.countSince_record (lifetimes : state.Lifetimes) (entry : ServerEntry)
    (key : String) :
    countSince (ServerEntry.removes key) (ServerEntry.confirms key) (state.history ++ [entry]) =
      if entry.removes key then 0
      else if entry.confirms key then (state.directory.lookup key).isSome.toNat + 1
      else (state.directory.lookup key).isSome.toNat := by
  rw [countSince_append, lifetimes.current]

/-- They stay bounded when they still say whether a session is registered. -/
theorem Lifetimes.bounded_record (lifetimes : state.Lifetimes) {entry : ServerEntry}
    {key : String} {registered : Bool}
    (current : countSince (ServerEntry.removes key) (ServerEntry.confirms key)
      (state.history ++ [entry]) = registered.toNat) :
    ∀ first rest, state.history ++ [entry] = first ++ rest →
      countSince (ServerEntry.removes key) (ServerEntry.confirms key) first ≤ 1 := by
  apply countSince_bounded_append (lifetimes.bounded key)
  rw [current]
  exact Bool.toNat_le registered

/-- An entry that neither adds nor ends a session. -/
theorem Lifetimes.record (lifetimes : state.Lifetimes) {entry : ServerEntry}
    (notAdded : ∀ session key reply, entry ≠ .answered session key true reply)
    (notEnded : ∀ session key removed, entry ≠ .ended session key removed)
    (answered : ∀ session key added reply, entry = .answered session key added reply →
      reply.status = added ∧ state.phase session = some .closed ∧
        ∀ key, ServerEntry.identified session key .failure ∉ state.history)
    (refused : ∀ session key, entry = .identified session key .failure →
      state.phase session = some .closed ∧ ∀ key added reply,
        ServerEntry.answered session key added reply ∉ state.history) :
    (state.record entry).Lifetimes := by
  have unremoved : ∀ key, entry.removes key = false := by
    intro key
    cases entry with
    | ended session publicKey removed => exact absurd rfl (notEnded session publicKey removed)
    | identified | answered => rfl
  have unconfirmed : ∀ key, entry.confirms key = false := by
    intro key
    cases entry with
    | answered session publicKey added reply =>
        have status := (answered session publicKey added reply rfl).1
        cases added with
        | true => exact absurd rfl (notAdded session publicKey reply)
        | false => rw [ServerEntry.confirms, status, Bool.and_false]
    | identified | ended => rfl
  have current : ∀ key, countSince (ServerEntry.removes key) (ServerEntry.confirms key)
      (state.history ++ [entry]) = (state.directory.lookup key).isSome.toNat := by
    intro key
    rw [lifetimes.countSince_record, unremoved, unconfirmed]
    rfl
  exact {
    directory := lifetimes.directory
    added := fun session key => by
      have unadded : ¬ ∃ reply, .answered session key true reply = entry :=
        fun ⟨reply, same⟩ => notAdded session key reply same.symm
      have unended : ¬ ∃ removed, .ended session key removed = entry :=
        fun ⟨removed, same⟩ => notEnded session key removed same.symm
      rw [added_record, ended_record, or_iff_left unadded, or_iff_left unended]
      exact lifetimes.added session key
    ended := fun session key removed member => by
      rcases mem_record.mp member with earlier | now
      · exact lifetimes.ended session key removed earlier
      · exact absurd now.symm (notEnded session key removed)
    answered := fun session key added reply member => by
      rcases mem_record.mp member with earlier | now
      · exact lifetimes.answered session key added reply earlier
      · obtain ⟨status, closed, _⟩ := answered session key added reply now.symm
        exact ⟨status, Or.inl closed⟩
    refused := fun session key member => by
      rcases mem_record.mp member with earlier | now
      · obtain ⟨closed, unanswered⟩ := lifetimes.refused session key earlier
        refine ⟨closed, fun other added reply member => ?_⟩
        rcases mem_record.mp member with before | last
        · exact unanswered other added reply before
        · exact (answered session other added reply last.symm).2.2 key earlier
      · obtain ⟨closed, unanswered⟩ := refused session key now.symm
        refine ⟨closed, fun other added reply member => ?_⟩
        rcases mem_record.mp member with before | last
        · exact unanswered other added reply before
        · rw [← now] at last
          cases last
    bounded := fun key => lifetimes.bounded_record (current key)
    current := current }

/-- A session is added under a key where none is registered, and is started. -/
theorem Lifetimes.connect (lifetimes : state.Lifetimes) {connection : SessionId} {key : String}
    (waiting : state.phase connection = some (.awaitAnswer key))
    (free : state.directory.lookup key = none) :
    (({ state with directory := state.directory.insert key connection }.setPhase connection
      (.reading key)).record (.answered connection key true { status := true })).Lifetimes := by
  have quiet : state.Quiet connection := quiet_of_waiting (Or.inr ⟨key, waiting⟩)
  have kept : ∀ session phase, state.phase session = some phase → session ≠ connection →
      (if session = connection then some (ConnectionPhase.reading key) else state.phase session) =
        some phase := by
    intro session phase there other
    rw [if_neg other, there]
  have current : ∀ other, countSince (ServerEntry.removes other) (ServerEntry.confirms other)
      (state.history ++ [.answered connection key true { status := true }]) =
        ((state.directory.insert key connection).lookup other).isSome.toNat := by
    intro other
    rw [lifetimes.countSince_record, UnorderedMap.lookup_insert_eq_ite]
    by_cases here : other = key
    · subst here
      simp only [free, ServerEntry.removes, ServerEntry.confirms, beq_self_eq_true, Bool.and_self,
        Bool.false_eq_true, ↓reduceIte, Option.isSome_none, Option.isSome_some, Bool.toNat_false,
        Bool.toNat_true, Nat.zero_add]
    · simp only [here, ServerEntry.removes, ServerEntry.confirms, beq_false_of_ne (Ne.symm here),
        Bool.false_and, Bool.false_eq_true, ↓reduceIte]
  constructor
  case directory =>
    intro other session
    simp only [record_directory, setPhase_directory, record_phase, setPhase_phase]
    rw [UnorderedMap.lookup_insert_eq_ite]
    by_cases here : other = key <;> by_cases mine : session = connection
    · subst here mine
      simp only [↓reduceIte]
    · subst here
      rw [if_pos rfl, if_neg mine, ← lifetimes.directory, free]
      exact iff_of_false (fun same => mine (Option.some.inj same).symm) nofun
    · subst mine
      rw [if_neg here, if_pos rfl, lifetimes.directory]
      refine iff_of_false (quiet.not_reading other) fun same => here ?_
      cases same
      rfl
    · rw [if_neg here, if_neg mine]
      exact lifetimes.directory other session
  case added =>
    intro session other
    have before : state.Added session other ↔ _ := lifetimes.added session other
    have unended : ¬ ∃ removed, ServerEntry.ended session other removed =
        .answered connection key true { status := true } := fun ⟨_, same⟩ => nomatch same
    rw [added_record, ended_record, or_iff_left unended]
    simp only [record_phase, setPhase_phase, setPhase_history]
    by_cases mine : session = connection
    · subst mine
      have notEnded : ¬ ∃ removed, ServerEntry.ended session other removed ∈ state.history :=
        fun ⟨removed, member⟩ => quiet.not_closed (lifetimes.ended _ _ _ member).1
      have notAdded : ¬ state.Added session other := fun added =>
        (before.mp added).elim (quiet.not_reading other) notEnded
      rw [if_pos rfl, or_iff_left notEnded]
      refine (or_iff_right notAdded).trans ⟨fun ⟨reply, same⟩ => ?_, fun same => ?_⟩
      · cases same
        rfl
      · cases same
        exact ⟨_, rfl⟩
    · have others : ¬ ∃ reply, ServerEntry.answered session other true reply =
          .answered connection key true { status := true } := by
        rintro ⟨reply, same⟩
        cases same
        exact mine rfl
      rw [if_neg mine]
      exact (or_iff_left others).trans before
  case ended =>
    intro session other removed member
    rcases mem_record.mp member with earlier | now
    · obtain ⟨closed, result⟩ := lifetimes.ended session other removed earlier
      simp only [record_phase, setPhase_phase]
      exact ⟨kept session _ closed (quiet.ne_of_closed closed), result⟩
    · cases now
  case answered =>
    intro session other added reply member
    simp only [record_phase, setPhase_phase]
    rcases mem_record.mp member with earlier | now
    · obtain ⟨status, closed | ⟨read, reading⟩⟩ :=
        lifetimes.answered session other added reply earlier
      · exact ⟨status, Or.inl (kept session _ closed (quiet.ne_of_closed closed))⟩
      · refine ⟨status, Or.inr ⟨read, kept session _ reading ?_⟩⟩
        rintro rfl
        exact quiet.not_reading read reading
    · cases now
      exact ⟨rfl, Or.inr ⟨key, if_pos rfl⟩⟩
  case refused =>
    intro session other member
    simp only [record_phase, setPhase_phase]
    rcases mem_record.mp member with earlier | now
    · obtain ⟨closed, unanswered⟩ := lifetimes.refused session other earlier
      refine ⟨kept session _ closed (quiet.ne_of_closed closed),
        fun another added reply answered => ?_⟩
      rcases mem_record.mp answered with before | last
      · exact unanswered another added reply before
      · cases last
        exact quiet.not_closed closed
    · cases now
  case bounded => exact fun other => lifetimes.bounded_record (current other)
  case current => exact current

/-- The read loop of a session ends, and the entry it removes is its own. -/
theorem Lifetimes.finish (lifetimes : state.Lifetimes) {connection : SessionId} {key : String}
    (serving : state.phase connection = some (.reading key)) :
    (({ state with directory := state.directory.erase key }.setPhase connection .closed).record
      (.ended connection key (state.directory.lookup key).isSome)).Lifetimes := by
  have own : state.directory.lookup key = some connection :=
    (lifetimes.directory key connection).mpr serving
  have only : ∀ other, state.phase connection = some (.reading other) → other = key := by
    intro other reading
    rw [serving] at reading
    cases reading
    rfl
  have closed : ∀ session, state.phase session = some .closed →
      (if session = connection then some ConnectionPhase.closed else state.phase session) =
        some .closed := by
    intro session before
    rw [before, ite_self]
  have current : ∀ other, countSince (ServerEntry.removes other) (ServerEntry.confirms other)
      (state.history ++ [.ended connection key (state.directory.lookup key).isSome]) =
        ((state.directory.erase key).lookup other).isSome.toNat := by
    intro other
    rw [lifetimes.countSince_record, UnorderedMap.lookup_erase_eq_ite]
    by_cases here : other = key
    · subst here
      simp only [own, ServerEntry.removes, beq_self_eq_true, Option.isSome_some, Bool.and_self,
        ↓reduceIte, Option.isSome_none, Bool.toNat_false]
    · simp only [here, ServerEntry.removes, ServerEntry.confirms, beq_false_of_ne (Ne.symm here),
        Bool.false_and, Bool.false_eq_true, ↓reduceIte]
  constructor
  case directory =>
    intro other session
    simp only [record_directory, setPhase_directory, record_phase, setPhase_phase,
      UnorderedMap.lookup_erase_eq_ite]
    by_cases here : other = key <;> by_cases mine : session = connection
    · rw [if_pos here, if_pos mine]
      exact iff_of_false nofun nofun
    · subst here
      rw [if_pos rfl, if_neg mine, ← lifetimes.directory, own]
      exact iff_of_false nofun fun same => mine (Option.some.inj same).symm
    · subst mine
      rw [if_neg here, if_pos rfl, lifetimes.directory]
      exact iff_of_false (fun reading => here (only other reading)) nofun
    · rw [if_neg here, if_neg mine]
      exact lifetimes.directory other session
  case added =>
    intro session other
    have unadded : ¬ ∃ reply, ServerEntry.answered session other true reply =
        .ended connection key (state.directory.lookup key).isSome := fun ⟨_, same⟩ => nomatch same
    rw [added_record, ended_record, or_iff_left unadded]
    simp only [record_phase, setPhase_phase, setPhase_history]
    refine (lifetimes.added session other).trans ?_
    by_cases mine : session = connection
    · subst mine
      rw [if_pos rfl]
      constructor
      · rintro (reading | ended)
        · rw [only other reading]
          exact Or.inr (Or.inr ⟨_, rfl⟩)
        · exact Or.inr (Or.inl ended)
      · rintro (wrong | ended | ⟨removed, same⟩)
        · cases wrong
        · exact Or.inr ended
        · cases same
          exact Or.inl serving
    · have others : ¬ ∃ removed, ServerEntry.ended session other removed =
          .ended connection key (state.directory.lookup key).isSome := by
        rintro ⟨removed, same⟩
        cases same
        exact mine rfl
      rw [if_neg mine, or_iff_left others]
  case ended =>
    intro session other removed member
    simp only [record_phase, setPhase_phase]
    rcases mem_record.mp member with earlier | now
    · obtain ⟨before, result⟩ := lifetimes.ended session other removed earlier
      exact ⟨closed session before, result⟩
    · cases now
      exact ⟨if_pos rfl, own ▸ rfl⟩
  case answered =>
    intro session other added reply member
    simp only [record_phase, setPhase_phase]
    rcases mem_record.mp member with earlier | now
    · obtain ⟨status, there⟩ := lifetimes.answered session other added reply earlier
      refine ⟨status, ?_⟩
      by_cases mine : session = connection
      · exact Or.inl (if_pos mine)
      · rw [if_neg mine]
        exact there
    · cases now
  case refused =>
    intro session other member
    simp only [record_phase, setPhase_phase]
    rcases mem_record.mp member with earlier | now
    · obtain ⟨before, unanswered⟩ := lifetimes.refused session other earlier
      refine ⟨closed session before, fun another added reply answered => ?_⟩
      rcases mem_record.mp answered with there | last
      · exact unanswered another added reply there
      · cases last
    · cases now
  case bounded => exact fun other => lifetimes.bounded_record (current other)
  case current => exact current

/-- Every step keeps directory, connections and history together. -/
theorem Lifetimes.step (lifetimes : state.Lifetimes)
    (stepped : Stepped parsers state event next) : next.Lifetimes := by
  cases stepped with
  | accepted fresh =>
      exact lifetimes.step_waiting (quiet_of_fresh fresh) _ nofun
  | dropped waiting => exact lifetimes.step_waiting (quiet_of_waiting waiting) _ nofun
  | @challenged connection ec buffer waiting free =>
      exact (lifetimes.step_waiting (quiet_of_waiting (Or.inl waiting)) (.awaitAnswer _)
        fun _ => nofun).record
        (fun _ _ _ => nofun) (fun _ _ _ => nofun) (fun _ _ _ _ => nofun) (fun _ _ => nofun)
  | @refused connection ec buffer waiting taken =>
      have quiet := quiet_of_waiting (Or.inl waiting)
      refine (lifetimes.step_waiting quiet .closed fun _ => nofun).record
        (fun _ _ _ => nofun) (fun _ _ _ => nofun) (fun _ _ _ _ => nofun) ?_
      rintro session key same
      cases same
      refine ⟨?_, fun key added reply member => ?_⟩
      · rw [setPhase_phase, if_pos rfl]
      · exact lifetimes.unanswered quiet member
  | connected waiting free => exact lifetimes.connect waiting free
  | @rejected connection publicKey ec buffer waiting taken =>
      have quiet := quiet_of_waiting (Or.inr ⟨publicKey, waiting⟩)
      refine (lifetimes.step_waiting quiet .closed fun _ => nofun).record (fun _ _ _ => nofun)
        (fun _ _ _ => nofun) ?_ (fun _ _ => nofun)
      rintro session key added reply same
      cases same
      refine ⟨rfl, ?_, fun key member => ?_⟩
      · rw [setPhase_phase, if_pos rfl]
      · exact quiet.not_closed (lifetimes.refused _ _ member).1
  | processed => exact lifetimes
  | ended serving failed => exact lifetimes.finish serving

theorem run_together {condition : ServerState → ServerEvent → Prop}
    {events : List ServerEvent}
    (run : RunWithin condition (ServerState.step parsers) initial events state) :
    state.Lifetimes :=
  run.invariant Lifetimes lifetimes_initial fun _ _ _ lifetimes _ taken =>
    lifetimes.step (stepped_of_step taken)

/-- The directory has the sessions that were added and did not end. -/
theorem Lifetimes.registered_iff (lifetimes : state.Lifetimes) (key : String)
    (session : SessionId) :
    state.directory.lookup key = some session ↔
      state.Added session key ∧ ¬ state.Ended session := by
  rw [lifetimes.directory, lifetimes.added]
  constructor
  · intro reading
    refine ⟨Or.inl reading, ?_⟩
    rintro ⟨_, _, member⟩
    rw [(lifetimes.ended _ _ _ member).1] at reading
    cases reading
  · rintro ⟨reading | ⟨removed, member⟩, running⟩
    · exact reading
    · exact absurd ⟨key, removed, member⟩ running

/-- A session that cannot read any more removes its own entry. -/
theorem Lifetimes.read_failed (lifetimes : state.Lifetimes) {session : SessionId} {key : String}
    (serving : state.phase session = some (.reading key)) {ec : ErrorCode}
    (failed : ec.failed = true) (buffer : Buffer) :
    state.directory.lookup key = some session ∧
      ∃ next, ServerState.step parsers state (.read session ec buffer) = some next ∧
        next.history = state.history ++ [.ended session key true] ∧
          ∀ other, next.directory.lookup other =
            if other = key then none else state.directory.lookup other := by
  have own := (lifetimes.directory key session).mpr serving
  refine ⟨own, ({ state with directory := state.directory.erase key }.setPhase session
    .closed).record (.ended session key true), ?_, rfl,
      UnorderedMap.lookup_erase_eq_ite state.directory key⟩
  simp only [ServerState.step, stepRead, serving, failed, AgentDirectory.remove,
    AgentDirectory.exist, own, Option.isSome_some, ↓reduceIte]

/-- A key that is read is answered, with `Failure` or with a phrase. -/
theorem receiveId_answered {connection : SessionId}
    (waiting : state.phase connection = some .awaitId) {ec : ErrorCode}
    (read : ec.failed = false) (buffer : Buffer) :
    ∃ next key reply, ServerState.step parsers state (.receiveId connection ec buffer) = some next ∧
      next.history = state.history ++ [.identified connection key reply] ∧
        (reply = .failure ∨ next.phase connection = some (.awaitAnswer key)) := by
  simp only [ServerState.step, stepReceiveId, waiting, CoreServer.newSession, read]
  cases taken : state.directory.exist (Pbs.deserialize parsers.id buffer).publicKey with
  | true => exact ⟨_, _, _, rfl, rfl, Or.inl rfl⟩
  | false => exact ⟨_, _, _, rfl, rfl, Or.inr (Function.update_self ..)⟩

/-- The answer to the phrase, when it is read, is answered `Connected`. -/
theorem receiveAnswer_answered {connection : SessionId} {key : String}
    (waiting : state.phase connection = some (.awaitAnswer key)) {ec : ErrorCode}
    (read : ec.failed = false) (buffer : Buffer) :
    ∃ next added, ServerState.step parsers state (.receiveAnswer connection ec buffer) = some next ∧
      next.history = state.history ++ [.answered connection key added { status := added }] := by
  simp only [ServerState.step, stepReceiveAnswer, waiting, CoreServer.secretHandshake_of_read read]
  exact ⟨_, _, rfl, rfl⟩

/-- **The directory and the lifetime of sessions.** In every state that is reached,
the directory has a session under a key exactly if it was added under it and its
read loop did not end. Between two removals of a key at most one handshake for it is
answered `Connected(true)`. What is read is answered: the key with `Failure`, which
ends the handshake, or with a phrase, and the answer to the phrase with
`Connected(false)` unless the session was added. A session that ends removes its own
entry and no other. -/
theorem run_lifetimes {events : List ServerEvent}
    (run : Run (ServerState.step parsers) initial events state) :
    (∀ key session, state.directory.lookup key = some session ↔
      state.Added session key ∧ ¬ state.Ended session) ∧
    (∀ key before between after, state.history = before ++ between ++ after →
      (∀ entry ∈ between, entry.removes key = false) →
        between.countP (ServerEntry.confirms key) ≤ 1) ∧
    (∀ session key added reply,
      ServerEntry.answered session key added reply ∈ state.history → reply.status = added) ∧
    (∀ session key, ServerEntry.identified session key .failure ∈ state.history →
      ∀ key added reply, ServerEntry.answered session key added reply ∉ state.history) ∧
    (∀ connection ec buffer, state.phase connection = some .awaitId → ec.failed = false →
      ∃ next key reply,
        ServerState.step parsers state (.receiveId connection ec buffer) = some next ∧
          next.history = state.history ++ [.identified connection key reply] ∧
            (reply = .failure ∨ next.phase connection = some (.awaitAnswer key))) ∧
    (∀ connection key ec buffer, state.phase connection = some (.awaitAnswer key) →
      ec.failed = false → ∃ next added,
        ServerState.step parsers state (.receiveAnswer connection ec buffer) = some next ∧
          next.history = state.history ++
            [.answered connection key added { status := added }]) ∧
    ∀ session key ec buffer, state.phase session = some (.reading key) → ec.failed = true →
      state.directory.lookup key = some session ∧
        ∃ next, ServerState.step parsers state (.read session ec buffer) = some next ∧
          next.history = state.history ++ [.ended session key true] ∧
            ∀ other, next.directory.lookup other =
              if other = key then none else state.directory.lookup other := by
  have lifetimes := run_together run
  refine ⟨lifetimes.registered_iff, ?_, ?_, ?_, ?_, ?_, ?_⟩
  · exact fun key before between after whole unremoved =>
      countP_between_le (lifetimes.bounded key) whole unremoved
  · exact fun session key added reply member =>
      (lifetimes.answered session key added reply member).1
  · exact fun session key member => (lifetimes.refused session key member).2
  · exact fun connection ec buffer waiting read => receiveId_answered waiting read buffer
  · exact fun connection key ec buffer waiting read => receiveAnswer_answered waiting read buffer
  · exact fun session key ec buffer serving failed => lifetimes.read_failed serving failed buffer

/-! ### Four handshakes for one key -/

/-- What protobuf makes of the messages of a handshake that have one field, a string
of one letter, or nothing. Both fields are required. -/
def shortParsers : HandshakeParsers where
  id
    | [0x0a, 0x01, letter] =>
        (letter < 128, { publicKey := String.singleton (Char.ofNat letter.toNat) })
    | _ => (false, { publicKey := "" })
  answer
    | [0x0a, 0x01, letter] =>
        (letter < 128, { answer := String.singleton (Char.ofNat letter.toNat) })
    | _ => (false, { answer := "" })

/-- Two connections claim "a" at once, a third one while the first is registered, and
a fourth one after the first broke. -/
def claimAgain : List ServerEvent :=
  [.accept 0, .accept 1, .receiveId 0 .success [0x0a, 0x01, 0x61],
    .receiveId 1 .success [0x0a, 0x01, 0x61], .receiveAnswer 0 .success [0x0a, 0x01, 0x62],
    .receiveAnswer 1 .success [0x0a, 0x01, 0x62], .accept 2,
    .receiveId 2 .success [0x0a, 0x01, 0x61], .read 0 ⟨104⟩ [], .accept 3,
    .receiveId 3 .success [0x0a, 0x01, 0x61], .receiveAnswer 3 .success [0x0a, 0x01, 0x62]]

/-- Where they lead. -/
def afterClaims : ServerState := (execute (step shortParsers) initial claimAgain).getD initial

/-- The fourth connection is registered, and when it breaks it removes itself. -/
theorem run_lifetimes_claimAgain :
    afterClaims.history = [.identified 0 "a" (.phrase "RandomlyGeneratedString"),
      .identified 1 "a" (.phrase "RandomlyGeneratedString"), .answered 0 "a" true ⟨true⟩,
      .answered 1 "a" false ⟨false⟩, .identified 2 "a" .failure, .ended 0 "a" true,
      .identified 3 "a" (.phrase "RandomlyGeneratedString"), .answered 3 "a" true ⟨true⟩] ∧
    (afterClaims.Added 3 "a" ∧ ¬ afterClaims.Ended 3) ∧
    (afterClaims.history.drop 6).countP (ServerEntry.confirms "a") ≤ 1 ∧
    ∃ next, step shortParsers afterClaims (.read 3 ⟨104⟩ []) = some next ∧
      next.directory.lookup "a" = none := by
  have executed : execute (step shortParsers) initial claimAgain = some afterClaims := rfl
  have lifetimes := run_lifetimes (run_of_execute executed)
  obtain ⟨registered, between, _, _, _, _, broken⟩ := lifetimes
  refine ⟨rfl, (registered "a" 3).mp rfl, ?_, ?_⟩
  · exact between "a" (afterClaims.history.take 6) _ [] rfl (by decide)
  · obtain ⟨_, next, taken, _, kept⟩ := broken 3 "a" ⟨104⟩ [] rfl rfl
    exact ⟨next, taken, (kept "a").trans (if_pos rfl)⟩

end ServerState

end OefCore
