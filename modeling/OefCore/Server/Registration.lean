import OefCore.Server.Interleaving

/-! # Registered sessions

Which sessions the directory has while handshakes and read loops interleave: a session
is registered under its own key, from its addition on, and a session that reads is
registered (`OefCore.NodeState.Sessions`). `OefCore.NodeState.run_sessions` says so of
every state that is reached.
-/

namespace OefCore

namespace NodeState

variable {Double : Type} {parsers : NodeParsers Double} {state next : NodeState Double}

/-- The session was added under the key. -/
inductive Admitted (key : String) : HandshakeStage → Prop where
  | added {reply : Server.Connected} : Admitted key (.added key reply)
  | confirming {reply : Server.Connected} : Admitted key (.confirming key true reply)
  | confirmed : Admitted key (.confirmed key)

/-- How directory, handshakes, sessions and read loops belong together. -/
structure Sessions (state : NodeState Double) : Prop where
  own : ∀ key session, state.directory.lookup key = some session →
    ∃ self, state.session session = some self ∧ self.publicKey = key
  admitted : ∀ key session, state.directory.lookup key = some session →
    ∃ stage, state.stage session = some stage ∧ Admitted key stage
  added : ∀ key session reply, state.stage session = some (.added key reply) →
    state.directory.lookup key = some session ∧ state.readLoop session = .idle
  reading : ∀ session, state.readLoop session ≠ .idle →
    ∃ key, state.directory.lookup key = some session

theorem sessions_initial : (initial : NodeState Double).Sessions where
  own key session there := by
    rw [show (initial : NodeState Double).directory = ∅ from rfl, AList.lookup_empty] at there
    cases there
  admitted key session there := by
    rw [show (initial : NodeState Double).directory = ∅ from rfl, AList.lookup_empty] at there
    cases there
  added _ _ _ there := nomatch there
  reading _ busy := absurd rfl busy

namespace Sessions

variable {connection : SessionId} {key : String}

/-- What was sent, requested and written has no part in it. -/
theorem send (sessions : state.Sessions) (cause : Cause)
    (messages : List (ServerMessage Double)) :
    (state.send connection cause messages).Sessions :=
  ⟨sessions.own, sessions.admitted, sessions.added, sessions.reading⟩

/-- A session that is registered has the key it is registered under. -/
theorem publicKey_eq (sessions : state.Sessions)
    (there : state.directory.lookup key = some connection) {self : AgentSession Double}
    (current : state.session connection = some self) : self.publicKey = key := by
  obtain ⟨found, same, own⟩ := sessions.own key connection there
  rw [current] at same
  cases same
  exact own

/-- A session that reads is registered under its key. -/
theorem registered_of_busy (sessions : state.Sessions)
    (busy : state.readLoop connection ≠ .idle) {self : AgentSession Double}
    (current : state.session connection = some self) :
    state.directory.lookup self.publicKey = some connection := by
  obtain ⟨key, there⟩ := sessions.reading connection busy
  rw [sessions.publicKey_eq there current, there]

/-- The handshake of a connection goes on. -/
theorem setStage (sessions : state.Sessions) {stage : HandshakeStage}
    (kept : ∀ key old, state.stage connection = some old → Admitted key old → Admitted key stage)
    (notAdded : ∀ key reply, stage ≠ .added key reply) :
    (state.setStage connection stage).Sessions where
  own := sessions.own
  admitted key session there := by
    obtain ⟨old, before, admitted⟩ := sessions.admitted key session there
    rw [setStage_stage]
    split
    · rename_i same
      subst same
      exact ⟨stage, rfl, kept key old before admitted⟩
    · exact ⟨old, before, admitted⟩
  added key session reply there := by
    rw [setStage_stage] at there
    split at there
    · exact absurd (Option.some.inj there) (notAdded key reply)
    · exact sessions.added key session reply there
  reading := sessions.reading

/-- The handshake of a connection goes on that has no session in the directory. -/
theorem setStage_of_waiting (sessions : state.Sessions) {stage : HandshakeStage}
    (waiting : ∀ key old, state.stage connection = some old → ¬ Admitted key old)
    (notAdded : ∀ key reply, stage ≠ .added key reply) :
    (state.setStage connection stage).Sessions :=
  sessions.setStage (fun key old before admitted => absurd admitted (waiting key old before))
    notAdded

/-- A session changes and keeps its key. -/
theorem setSession (sessions : state.Sessions) {self : AgentSession Double}
    (own : ∀ key, state.directory.lookup key = some connection → self.publicKey = key) :
    (state.setSession connection self).Sessions where
  own key session there := by
    rw [setSession_session]
    split
    · rename_i same
      subst same
      exact ⟨self, rfl, own key there⟩
    · exact sessions.own key session there
  admitted := sessions.admitted
  added := sessions.added
  reading := sessions.reading

/-- A session that reads goes on reading. -/
theorem setReadLoop (sessions : state.Sessions) (busy : state.readLoop connection ≠ .idle)
    (readLoop : ReadLoop Double) : (state.setReadLoop connection readLoop).Sessions where
  own := sessions.own
  admitted := sessions.admitted
  added key session reply there := by
    obtain ⟨registered, idle⟩ := sessions.added key session reply there
    have different : session ≠ connection := fun same => busy (same ▸ idle)
    refine ⟨registered, ?_⟩
    rw [setReadLoop_readLoop, if_neg different, idle]
  reading session again := by
    rw [setReadLoop_readLoop] at again
    split at again
    · rename_i same
      subst same
      exact sessions.reading session busy
    · exact sessions.reading session again

/-- A session is added to the directory. -/
theorem add (sessions : state.Sessions)
    (waiting : state.stage connection = some (.awaitAnswer key))
    (free : state.directory.lookup key = none) (reply : Server.Connected) :
    (({ state with directory := state.directory.insert key connection }.setSession connection
      (.make key)).setStage connection (.added key reply)).Sessions := by
  have unregistered : ∀ other, state.directory.lookup other ≠ some connection := by
    intro other there
    obtain ⟨stage, here, admitted⟩ := sessions.admitted other connection there
    rw [waiting] at here
    cases here
    cases admitted
  have idle : state.readLoop connection = .idle := by
    by_contra busy
    obtain ⟨other, there⟩ := sessions.reading connection busy
    exact unregistered other there
  refine ⟨fun other session there => ?_, fun other session there => ?_,
    fun other session reply there => ?_, fun session busy => ?_⟩
  · change (state.directory.insert key connection).lookup other = some session at there
    change ∃ self, (state.setSession connection (.make key)).session session = some self ∧ _
    rw [UnorderedMap.lookup_insert_eq_ite] at there
    rw [setSession_session]
    split at there
    · rename_i same
      cases there
      exact ⟨.make key, if_pos rfl, same.symm⟩
    · have different : session ≠ connection := fun same => unregistered other (same ▸ there)
      rw [if_neg different]
      exact sessions.own other session there
  · change (state.directory.insert key connection).lookup other = some session at there
    rw [UnorderedMap.lookup_insert_eq_ite] at there
    rw [setStage_stage]
    split at there
    · rename_i same
      cases there
      exact ⟨_, if_pos rfl, same ▸ .added⟩
    · have different : session ≠ connection := fun same => unregistered other (same ▸ there)
      rw [if_neg different]
      exact sessions.admitted other session there
  · change (state.directory.insert key connection).lookup other = some session ∧
      state.readLoop session = .idle
    rw [UnorderedMap.lookup_insert_eq_ite]
    rw [setStage_stage] at there
    split at there
    · rename_i same
      cases there
      exact ⟨(if_pos rfl).trans (congrArg some same.symm), same ▸ idle⟩
    · obtain ⟨registered, idle⟩ := sessions.added other session reply there
      refine ⟨(if_neg fun same => ?_).trans registered, idle⟩
      rw [same, free] at registered
      cases registered
  · change ∃ other, (state.directory.insert key connection).lookup other = some session
    obtain ⟨other, there⟩ := sessions.reading session busy
    refine ⟨other, ?_⟩
    rw [UnorderedMap.lookup_insert_eq_ite, if_neg, there]
    intro same
    rw [same, free] at there
    cases there

/-- A session that was added is started. -/
theorem start (sessions : state.Sessions) {reply : Server.Connected}
    (there : state.stage connection = some (.added key reply)) :
    ((state.setReadLoop connection .reading).setStage connection
      (.confirming key true reply)).Sessions := by
  obtain ⟨registered, idle⟩ := sessions.added key connection reply there
  refine ⟨sessions.own, fun other session found => ?_, fun other session reply found => ?_,
    fun session busy => ?_⟩
  · obtain ⟨stage, before, admitted⟩ := sessions.admitted other session found
    rw [setStage_stage]
    split
    · rename_i same
      subst same
      rw [there] at before
      cases before
      cases admitted
      exact ⟨_, rfl, .confirming⟩
    · exact ⟨stage, before, admitted⟩
  · rw [setStage_stage] at found
    split at found
    · cases found
    · rename_i other
      obtain ⟨registered, idle⟩ := sessions.added _ session reply found
      refine ⟨registered, ?_⟩
      change (state.setReadLoop connection .reading).readLoop session = .idle
      rw [setReadLoop_readLoop, if_neg other, idle]
  · change (state.setReadLoop connection .reading).readLoop session ≠ .idle at busy
    rw [setReadLoop_readLoop] at busy
    split at busy
    · rename_i same
      exact ⟨key, same ▸ registered⟩
    · exact sessions.reading session busy

/-- A session that cannot read removes its own entry. -/
theorem remove (sessions : state.Sessions) (busy : state.readLoop connection ≠ .idle)
    {self : AgentSession Double} (current : state.session connection = some self) :
    ({ state with directory := state.directory.erase self.publicKey }.setReadLoop connection
      .idle).Sessions := by
  have registered := sessions.registered_of_busy busy current
  have kept : ∀ other session, session ≠ connection →
      state.directory.lookup other = some session →
        (state.directory.erase self.publicKey).lookup other = some session := by
    intro other session different there
    rw [UnorderedMap.lookup_erase_eq_ite, if_neg, there]
    intro same
    rw [same, registered] at there
    exact different (Option.some.inj there).symm
  have earlier : ∀ other session,
      (state.directory.erase self.publicKey).lookup other = some session →
        state.directory.lookup other = some session := by
    intro other session there
    rw [UnorderedMap.lookup_erase_eq_ite] at there
    split at there
    · cases there
    · exact there
  refine ⟨fun other session there => sessions.own other session (earlier other session there),
    fun other session there => sessions.admitted other session (earlier other session there),
    fun other session reply there => ?_, fun session again => ?_⟩
  · obtain ⟨registered, idle⟩ := sessions.added other session reply there
    have different : session ≠ connection := fun same => busy (same ▸ idle)
    refine ⟨kept other session different registered, ?_⟩
    rw [setReadLoop_readLoop, if_neg different]
    exact idle
  · rw [setReadLoop_readLoop] at again
    split at again
    · exact absurd rfl again
    · rename_i different
      obtain ⟨other, there⟩ := sessions.reading session again
      exact ⟨other, kept other session different there⟩

/-- An envelope leaves a registered session under its key. -/
theorem process (sessions : state.Sessions) {self after : AgentSession Double}
    (current : state.session connection = some self) {buffer : Buffer}
    {action : SessionAction Double}
    (processing : AgentSession.process parsers.envelope state.directory self buffer =
      (after, action)) : (state.setSession connection after).Sessions := by
  apply sessions.setSession
  intro key there
  have kept := AgentSession.processEnvelope_publicKey state.directory self
    (Pbs.deserialize parsers.envelope buffer)
  rw [AgentSession.process] at processing
  rw [processing] at kept
  exact kept.trans (sessions.publicKey_eq there current)

/-- One step keeps the sessions together. -/
theorem step (sessions : state.Sessions) {event : NodeEvent Double}
    (stepped : Stepped parsers state event next) : next.Sessions := by
  have busy : ∀ {session : SessionId} {readLoop : ReadLoop Double},
      state.readLoop session = readLoop → readLoop ≠ .idle → state.readLoop session ≠ .idle :=
    fun there different => there ▸ different
  have waiting : ∀ {session : SessionId} {stage : HandshakeStage},
      state.stage session = some stage → (∀ key, ¬ Admitted key stage) →
        ∀ key old, state.stage session = some old → ¬ Admitted key old := by
    intro session stage there different key old same
    rw [there] at same
    cases same
    exact different key
  cases stepped with
  | accepted fresh =>
      exact sessions.setStage_of_waiting (fun _ _ there => by rw [fresh] at there; cases there)
        nofun
  | unidentified there | identified there =>
      exact sessions.setStage_of_waiting (waiting there nofun) nofun
  | phraseSent there => exact (sessions.send _ _).setStage_of_waiting (waiting there nofun) nofun
  | failureSent there => exact (sessions.send _ _).setStage_of_waiting (waiting there nofun) nofun
  | unanswered there failed => exact sessions.setStage_of_waiting (waiting there nofun) nofun
  | added there read free => exact sessions.add there free _
  | @rejected connection publicKey ec buffer there =>
      have unregistered : ∀ key, state.directory.lookup key = some connection →
          (AgentSession.make publicKey : AgentSession Double).publicKey = key := by
        intro key registered
        obtain ⟨stage, here, admitted⟩ := sessions.admitted key connection registered
        exact absurd admitted (waiting there nofun key stage here)
      exact (sessions.setSession unregistered).setStage_of_waiting (waiting there nofun) nofun
  | started there => exact sessions.start there
  | @statusSent connection publicKey added reply there =>
      refine (sessions.send _ _).setStage (fun key old before admitted => ?_) fun key reply => ?_
      · cases there.symm.trans before
        cases admitted
        exact .confirmed
      · cases added with
        | true => exact nofun
        | false => exact nofun
  | ended reading there failed => exact sessions.remove (busy reading nofun) there
  | processed reading there read processing =>
      exact sessions.process there processing
  | requested reading there read processing =>
      have kept := sessions.process there processing
      exact ⟨kept.own, kept.admitted, kept.added, kept.reading⟩
  | answering reading there read processing =>
      exact (sessions.process there processing).setReadLoop
        (busy reading nofun) _
  | forwarding reading there read processing =>
      exact (sessions.process there processing).setReadLoop
        (busy reading nofun) _
  | answerSent answering => exact (sessions.send _ _).setReadLoop (busy answering nofun) _
  | forwarded forwarding =>
      have kept := sessions.setReadLoop (busy forwarding nofun) .reading
      exact ⟨kept.own, kept.admitted, kept.added, kept.reading⟩
  | written => exact ⟨sessions.own, sessions.admitted, sessions.added, sessions.reading⟩
  | @searchAnswered session self continuation ec response there waiting =>
      have kept := sessions.setSession fun key registered =>
        (AgentSession.answered_publicKey self continuation ec response).trans
          (sessions.publicKey_eq registered there)
      exact ⟨kept.own, kept.admitted, kept.added, kept.reading⟩

end Sessions

/-- The sessions belong together in every state that is reached. -/
theorem run_sessions {condition : NodeState Double → NodeEvent Double → Prop}
    {events : List (NodeEvent Double)}
    (run : RunWithin condition (step parsers) initial events state) : state.Sessions :=
  run.invariant Sessions sessions_initial fun _ _ _ sessions _ taken =>
    sessions.step (stepped_of_step taken)

end NodeState

end OefCore
