import OefCore.Server.Lifetime
import OefCore.Session.Machine

/-! # Messages that protobuf rejects

`pbs::deserialize` logs that a buffer was rejected and returns what was read of it.
None of its callers can tell, and all of them go on with the message. The three
handlers that read what agents send are compared with what they would do if a
rejected buffer had no effect: a key is refused, an answer to the phrase is refused,
and an envelope is ignored.

`OefCore.malformed_iff` says for which buffers they do that.
-/

namespace OefCore

namespace CoreServer

/-- A rejected key is answered `Failure`. -/
def RefusesKey (parse : ParseFromArray Agent.Server.ID) (directory : AgentDirectory)
    (buffer : Buffer) : Prop :=
  (parse buffer).1 = false →
    ∃ key, newSession parse directory .success buffer = some (key, .failure)

/-- A rejected answer to the phrase is answered `Connected(false)`, and no session is
added. -/
def RefusesAnswer (parse : ParseFromArray Agent.Server.Answer) (directory : AgentDirectory)
    (publicKey : String) (session : SessionId) (buffer : Buffer) : Prop :=
  (parse buffer).1 = false →
    ∃ added, secretHandshake parse directory publicKey session .success buffer =
      (directory, some (added, { status := false }))

/-- A rejected key is refused when the part of it that was read is registered. -/
theorem refusesKey_iff (parse : ParseFromArray Agent.Server.ID) (directory : AgentDirectory)
    (buffer : Buffer) :
    RefusesKey parse directory buffer ↔
      (parse buffer).1 = true ∨ directory.exist (parse buffer).2.publicKey = true := by
  unfold RefusesKey
  cases (parse buffer).1 with
  | true => exact iff_of_true nofun (Or.inl rfl)
  | false =>
      rw [or_iff_right Bool.false_ne_true, forall_prop_of_true rfl]
      unfold newSession Pbs.deserialize
      by_cases registered : directory.exist (parse buffer).2.publicKey = true
      · refine iff_of_true ⟨(parse buffer).2.publicKey, ?_⟩ registered
        simp only [registered, ErrorCode.success_failed, Bool.not_true, Bool.false_eq_true,
          ↓reduceIte]
      · refine iff_of_false (fun refused => ?_) registered
        obtain ⟨_, wrong⟩ := refused
        simp only [registered, ErrorCode.success_failed, Bool.not_false, Bool.false_eq_true,
          ↓reduceIte] at wrong
        cases wrong

/-- A rejected answer is refused when the key was registered meanwhile. -/
theorem refusesAnswer_iff (parse : ParseFromArray Agent.Server.Answer) (directory : AgentDirectory)
    (publicKey : String) (session : SessionId) (buffer : Buffer) :
    RefusesAnswer parse directory publicKey session buffer ↔
      (parse buffer).1 = true ∨ directory.exist publicKey = true := by
  unfold RefusesAnswer
  cases (parse buffer).1 with
  | true => exact iff_of_true nofun (Or.inl rfl)
  | false =>
      rw [or_iff_right Bool.false_ne_true, forall_prop_of_true rfl,
        secretHandshake_of_read ErrorCode.success_failed]
      unfold AgentDirectory.add
      by_cases registered : directory.exist publicKey = true
      · rw [if_pos registered]
        exact iff_of_true ⟨false, rfl⟩ registered
      · rw [if_neg registered]
        refine iff_of_false (fun refused => ?_) registered
        obtain ⟨_, wrong⟩ := refused
        cases congrArg Prod.snd wrong

end CoreServer

namespace AgentSession

variable {Double : Type}

/-- A rejected envelope leads to no request and to no message to another agent, and
leaves the description as it was. -/
def IgnoresEnvelope (parse : ParseFromArray (Envelope Double)) (directory : AgentDirectory)
    (self : AgentSession Double) (buffer : Buffer) : Prop :=
  (parse buffer).1 = false →
    (self.process parse directory buffer).1.description = self.description ∧
      (∀ call continuation,
        (self.process parse directory buffer).2 ≠ .request call continuation) ∧
      ∀ session message continuation,
        (self.process parse directory buffer).2 ≠ .forward session message continuation

/-- The payloads that a session does nothing about, or reports to its own agent. -/
def Idle (directory : AgentDirectory) (self : AgentSession Double) : Envelope.Payload Double → Prop
  | .sendMessage message => directory.lookup message.destination = none
  | .unregisterDescription => self.description = none
  | .payloadNotSet => True
  | .registerService _ | .unregisterService _ | .registerDescription _ | .searchAgents _
  | .searchServices _ | .searchServicesWide _ => False

/-- A rejected envelope is ignored when the part of it that was read is idle. -/
theorem ignoresEnvelope_iff (parse : ParseFromArray (Envelope Double)) (directory : AgentDirectory)
    (self : AgentSession Double) (buffer : Buffer) :
    IgnoresEnvelope parse directory self buffer ↔
      (parse buffer).1 = true ∨ Idle directory self (parse buffer).2.payload := by
  unfold IgnoresEnvelope process Pbs.deserialize
  cases (parse buffer).1 with
  | true => exact iff_of_true nofun (Or.inl rfl)
  | false =>
      rw [or_iff_right Bool.false_ne_true, forall_prop_of_true rfl]
      unfold processEnvelope
      cases (parse buffer).2.payload with
      | payloadNotSet => exact iff_of_true ⟨rfl, fun _ _ => nofun, fun _ _ _ => nofun⟩ trivial
      | sendMessage message =>
          simp only [processMessage, Idle]
          cases directory.lookup message.destination with
          | none => exact iff_of_true ⟨rfl, fun _ _ => nofun, fun _ _ _ => nofun⟩ rfl
          | some session =>
              exact iff_of_false (fun ignored => ignored.2.2 _ _ _ rfl) (Option.some_ne_none _)
      | unregisterDescription =>
          simp only [processUnregisterDescription, Idle]
          cases asked : self.description with
          | none => exact iff_of_true ⟨asked, fun _ _ => nofun, fun _ _ _ => nofun⟩ rfl
          | some description =>
              exact iff_of_false (fun ignored => ignored.2.1 _ _ rfl) (Option.some_ne_none _)
      | registerService | unregisterService | registerDescription | searchAgents | searchServices
      | searchServicesWide =>
          exact iff_of_false (fun ignored => ignored.2.1 _ _ rfl) not_false

end AgentSession

/-- **What is done about rejected messages.** A rejected buffer has no effect exactly
when the state happens to refuse what was read of it: the key that was read, or that
was claimed before, is registered already, or the payload that was read has nothing
to act on. -/
theorem malformed_iff {Double : Type} (parsers : HandshakeParsers)
    (parse : ParseFromArray (Envelope Double)) (directory : AgentDirectory) (buffer : Buffer) :
    (CoreServer.RefusesKey parsers.id directory buffer ↔
      (parsers.id buffer).1 = true ∨
        directory.exist (parsers.id buffer).2.publicKey = true) ∧
    (∀ publicKey session,
      CoreServer.RefusesAnswer parsers.answer directory publicKey session buffer ↔
        (parsers.answer buffer).1 = true ∨ directory.exist publicKey = true) ∧
    ∀ self : AgentSession Double,
      self.IgnoresEnvelope parse directory buffer ↔
        (parse buffer).1 = true ∨ self.Idle directory (parse buffer).2.payload :=
  ⟨CoreServer.refusesKey_iff parsers.id directory buffer,
    fun publicKey session =>
      CoreServer.refusesAnswer_iff parsers.answer directory publicKey session buffer,
    fun self => self.ignoresEnvelope_iff parse directory buffer⟩

/-- Alice, who is registered with an empty description. -/
def aliceDescribed : AgentSession Int where
  publicKey := "alice"
  description := some (Instance.ofMessage
    { model := { name := "", attributes := [], description := none }, values := [] })

/-- A connection whose two messages are empty is registered under the empty key and
confirmed, and an envelope without its id makes a session unregister its
description. -/
theorem malformed_handled :
    ServerState.shortParsers.id [] = (false, { publicKey := "" }) ∧
    ¬ CoreServer.RefusesKey ServerState.shortParsers.id ∅ [] ∧
    ServerState.shortParsers.answer [] = (false, { answer := "" }) ∧
    ¬ CoreServer.RefusesAnswer ServerState.shortParsers.answer ∅ "" 0 [] ∧
    ((execute (ServerState.step ServerState.shortParsers) .initial
      [.accept 0, .receiveId 0 .success [], .receiveAnswer 0 .success []]).map fun state =>
        state.directory.lookup "") = some (some 0) ∧
    CoreState.shortEnvelope [0x32, 0x00] =
      (false, { msgId := 0, payload := .unregisterDescription }) ∧
    ¬ aliceDescribed.IgnoresEnvelope CoreState.shortEnvelope ∅ [0x32, 0x00] := by
  refine ⟨rfl, fun refused => ?_, rfl, fun refused => ?_, rfl, rfl, fun ignored => ?_⟩
  · obtain ⟨_, wrong⟩ := refused rfl
    cases wrong
  · obtain ⟨_, wrong⟩ := refused rfl
    cases wrong
  · exact (ignored rfl).2.1 _ _ rfl

end OefCore
