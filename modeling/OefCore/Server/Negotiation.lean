import OefCore.Schema.QueryText
import OefCore.Server.Matchmaking
import OefCore.Server.Routing

/-! # Negotiations

A negotiation is a dialogue of two agents: one calls for proposals with a query, the other
one proposes instances, and so on. The core passes on what they say without looking at it,
once and under the name of the one who says it (`OefCore.NodeState.Says.relayed`).

So both sides understand the query and the proposals as they were written, each with its own
classes (`OefCore.NodeState.run_negotiation`).
-/

namespace OefCore

namespace NodeState

variable {Double : Type}

/-- What an agent reads of what another one says. -/
def heard (origin : String) (dialogueId msgId : UInt32) (payload : Agent.Message.Payload Double) :
    ServerMessage Double :=
  .agentMessage {
    answerId := msgId.toInt32
    payload := .content { dialogueId := dialogueId.toInt32, origin, payload } }

/-- An envelope for another agent is read by the session of its agent, while both agents are
registered. -/
inductive Says (parsers : NodeParsers Double) (speaker listener : SessionId)
    (origin destination : String) (envelope : Envelope Double) (next : NodeState Double) :
    Prop where
  | intro {events : List (NodeEvent Double)} {before : NodeState Double} {ec : ErrorCode}
      {buffer : Buffer} (run : Run (step parsers) initial events before)
      (speaks : before.directory.lookup origin = some speaker)
      (listens : before.directory.lookup destination = some listener) (read : ec.failed = false)
      (written : Pbs.deserialize parsers.envelope buffer = envelope)
      (taken : step parsers before (.read speaker ec buffer) = some next)

variable {parsers : NodeParsers Double} {next : NodeState Double}
  {speaker listener : SessionId} {origin destination : String}

/-- What is said is heard once, and by nobody else. -/
theorem Says.relayed {payload : Agent.Message.Payload Double} {dialogueId msgId : UInt32}
    (spoken : Says parsers speaker listener origin destination
      (ClientMsg.ofMessage payload dialogueId destination msgId) next) :
    SentOnce parsers next speaker
      ⟨listener, .envelope speaker, heard origin dialogueId msgId payload⟩ := by
  obtain ⟨run, speaks, listens, read, written, taken⟩ := spoken
  exact (run_sessions run).route_registered speaks read written taken listens

/-- **Negotiations mean what is written.** One agent calls for proposals with a query that is
written for a data model, the other one proposes instances of the data model. Each is sent the
words of the other one once. The query decides what its texts say of every instance that the
second one builds; and of the objects that the first one reads back, it accepts those whose
instances the texts accept as they were built, in the order in which they were proposed. -/
theorem run_negotiation [Doubles Double] (copyFrom : CopyFromMessage Double)
    {texts : List (Dsl Double)} {dm : DataModel} {query : Query.Model Double}
    {insts : List (Instance Double)} {buyer seller : SessionId} {buyerKey sellerKey : String}
    {cfpDialogue cfpId cfpTarget dialogue msgId target : UInt32}
    {afterCfp afterPropose : NodeState Double}
    (written : ∀ x ∈ Dsl.leavesAll texts, ∃ leaf : Leaf Double, x = leaf.object)
    (built : Dsl.query copyFrom texts dm = .ok query)
    (made : ∀ inst ∈ insts, ∃ values, Instance.make dm values = .ok inst)
    (calls : Says parsers buyer seller buyerKey sellerKey
      (ClientMsg.cfp cfpDialogue sellerKey (.query query) cfpId cfpTarget) afterCfp)
    (proposes : Says parsers seller buyer sellerKey buyerKey
      (ClientMsg.propose dialogue buyerKey (.instances insts) msgId target) afterPropose) :
    ∃ cfp objects,
      SentOnce parsers afterCfp buyer ⟨seller, .envelope buyer, heard buyerKey cfpDialogue cfpId
        (.fipa { target := cfpTarget.toInt32, msg := .cfp (.query cfp) })⟩ ∧
      SentOnce parsers afterPropose seller ⟨buyer, .envelope seller, heard sellerKey dialogue msgId
        (.fipa { target := target.toInt32, msg := .propose (.proposals objects) })⟩ ∧
      (∀ values inst, Instance.make dm values = .ok inst →
        (QueryModel.check cfp inst = true ↔ ∀ text ∈ texts, Dsl.Means inst text)) ∧
      List.Forall₂ (fun object inst => QueryModel.check cfp (Instance.ofMessage object) = true ↔
        ∀ text ∈ texts, Dsl.Means inst text) objects insts := by
  refine ⟨query, insts.map Instance.handle, calls.relayed, proposes.relayed, ?_, ?_⟩
  · intro values inst accepted
    exact Dsl.check_iff_means copyFrom written built accepted
  · rw [List.forall₂_map_left_iff]
    apply List.forall₂_same.mpr
    intro inst proposed
    obtain ⟨values, accepted⟩ := made inst proposed
    rw [Dsl.check_ofMessage accepted]
    exact Dsl.check_iff_means copyFrom written built accepted

section Market

attribute [local instance] wholeDoubles

open SystemState (market goods goodsOffer wanted wantedQuery offerBytes searchBytes)

/-- "a" calls for proposals, with the query of its search. -/
def cfpBytes : Buffer :=
  [0x08, 0x01, 0x12, 0x2a, 0x08, 0x05, 0x12, 0x01, 0x62, 0x22, 0x23, 0x08, 0x00, 0x12, 0x1f, 0x0a,
    0x1d] ++ searchBytes.drop 6

/-- "b" proposes the goods. -/
def proposeBytes : Buffer :=
  [0x08, 0x02, 0x12, 0x26, 0x08, 0x05, 0x12, 0x01, 0x61, 0x22, 0x1f, 0x08, 0x01, 0x1a, 0x1b, 0x0a,
    0x19, 0x0a, 0x17] ++ offerBytes.drop 6

/-- What protobuf makes of the two envelopes. -/
def negotiationParsers : NodeParsers Int where
  toHandshakeParsers := ServerState.shortParsers
  envelope buffer :=
    if buffer = cfpBytes then (true, ClientMsg.cfp 5 "b" (.query wantedQuery))
    else if buffer = proposeBytes then (true, ClientMsg.propose 5 "a" (.instances [goodsOffer]) 2 1)
    else (false, { msgId := 0, payload := .payloadNotSet })

/-- Where both are connected, and where that leads. -/
def negotiated (events : List (NodeEvent Int)) : NodeState Int :=
  (execute (step negotiationParsers) initial
    (connectBoth ++ [.handshake 1, .handshake 1] ++ events)).getD initial

/-- "a" calls for the goods of "b". -/
theorem run_negotiation_market : ∃ cfp objects,
    SentOnce negotiationParsers (negotiated [.read 0 .success cfpBytes]) 0
      ⟨1, .envelope 0, heard "a" 5 1
        (.fipa { target := (0 : UInt32).toInt32, msg := .cfp (.query cfp) })⟩ ∧
    SentOnce negotiationParsers (negotiated [.read 1 .success proposeBytes]) 1
      ⟨0, .envelope 1, heard "b" 5 2
        (.fipa { target := (1 : UInt32).toInt32, msg := .propose (.proposals objects) })⟩ ∧
    (∀ values inst, Instance.make market values = .ok inst →
      (QueryModel.check cfp inst = true ↔ ∀ text ∈ wanted, Dsl.Means inst text)) ∧
    List.Forall₂ (fun object inst => QueryModel.check cfp (Instance.ofMessage object) = true ↔
      ∀ text ∈ wanted, Dsl.Means inst text) objects [goodsOffer] := by
  have connected : execute (step negotiationParsers) initial
      (connectBoth ++ [.handshake 1, .handshake 1]) = some (negotiated []) := rfl
  have run := run_of_execute connected
  have cfpRead : Pbs.deserialize negotiationParsers.envelope cfpBytes =
      ClientMsg.cfp 5 "b" (.query wantedQuery) := rfl
  have proposeRead : Pbs.deserialize negotiationParsers.envelope proposeBytes =
      ClientMsg.propose 5 "a" (.instances [goodsOffer]) 2 1 := rfl
  have cfpTaken : step negotiationParsers (negotiated []) (.read 0 .success cfpBytes) =
      some (negotiated [.read 0 .success cfpBytes]) := rfl
  have proposeTaken : step negotiationParsers (negotiated []) (.read 1 .success proposeBytes) =
      some (negotiated [.read 1 .success proposeBytes]) := rfl
  refine run_negotiation Dsl.copyChecked ?_ (rfl : Dsl.query _ wanted market = .ok wantedQuery) ?_
    (.intro run rfl rfl rfl cfpRead cfpTaken) (.intro run rfl rfl rfl proposeRead proposeTaken)
  · intro x inside
    rw [wanted, Dsl.leavesAll, Dsl.leavesAll, List.append_nil, Dsl.leaves,
      List.mem_singleton] at inside
    exact ⟨_, inside⟩
  · intro inst proposed
    rw [List.mem_singleton.mp proposed]
    exact ⟨goods, rfl⟩

end Market

end NodeState

end OefCore
