import OefCore.Schema.QueryText
import OefCore.Server.Provenance
import OefCore.Session.ClientMessages

/-! # Offers and searches meet

An offer that an agent registers and the query of a search go separate ways: through the
constructors of the client, over a connection, through a session and the search client
into two payloads for the search service. Whoever reads both payloads with the classes of
this library finds that the query matches the offer exactly when the texts of the query
say so of the values of the offer (`OefCore.SystemState.run_matches`).
-/

namespace OefCore

variable {Double : Type}

/-- The instance that a data model of an Update describes. -/
def Update.DataModelInstance.instance (dm : Update.DataModelInstance Double) : Instance Double :=
  Instance.ofMessage { model := dm.model, values := dm.values }

namespace SystemState

/-- A request registers a data model instance, on behalf of some agent. -/
def Registers (state : SystemState Double) (id : RequestId) (agent : String)
    (dm : Update.DataModelInstance Double) : Prop :=
  ∃ request write update, state.search.issued id = some ⟨request, write⟩ ∧
    request.agent = agent ∧ request.payload = .update update ∧ update.dataModels = [dm]

/-- A request searches, on behalf of some agent. -/
def Searches (state : SystemState Double) (id : RequestId) (agent : String)
    (query : SearchQuery Double) : Prop :=
  ∃ request write, state.search.issued id = some ⟨request, write⟩ ∧
    request.agent = agent ∧ request.payload = .search query

variable {host : ByteOrder} {external : External Double} {parsers : NodeParsers Double}
  {coreId coreIpAddr : String} {corePort : UInt32} {events : List (SystemEvent Double)}
  {state : SystemState Double}

section Reads

variable {id : RequestId} {session : SessionId} {self : AgentSession Double}
  {before : SystemState Double} {envelope : Envelope Double}

/-- An offer that was read is registered as it is. -/
theorem registers_of_read
    (run : Run (SystemState.step host external parsers)
      (initial (.make coreId coreIpAddr corePort)) events state)
    (read : EnvelopeRead host external parsers (.make coreId coreIpAddr corePort) events id
      session self before envelope) {msgId : UInt32} {inst : Instance Double}
    (offer : envelope = ClientMsg.register msgId inst ∨
      envelope = ClientMsg.description msgId inst) :
    ∃ agent, before.node.directory.lookup agent = some session ∧
      state.Registers id agent
        { key := OefSearchClient.cStr agent, model := inst.handle.model
          values := inst.handle.values } := by
  have served := request_of_read run read
  have asks : envelope.payload.asks self.description = true := by
    rcases offer with rfl | rfl
    · rfl
    · rfl
  rw [if_pos asks] at served
  obtain ⟨request, write, issued, registered, _, uri, _, asked⟩ := served
  refine ⟨request.agent, registered, request, write, ?_⟩
  rcases offer with rfl | rfl
  · generalize request.payload = requested at asked
    cases asked
    exact ⟨_, issued, rfl, rfl, rfl⟩
  · generalize request.payload = requested at asked
    cases asked
    exact ⟨_, issued, rfl, rfl, rfl⟩

/-- A query that was read is passed on as it is, for a local search. -/
theorem searches_of_read
    (run : Run (SystemState.step host external parsers)
      (initial (.make coreId coreIpAddr corePort)) events state)
    (read : EnvelopeRead host external parsers (.make coreId coreIpAddr corePort) events id
      session self before envelope) {msgId : UInt32} {query : Query.Model Double}
    (search : envelope = ClientMsg.searchServices msgId query ∨
      envelope = ClientMsg.searchAgents msgId query) :
    ∃ agent, before.node.directory.lookup agent = some session ∧
      state.Searches id agent { sourceKey := coreId, model := query, ttl := 1 } := by
  have served := request_of_read run read
  have asks : envelope.payload.asks self.description = true := by
    rcases search with rfl | rfl
    · rfl
    · rfl
  rw [if_pos asks] at served
  obtain ⟨request, write, issued, registered, _, uri, _, asked⟩ := served
  refine ⟨request.agent, registered, request, write, issued, rfl, ?_⟩
  rcases search with rfl | rfl
  · generalize request.payload = requested at asked
    cases asked
    rfl
  · generalize request.payload = requested at asked
    cases asked
    rfl

end Reads

variable [Doubles Double]

/-- **Offers and searches meet.** An agent registers an instance of a data model, another one
searches with a query written for the data model. Both envelopes have their requests, in the
names of the two agents; and the query of the one matches the instance of the other exactly
when the texts of the query say so of the instance as it was built. -/
theorem run_matches (copyFrom : CopyFromMessage Double) {texts : List (Dsl Double)}
    {dm : DataModel} {query : Query.Model Double}
    {values : UnorderedMap String (VariantType Double)} {inst : Instance Double}
    {offerId searchId : RequestId} {seller buyer : SessionId}
    {offering searching : AgentSession Double} {beforeOffer beforeSearch : SystemState Double}
    {offerMsgId searchMsgId : UInt32} {offer search : Envelope Double}
    (run : Run (SystemState.step host external parsers)
      (initial (.make coreId coreIpAddr corePort)) events state)
    (written : ∀ x ∈ Dsl.leavesAll texts, ∃ leaf : Leaf Double, x = leaf.object)
    (built : Dsl.query copyFrom texts dm = .ok query)
    (made : Instance.make dm values = .ok inst)
    (offered : offer = ClientMsg.register offerMsgId inst ∨
      offer = ClientMsg.description offerMsgId inst)
    (searched : search = ClientMsg.searchServices searchMsgId query ∨
      search = ClientMsg.searchAgents searchMsgId query)
    (offerRead : EnvelopeRead host external parsers (.make coreId coreIpAddr corePort) events
      offerId seller offering beforeOffer offer)
    (searchRead : EnvelopeRead host external parsers (.make coreId coreIpAddr corePort) events
      searchId buyer searching beforeSearch search) :
    ∃ sellerKey buyerKey dmi searchQuery,
      beforeOffer.node.directory.lookup sellerKey = some seller ∧
      beforeSearch.node.directory.lookup buyerKey = some buyer ∧
      state.Registers offerId sellerKey dmi ∧ dmi.key = OefSearchClient.cStr sellerKey ∧
      state.Searches searchId buyerKey searchQuery ∧
      (QueryModel.check searchQuery.model dmi.instance = true ↔
        ∀ text ∈ texts, Dsl.Means inst text) := by
  obtain ⟨sellerKey, sells, registers⟩ := registers_of_read run offerRead offered
  obtain ⟨buyerKey, buys, searches⟩ := searches_of_read run searchRead searched
  refine ⟨sellerKey, buyerKey, _, _, sells, buys, registers, rfl, searches, ?_⟩
  change QueryModel.check query (Instance.ofMessage inst.handle) = true ↔ _
  rw [Dsl.check_ofMessage made]
  exact Dsl.check_iff_means copyFrom written built made

section Market

attribute [local instance] wholeDoubles

/-- A data model with one attribute. -/
def market : DataModel where
  handle := { name := "m", attributes := [{ name := "a", type := .bool, required := false }] }
  unique := by decide

def goods : UnorderedMap String (VariantType Int) := AList.insert "a" (.bool true) ∅

def goodsOffer : Instance Int where
  handle := { model := market.handle, values := [⟨"a", .kB true⟩] }
  values := goods

/-- Whatever has the attribute. -/
def wanted : List (Dsl Int) := [.constraint "a" (Leaf.object (.relation .eq (.bool true)))]

def wantedQuery : Query.Model Int where
  constraints := Dsl.messages wanted
  model := some market.handle

/-- The offer and the search as they are serialized. -/
def offerBytes : Buffer :=
  [0x08, 0x01, 0x1a, 0x19, 0x0a, 0x17, 0x0a, 0x0c, 0x0a, 0x01, 0x6d, 0x12, 0x07, 0x0a, 0x01, 0x61,
    0x10, 0x02, 0x18, 0x00, 0x12, 0x07, 0x0a, 0x01, 0x61, 0x12, 0x02, 0x18, 0x01]

def searchBytes : Buffer :=
  [0x08, 0x02, 0x3a, 0x1f, 0x0a, 0x1d, 0x0a, 0x0d, 0x22, 0x0b, 0x0a, 0x01, 0x61, 0x22, 0x06, 0x08,
    0x00, 0x12, 0x02, 0x18, 0x01, 0x12, 0x0c, 0x0a, 0x01, 0x6d, 0x12, 0x07, 0x0a, 0x01, 0x61, 0x10,
    0x02, 0x18, 0x00]

/-- What protobuf makes of the two envelopes. -/
def marketParsers : NodeParsers Int where
  toHandshakeParsers := ServerState.shortParsers
  envelope buffer :=
    if buffer = offerBytes then (true, ClientMsg.register 1 goodsOffer)
    else if buffer = searchBytes then (true, ClientMsg.searchServices 2 wantedQuery)
    else (false, { msgId := 0, payload := .payloadNotSet })

/-- "a" and "b" connect. -/
def bothConnect : List (SystemEvent Int) :=
  (NodeState.connectBoth ++ [NodeEvent.handshake 1, .handshake 1]).map .node

/-- "a" makes its offer, and "b" searches. -/
def trade : List (SystemEvent Int) :=
  bothConnect ++ [.node (.read 0 .success offerBytes), .node (.read 1 .success searchBytes)]

/-- The state after so many steps. -/
def traded (steps : Nat) : SystemState Int :=
  (execute (SystemState.step .little SearchState.shortExternal marketParsers)
    (initial SearchState.pluto) (trade.take steps)).getD (initial SearchState.pluto)

/-- The search of "b" matches the offer of "a". -/
theorem run_matches_market : ∃ sellerKey buyerKey dmi searchQuery,
    (traded 12).node.directory.lookup sellerKey = some 0 ∧
    (traded 13).node.directory.lookup buyerKey = some 1 ∧
    (traded 14).Registers 0 sellerKey dmi ∧ dmi.key = OefSearchClient.cStr sellerKey ∧
    (traded 14).Searches 1 buyerKey searchQuery ∧
    (QueryModel.check searchQuery.model dmi.instance = true ↔
      ∀ text ∈ wanted, Dsl.Means goodsOffer text) := by
  have connected : execute (SystemState.step .little SearchState.shortExternal marketParsers)
      (initial SearchState.pluto) bothConnect = some (traded 12) := rfl
  have offered : execute (SystemState.step .little SearchState.shortExternal marketParsers)
      (initial SearchState.pluto) (bothConnect ++ [.node (.read 0 .success offerBytes)]) =
        some (traded 13) := rfl
  have searched : execute (SystemState.step .little SearchState.shortExternal marketParsers)
      (initial SearchState.pluto) trade = some (traded 14) := rfl
  refine run_matches Dsl.copyChecked (run_of_execute searched) ?_ rfl
    (rfl : Instance.make market goods = .ok goodsOffer) (Or.inl rfl) (Or.inl rfl)
    (.intro rfl (run_of_execute connected) rfl rfl rfl)
    (.intro rfl (run_of_execute offered) rfl rfl rfl)
  intro x inside
  rw [wanted, Dsl.leavesAll, Dsl.leavesAll, List.append_nil, Dsl.leaves,
    List.mem_singleton] at inside
  exact ⟨_, inside⟩

end Market

end SystemState

end OefCore
