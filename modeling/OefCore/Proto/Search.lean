import OefCore.Proto.Query

/-! # Messages of the search service

The messages of `search_transport.proto`, `search_update.proto`,
`search_remove.proto`, `search_query.proto` and `search_response.proto`, and the
result messages of `agent.proto` that are built from them. Fields that the core
neither sets nor reads are left out.
-/

namespace OefCore

/-- `TransportHeader`; of its status only the flag is read. -/
structure TransportHeader where
  uri : String
  id : UInt64
  success : Bool
  deriving DecidableEq, Repr

/-- `Update.Address`. -/
structure Update.Address where
  ip : String
  port : UInt32
  key : String
  signature : String
  deriving DecidableEq, Repr

/-- An `Update.Attribute` named `NETWORK_ADDRESS`; its value has type 10 and
holds an address. -/
structure Update.Attribute where
  type : Int32
  address : Update.Address
  deriving DecidableEq, Repr

/-- `Update.DataModelInstance`. -/
structure Update.DataModelInstance (Double : Type) where
  key : String
  model : Query.DataModel
  values : List (Query.KeyValue Double)
  deriving DecidableEq

structure Update (Double : Type) where
  key : String
  attributes : List Update.Attribute
  dataModels : List (Update.DataModelInstance Double)
  deriving DecidableEq

structure Remove where
  key : String
  all : Bool
  dataModels : List Query.DataModel
  deriving DecidableEq, Repr

structure SearchQuery (Double : Type) where
  sourceKey : String
  model : Query.Model Double
  ttl : UInt32

/-- `UpdateResponse.ResponseType`. Values without a name can arrive as well. -/
inductive UpdateResponse.ResponseType where
  | success
  | missingAddress
  | invalidAttribute
  | error
  | unknown (value : Int32)
  deriving DecidableEq, Repr

structure UpdateResponse where
  status : UpdateResponse.ResponseType
  deriving DecidableEq, Repr

/-- `RemoveResponse.ResponseType`. -/
inductive RemoveResponse.ResponseType where
  | success
  | notFound
  | error
  | unknown (value : Int32)
  deriving DecidableEq, Repr

structure RemoveResponse where
  status : RemoveResponse.ResponseType
  deriving DecidableEq, Repr

/-- `SearchResponse.Item.AgentInfo` and its copy in `Server.SearchResultWide`. -/
structure AgentInfo (Double : Type) where
  key : String
  score : Double
  deriving DecidableEq, Repr

/-- `SearchResponse.Item` and its copy in `Server.SearchResultWide`. -/
structure SearchItem (Double : Type) where
  key : String
  ip : String
  port : UInt32
  info : String
  distance : Double
  agents : List (AgentInfo Double)
  deriving DecidableEq, Repr

structure SearchResponse (Double : Type) where
  result : List (SearchItem Double)
  deriving DecidableEq, Repr

/-- `Server.SearchResultWide`. -/
structure SearchResultWide (Double : Type) where
  result : List (SearchItem Double)
  deriving DecidableEq, Repr

/-- `kOefSearchResponse`. -/
inductive OefSearchResponse.Kind where
  | nothing
  | lSearchAgts
  | wSearchAgts
  deriving DecidableEq, Repr

structure OefSearchResponse (Double : Type) where
  agents : List String := []
  searchResultWide : SearchResultWide Double := ⟨[]⟩
  type : OefSearchResponse.Kind := .nothing
  deriving DecidableEq, Repr

namespace OefSearchResponse

variable {Double : Type}

/-- The constructor from the agents of a local search. -/
def ofAgents (agts : List String) : OefSearchResponse Double :=
  { agents := agts, type := .lSearchAgts }

/-- The constructor from the result of a wide search. -/
def ofWide (wsr : SearchResultWide Double) : OefSearchResponse Double :=
  { searchResultWide := wsr, type := .wSearchAgts }

end OefSearchResponse

end OefCore
