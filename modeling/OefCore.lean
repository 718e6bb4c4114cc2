import OefCore.Lib.Ascending
import OefCore.Lib.BoolTree
import OefCore.Lib.ByteOrder
import OefCore.Lib.ComposedRead
import OefCore.Lib.CountSince
import OefCore.Lib.MessageStream
import OefCore.Lib.Positions
import OefCore.Lib.Resting
import OefCore.Lib.Run
import OefCore.Lib.SharedStream
import OefCore.Lib.UnorderedMap
import OefCore.Proto.Serialization
import OefCore.Proto.Query
import OefCore.Proto.Search
import OefCore.Proto.Agent
import OefCore.Schema.Instance
import OefCore.Schema.Constraint
import OefCore.Schema.TypeSoundness
import OefCore.Schema.Acceptance
import OefCore.Schema.RoundTrip
import OefCore.Schema.InstanceEquality
import OefCore.Schema.Hash
import OefCore.Schema.LeafAgreement
import OefCore.Schema.ModelMismatch
import OefCore.Schema.Duality
import OefCore.Schema.Evaluation
import OefCore.Schema.Builders
import OefCore.Schema.QueryText
import OefCore.Schema.Instantiate
import OefCore.Schema.Directory
import OefCore.Schema.MixedVersions
import OefCore.Schema.Data
import OefCore.Comm.Communicator
import OefCore.Comm.Writes
import OefCore.Comm.AgentStream
import OefCore.Comm.Reads
import OefCore.Search.Client
import OefCore.Search.Framing
import OefCore.Search.Machine
import OefCore.Search.Stream
import OefCore.Search.Reads
import OefCore.Comm.Transport
import OefCore.Search.AtMostOnce
import OefCore.Search.Delivery
import OefCore.Search.Misdelivery
import OefCore.Search.Causes
import OefCore.Search.ReceiveLoop
import OefCore.Search.Address
import OefCore.Search.ReceiveBounds
import OefCore.Search.ForwardedValues
import OefCore.Search.RequestContents
import OefCore.Session.AgentSession
import OefCore.Session.ClientMessages
import OefCore.Session.Messages
import OefCore.Session.Machine
import OefCore.Session.Answers
import OefCore.Session.Description
import OefCore.Session.Requests
import OefCore.Session.FailedDescription
import OefCore.Session.Confirmation
import OefCore.Session.SearchAnswers
import OefCore.Session.Due
import OefCore.Server.CoreServer
import OefCore.Server.Lifetime
import OefCore.Server.MalformedInput
import OefCore.Server.Interleaving
import OefCore.Server.Registration
import OefCore.Server.Refinement
import OefCore.Server.StatusFirst
import OefCore.Server.Routing
import OefCore.Server.Order
import OefCore.Server.Conversation
import OefCore.Server.System
import OefCore.Server.Components
import OefCore.Server.Rest
import OefCore.Server.Transcript
import OefCore.Server.Provenance
import OefCore.Server.Matchmaking
import OefCore.Server.Negotiation
import OefCore.Server.PassedOn
import OefCore.Server.ServiceAnswers
