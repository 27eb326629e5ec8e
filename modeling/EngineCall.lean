import EngineCall.Calls.Client
import EngineCall.Calls.Http
import EngineCall.Calls.History
import EngineCall.Proofs.Chain.MilestoneOrder
import EngineCall.Proofs.Calls.Declarations
import EngineCall.Proofs.Calls.Resolution
import EngineCall.Proofs.Chain.Schedule
import EngineCall.Proofs.Calls.SlotResolution
import EngineCall.Proofs.Calls.FutureForks
import EngineCall.Proofs.Calls.Exchange
import EngineCall.Proofs.Calls.Runs
import EngineCall.Proofs.Json.Values
import EngineCall.Proofs.Json.Members
import EngineCall.Proofs.Json.Records
import EngineCall.Proofs.Json.Codecs
import EngineCall.Proofs.Json.Decoders
import EngineCall.Proofs.Json.Shapes
import EngineCall.Proofs.Hex
import EngineCall.Proofs.Bytes.Quantity
import EngineCall.Proofs.Bytes.HexBytes
import EngineCall.Proofs.Bytes.Lossless
import EngineCall.Proofs.Payload.Fields
import EngineCall.Proofs.Payload.Shapes
import EngineCall.Proofs.Payload.RoundTrip
import EngineCall.Proofs.Calls.Names
import EngineCall.Proofs.Calls.Announced
import EngineCall.Proofs.Calls.CapabilityCache
import EngineCall.Proofs.Chain.Records
import EngineCall.Proofs.Calls.Canonical
import EngineCall.Proofs.Token.Base64
import EngineCall.Proofs.Token.Contents
import EngineCall.Proofs.Token.Validation
import EngineCall.Proofs.Endpoint.Origin
import EngineCall.Proofs.Json.Scalars
import EngineCall.Proofs.Json.Text
import EngineCall.Proofs.Json.OpenRecords
import EngineCall.Proofs.Rpc.Answers
import EngineCall.Proofs.Rpc.OpenStructures
import EngineCall.Proofs.Calls.Transports
import EngineCall.Proofs.Calls.Sending
import EngineCall.Proofs.Calls.ForkShapes
import EngineCall.Proofs.Payload.Built
import EngineCall.Proofs.Calls.BuiltPayloads
import EngineCall.Proofs.Calls.Construction
import EngineCall.Proofs.Chain.Defects
import EngineCall.Proofs.Json.ClosedRecords
import EngineCall.Proofs.Json.WrittenRecords
import EngineCall.Proofs.Chain.Configurations
import EngineCall.Proofs.Calls.Loading
import EngineCall.Proofs.Calls.BlockQueries
import EngineCall.Proofs.Token.Issued
import EngineCall.Proofs.Token.Secret
import EngineCall.Proofs.Endpoint.Outcomes
import EngineCall.Proofs.Calls.Refusals
import EngineCall.Proofs.Calls.ExchangeOutcomes
import EngineCall.Proofs.Rpc.Bodies
import EngineCall.Proofs.Calls.HttpOutcomes
