import EngineCall.Bytes.HexBytes
import EngineCall.Bytes.Quantity
import EngineCall.Chain.Block
import EngineCall.Chain.ForkSchedule
import EngineCall.Chain.Forkchoice
import EngineCall.Chain.Transition
import EngineCall.Payload.Attributes
import EngineCall.Payload.Built
import EngineCall.Rpc.Envelope
import EngineCall.Token.Claims

/-!
# Wire types

The types that parameters and results are read as. A result of one type can be handed to a caller
who expects the same type, or to one who takes any JSON.
-/

namespace EngineCall

open Json (Decoder Value)

/-- A type that JSON is read as. -/
inductive WireType where
  | value
  | bool
  | u64
  | string
  | strings
  | quantity
  | hexBytes
  | hexBytesList
  | hash
  | hashes
  | address
  | payloadId
  | uint256
  | milestone
  | forkSchedule
  | forkConfig
  | withdrawal
  | executionPayload
  | executionPayloadV1
  | executionPayloadV2
  | executionPayloadV3
  | forkchoiceState
  | payloadAttributes
  | payloadAttributesV1
  | payloadAttributesV2
  | payloadAttributesV3
  | payloadVerdict
  | payloadStatus
  | forkchoiceResult
  | blobsBundle
  | builtV2
  | builtV3
  | transitionConfiguration
  | block
  | blockOption
  | blockQuery
  | rpcError
  | rpcResponse
  | claims
  deriving DecidableEq, Repr

namespace WireType

def payloadName (name : String) : String :=
  "engine_method_resolver::engine_api::execution_payload::" ++ name

def structureName (name : String) : String :=
  "engine_method_resolver::engine_api::json_structures::" ++ name

def name : WireType → String
  | .value => "serde_json::value::Value"
  | .bool => "bool"
  | .u64 => "u64"
  | .string => "alloc::string::String"
  | .strings => "alloc::vec::Vec<alloc::string::String>"
  | .quantity => "u64"
  | .hexBytes => "alloc::vec::Vec<u8>"
  | .hexBytesList => "alloc::vec::Vec<alloc::vec::Vec<u8>>"
  | .hash => "primitive_types::H256"
  | .hashes => "alloc::vec::Vec<primitive_types::H256>"
  | .address => "primitive_types::H160"
  | .payloadId => "ethereum_types::hash::H64"
  | .uint256 => "primitive_types::U256"
  | .milestone => "engine_method_resolver::engine_api::milestone::SpecMilestone"
  | .forkSchedule => "engine_method_resolver::engine_api::fork_schedule::ForkSchedule"
  | .forkConfig => "engine_method_resolver::engine_api::fork_schedule::ForkScheduleConfig"
  | .withdrawal => "engine_method_resolver::engine_api::withdrawal::Withdrawal"
  | .executionPayload => payloadName "ExecutionPayload"
  | .executionPayloadV1 => payloadName "ExecutionPayloadV1"
  | .executionPayloadV2 => payloadName "ExecutionPayloadV2"
  | .executionPayloadV3 => payloadName "ExecutionPayloadV3"
  | .forkchoiceState => structureName "ForkchoiceState"
  | .payloadAttributes => structureName "PayloadAttributes"
  | .payloadAttributesV1 => structureName "PayloadAttributesV1"
  | .payloadAttributesV2 => structureName "PayloadAttributesV2"
  | .payloadAttributesV3 => structureName "PayloadAttributesV3"
  | .payloadVerdict => structureName "PayloadStatusV1Status"
  | .payloadStatus => structureName "PayloadStatusV1"
  | .forkchoiceResult => structureName "ForkchoiceUpdatedResult"
  | .blobsBundle => structureName "BlobsBundleV1"
  | .builtV2 => structureName "GetPayloadV2Response"
  | .builtV3 => structureName "GetPayloadV3Response"
  | .transitionConfiguration => structureName "TransitionConfigurationV1"
  | .block => structureName "ExecutionBlock"
  | .blockOption => "core::option::Option<" ++ structureName "ExecutionBlock" ++ ">"
  | .blockQuery => structureName "BlockByNumberQuery"
  | .rpcError => structureName "JsonError"
  | .rpcResponse => structureName "JsonResponseBody"
  | .claims => "engine_method_resolver::engine_api::auth::Claims"

/-- Whether a result of this type can be handed to a caller who expects the other one. -/
def assignableTo (declared expected : WireType) : Bool :=
  declared == expected || expected == .value

/-- Reads a type and writes it again, which brings every accepted spelling to the one that is
written. -/
def normal : WireType → Decoder Value
  | .value => Json.Codec.value.normal
  | .bool => Json.Codec.boolean.normal
  | .u64 => Json.Codec.uint64.normal
  | .string => Json.Codec.string.normal
  | .strings => (Json.Codec.list Json.Codec.string).normal
  | .quantity => Quantity.codec.normal
  | .hexBytes => HexBytes.codec.normal
  | .hexBytesList => HexBytes.listCodec.normal
  | .hash => Hash.codec.normal
  | .hashes => (Json.Codec.list Hash.codec).normal
  | .address => Address.codec.normal
  | .payloadId => PayloadId.codec.normal
  | .uint256 => Uint256.codec.normal
  | .milestone => Milestone.codec.normal
  | .forkSchedule => ForkSchedule.codec.normal
  | .forkConfig => ForkConfig.codec.normal
  | .withdrawal => Withdrawal.codec.normal
  | .executionPayload => ExecutionPayload.codec.normal
  | .executionPayloadV1 => PayloadV1.codec.normal
  | .executionPayloadV2 => PayloadV2.codec.normal
  | .executionPayloadV3 => PayloadV3.codec.normal
  | .forkchoiceState => ForkchoiceState.codec.normal
  | .payloadAttributes => PayloadAttributes.codec.normal
  | .payloadAttributesV1 => AttributesV1.codec.normal
  | .payloadAttributesV2 => AttributesV2.codec.normal
  | .payloadAttributesV3 => AttributesV3.codec.normal
  | .payloadVerdict => PayloadVerdict.codec.normal
  | .payloadStatus => PayloadStatus.codec.normal
  | .forkchoiceResult => ForkchoiceResult.codec.normal
  | .blobsBundle => BlobsBundle.codec.normal
  | .builtV2 => BuiltV2.codec.normal
  | .builtV3 => BuiltV3.codec.normal
  | .transitionConfiguration => TransitionConfiguration.codec.normal
  | .block => ExecutionBlock.codec.normal
  | .blockOption => (Json.Codec.nullable ExecutionBlock.codec).normal
  | .blockQuery => BlockQuery.codec.normal
  | .rpcError => Rpc.ErrorObject.codec.normal
  | .rpcResponse => Rpc.ResponseBody.codec.normal
  | .claims => Claims.codec.normal

end WireType

end EngineCall
