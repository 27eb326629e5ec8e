import EngineCall.Rpc.WireType

/-!
# Methods and their wire versions

A method is an operation of the Engine API; a wire version is one way to put it on the wire. The set
of wire versions is closed.
-/

namespace EngineCall

/-- An operation, whatever its version. -/
inductive Method where
  | newPayload
  | getPayload
  | forkchoiceUpdated
  | exchangeTransitionConfiguration
  | exchangeCapabilities
  | blockByHash
  | blockByNumber
  deriving DecidableEq, Repr

namespace Method

def all : List Method :=
  [.newPayload, .getPayload, .forkchoiceUpdated, .exchangeTransitionConfiguration,
    .exchangeCapabilities, .blockByHash, .blockByNumber]

@[simp] theorem mem_all (m : Method) : m ∈ all := by cases m <;> decide

/-- The number of methods before this one. -/
def order : Method → Nat
  | .newPayload => 0
  | .getPayload => 1
  | .forkchoiceUpdated => 2
  | .exchangeTransitionConfiguration => 3
  | .exchangeCapabilities => 4
  | .blockByHash => 5
  | .blockByNumber => 6

/-- The name of a method, without a version. -/
def name : Method → String
  | .newPayload => "engine_newPayload"
  | .getPayload => "engine_getPayload"
  | .forkchoiceUpdated => "engine_forkchoiceUpdated"
  | .exchangeTransitionConfiguration => "engine_exchangeTransitionConfiguration"
  | .exchangeCapabilities => "engine_exchangeCapabilities"
  | .blockByHash => "eth_getBlockByHash"
  | .blockByNumber => "eth_getBlockByNumber"

def ofName? (name : String) : Option Method := all.find? (·.name == name)

/-- The name on the wire; version zero stands for a method without versions. -/
def versionedName (m : Method) (version : UInt8) : String :=
  if version = 0 then m.name else s!"{m.name}V{version}"

/-- Whether a method belongs to the engine's own part of the interface. -/
def isEngine : Method → Bool
  | .blockByHash | .blockByNumber => false
  | _ => true

end Method

/-- One way to put a method on the wire. -/
inductive WireVersion where
  | newPayloadV1
  | newPayloadV2
  | newPayloadV3
  | getPayloadV1
  | getPayloadV2
  | getPayloadV3
  | forkchoiceUpdatedV1
  | forkchoiceUpdatedV2
  | exchangeTransitionConfigurationV1
  | exchangeCapabilities
  | blockByHash
  | blockByNumber
  deriving DecidableEq, Repr

namespace WireVersion

def method : WireVersion → Method
  | .newPayloadV1 | .newPayloadV2 | .newPayloadV3 => .newPayload
  | .getPayloadV1 | .getPayloadV2 | .getPayloadV3 => .getPayload
  | .forkchoiceUpdatedV1 | .forkchoiceUpdatedV2 => .forkchoiceUpdated
  | .exchangeTransitionConfigurationV1 => .exchangeTransitionConfiguration
  | .exchangeCapabilities => .exchangeCapabilities
  | .blockByHash => .blockByHash
  | .blockByNumber => .blockByNumber

/-- The number of a wire version, zero for a method without versions. -/
def version : WireVersion → UInt8
  | .newPayloadV1 | .getPayloadV1 | .forkchoiceUpdatedV1
  | .exchangeTransitionConfigurationV1 => 1
  | .newPayloadV2 | .getPayloadV2 | .forkchoiceUpdatedV2 => 2
  | .newPayloadV3 | .getPayloadV3 => 3
  | .exchangeCapabilities | .blockByHash | .blockByNumber => 0

/-- The name of a wire version, put together from its method and its number. -/
def name (w : WireVersion) : String := w.method.versionedName w.version

/-- The name that a request of a wire version carries, as the interface lists it. -/
def wireName : WireVersion → String
  | .newPayloadV1 => "engine_newPayloadV1"
  | .newPayloadV2 => "engine_newPayloadV2"
  | .newPayloadV3 => "engine_newPayloadV3"
  | .getPayloadV1 => "engine_getPayloadV1"
  | .getPayloadV2 => "engine_getPayloadV2"
  | .getPayloadV3 => "engine_getPayloadV3"
  | .forkchoiceUpdatedV1 => "engine_forkchoiceUpdatedV1"
  | .forkchoiceUpdatedV2 => "engine_forkchoiceUpdatedV2"
  | .exchangeTransitionConfigurationV1 => "engine_exchangeTransitionConfigurationV1"
  | .exchangeCapabilities => "engine_exchangeCapabilities"
  | .blockByHash => "eth_getBlockByHash"
  | .blockByNumber => "eth_getBlockByNumber"

/-- The listed names are the ones that methods and numbers make up. -/
theorem wireName_eq_name (w : WireVersion) : w.wireName = w.name := by cases w <;> rfl

def result : WireVersion → WireType
  | .newPayloadV1 | .newPayloadV2 | .newPayloadV3 => .payloadStatus
  | .getPayloadV1 => .executionPayloadV1
  | .getPayloadV2 => .builtV2
  | .getPayloadV3 => .builtV3
  | .forkchoiceUpdatedV1 | .forkchoiceUpdatedV2 => .forkchoiceResult
  | .exchangeTransitionConfigurationV1 => .transitionConfiguration
  | .exchangeCapabilities => .strings
  | .blockByHash | .blockByNumber => .blockOption

/-- How long an answer is waited for, in milliseconds. -/
def timeout (w : WireVersion) : Nat :=
  match w.method with
  | .newPayload | .forkchoiceUpdated => 8000
  | .getPayload => 2000
  | .exchangeTransitionConfiguration | .exchangeCapabilities | .blockByHash
  | .blockByNumber => 1000

end WireVersion

end EngineCall
