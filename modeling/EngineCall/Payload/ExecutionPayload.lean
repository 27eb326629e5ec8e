import EngineCall.Bytes.Fixed
import EngineCall.Bytes.HexBytes
import EngineCall.Chain.Milestone
import EngineCall.Payload.Withdrawal

/-!
# Execution payloads

A payload in the shape of each wire version: Bellatrix, Capella with withdrawals, Deneb with blob
gas. Which shape a JSON value has is told by its fields alone.
-/

namespace EngineCall

open Json (Record Value)

/-- The Bellatrix payload, whose fields all later ones have. -/
structure PayloadV1 where
  parentHash : Hash
  feeRecipient : Address
  stateRoot : Hash
  receiptsRoot : Hash
  logsBloom : List UInt8
  prevRandao : Hash
  blockNumber : UInt64
  gasLimit : UInt64
  gasUsed : UInt64
  timestamp : UInt64
  extraData : List UInt8
  baseFeePerGas : Uint256
  blockHash : Hash
  transactions : List (List UInt8)
  deriving DecidableEq, Repr

/-- The Capella payload. -/
structure PayloadV2 extends PayloadV1 where
  withdrawals : List Withdrawal
  deriving DecidableEq, Repr

/-- The Deneb payload. -/
structure PayloadV3 extends PayloadV2 where
  blobGasUsed : UInt64
  excessBlobGas : UInt64
  deriving DecidableEq, Repr

/-- A payload of any version. -/
inductive ExecutionPayload where
  | v1 (p : PayloadV1)
  | v2 (p : PayloadV2)
  | v3 (p : PayloadV3)
  deriving DecidableEq, Repr

namespace PayloadV1

def record : Record PayloadV1 :=
  PayloadV1.mk
    <$> Record.required "parentHash" Hash.codec.decoder
    <*> Record.required "feeRecipient" Address.codec.decoder
    <*> Record.required "stateRoot" Hash.codec.decoder
    <*> Record.required "receiptsRoot" Hash.codec.decoder
    <*> Record.required "logsBloom" HexBytes.codec.decoder
    <*> Record.required "prevRandao" Hash.codec.decoder
    <*> Record.required "blockNumber" Quantity.codec.decoder
    <*> Record.required "gasLimit" Quantity.codec.decoder
    <*> Record.required "gasUsed" Quantity.codec.decoder
    <*> Record.required "timestamp" Quantity.codec.decoder
    <*> Record.required "extraData" HexBytes.codec.decoder
    <*> Record.required "baseFeePerGas" Uint256.codec.decoder
    <*> Record.required "blockHash" Hash.codec.decoder
    <*> Record.required "transactions" HexBytes.listCodec.decoder

/-- The members of a Bellatrix payload. -/
def members (p : PayloadV1) : List (String × Value) := [
  ("parentHash", Hash.codec.encode p.parentHash),
  ("feeRecipient", Address.codec.encode p.feeRecipient),
  ("stateRoot", Hash.codec.encode p.stateRoot),
  ("receiptsRoot", Hash.codec.encode p.receiptsRoot),
  ("logsBloom", HexBytes.codec.encode p.logsBloom),
  ("prevRandao", Hash.codec.encode p.prevRandao),
  ("blockNumber", Quantity.codec.encode p.blockNumber),
  ("gasLimit", Quantity.codec.encode p.gasLimit),
  ("gasUsed", Quantity.codec.encode p.gasUsed),
  ("timestamp", Quantity.codec.encode p.timestamp),
  ("extraData", HexBytes.codec.encode p.extraData),
  ("baseFeePerGas", Uint256.codec.encode p.baseFeePerGas),
  ("blockHash", Hash.codec.encode p.blockHash),
  ("transactions", HexBytes.listCodec.encode p.transactions)]

def codec : Json.Codec PayloadV1 where
  decoder := record.closedDecoder "ExecutionPayloadV1"
  encode p := .ofMembers p.members

end PayloadV1

namespace PayloadV2

def record : Record PayloadV2 :=
  PayloadV2.mk
    <$> PayloadV1.record
    <*> Record.required "withdrawals" (Json.Decoder.list Withdrawal.codec.decoder)

/-- The members of a Capella payload. -/
def members (p : PayloadV2) : List (String × Value) :=
  p.toPayloadV1.members ++
    [("withdrawals", (Json.Codec.list Withdrawal.codec).encode p.withdrawals)]

def codec : Json.Codec PayloadV2 where
  decoder := record.closedDecoder "ExecutionPayloadV2"
  encode p := .ofMembers p.members

end PayloadV2

namespace PayloadV3

def record : Record PayloadV3 :=
  PayloadV3.mk
    <$> PayloadV2.record
    <*> Record.required "blobGasUsed" Quantity.codec.decoder
    <*> Record.required "excessBlobGas" Quantity.codec.decoder

/-- The members of a Deneb payload. -/
def members (p : PayloadV3) : List (String × Value) :=
  p.toPayloadV2.members ++ [
    ("blobGasUsed", Quantity.codec.encode p.blobGasUsed),
    ("excessBlobGas", Quantity.codec.encode p.excessBlobGas)]

def codec : Json.Codec PayloadV3 where
  decoder := record.closedDecoder "ExecutionPayloadV3"
  encode p := .ofMembers p.members

end PayloadV3

namespace ExecutionPayload

/-- The fields that every version has. -/
def common : ExecutionPayload → PayloadV1
  | .v1 p => p
  | .v2 p => p.toPayloadV1
  | .v3 p => p.toPayloadV1

/-- The milestone whose blocks have payloads of this version. -/
def milestone : ExecutionPayload → Milestone
  | .v1 _ => .bellatrix
  | .v2 _ => .capella
  | .v3 _ => .deneb

/-- The payload as a Bellatrix one, if it is one. -/
def asV1? : ExecutionPayload → Option PayloadV1
  | .v1 p => some p
  | _ => none

/-- The payload as a Capella one, if it is one. -/
def asV2? : ExecutionPayload → Option PayloadV2
  | .v2 p => some p
  | _ => none

/-- The payload as a Deneb one, if it is one. -/
def asV3? : ExecutionPayload → Option PayloadV3
  | .v3 p => some p
  | _ => none

/-- The withdrawals, which payloads have from Capella on. -/
def withdrawals? : ExecutionPayload → Option (List Withdrawal)
  | .v1 _ => none
  | .v2 p => some p.withdrawals
  | .v3 p => some p.withdrawals

/-- The blob gas used, which payloads have from Deneb on. -/
def blobGasUsed? (p : ExecutionPayload) : Option UInt64 := p.asV3?.map (·.blobGasUsed)

/-- The excess blob gas, which payloads have from Deneb on. -/
def excessBlobGas? (p : ExecutionPayload) : Option UInt64 := p.asV3?.map (·.excessBlobGas)

def codec : Json.Codec ExecutionPayload where
  decoder := Json.Decoder.firstOf "ExecutionPayload" [
    fun o n => (PayloadV1.codec.decoder o n).map .v1,
    fun o n => (PayloadV2.codec.decoder o n).map .v2,
    fun o n => (PayloadV3.codec.decoder o n).map .v3]
  encode
    | .v1 p => PayloadV1.codec.encode p
    | .v2 p => PayloadV2.codec.encode p
    | .v3 p => PayloadV3.codec.encode p

end ExecutionPayload

end EngineCall
