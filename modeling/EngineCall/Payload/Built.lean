import EngineCall.Payload.ExecutionPayload

/-!
# Built payloads

What an execution engine hands out for a payload it has built, in the shape of each wire version,
and one shape that all of them are brought to.
-/

namespace EngineCall

open Json (Record Value)

/-- The blobs that go with a Deneb payload. -/
structure BlobsBundle where
  commitments : List (List UInt8)
  proofs : List (List UInt8)
  blobs : List (List UInt8)
  deriving DecidableEq, Repr

/-- A payload with its value to the block builder. -/
structure BuiltV2 where
  executionPayload : ExecutionPayload
  blockValue : Uint256
  deriving DecidableEq, Repr

/-- A Deneb payload with its value and its blobs. -/
structure BuiltV3 where
  executionPayload : PayloadV3
  blockValue : Uint256
  blobsBundle : BlobsBundle
  shouldOverrideBuilder : Bool
  deriving DecidableEq, Repr

/-- A built payload, whatever version the engine was asked for. -/
structure BuiltPayload where
  executionPayload : ExecutionPayload
  blockValue : Uint256
  blobsBundle : Option BlobsBundle
  shouldOverrideBuilder : Bool
  deriving DecidableEq, Repr

namespace BlobsBundle

def record : Record BlobsBundle :=
  BlobsBundle.mk
    <$> Record.required "commitments" HexBytes.listCodec.decoder
    <*> Record.required "proofs" HexBytes.listCodec.decoder
    <*> Record.required "blobs" HexBytes.listCodec.decoder

def codec : Json.Codec BlobsBundle where
  decoder := record.openDecoder "BlobsBundleV1"
  encode b := .ofMembers [
    ("commitments", HexBytes.listCodec.encode b.commitments),
    ("proofs", HexBytes.listCodec.encode b.proofs),
    ("blobs", HexBytes.listCodec.encode b.blobs)]

end BlobsBundle

namespace BuiltV2

def record : Record BuiltV2 :=
  BuiltV2.mk
    <$> Record.required "executionPayload" ExecutionPayload.codec.decoder
    <*> Record.required "blockValue" Uint256.codec.decoder

def codec : Json.Codec BuiltV2 where
  decoder := record.openDecoder "GetPayloadV2Response"
  encode b := .ofMembers [
    ("executionPayload", ExecutionPayload.codec.encode b.executionPayload),
    ("blockValue", Uint256.codec.encode b.blockValue)]

end BuiltV2

namespace BuiltV3

def record : Record BuiltV3 :=
  BuiltV3.mk
    <$> Record.required "executionPayload" PayloadV3.codec.decoder
    <*> Record.required "blockValue" Uint256.codec.decoder
    <*> Record.required "blobsBundle" BlobsBundle.codec.decoder
    <*> Record.defaulted "shouldOverrideBuilder" Json.Decoder.boolean false

def codec : Json.Codec BuiltV3 where
  decoder := record.openDecoder "GetPayloadV3Response"
  encode b := .ofMembers [
    ("executionPayload", PayloadV3.codec.encode b.executionPayload),
    ("blockValue", Uint256.codec.encode b.blockValue),
    ("blobsBundle", BlobsBundle.codec.encode b.blobsBundle),
    ("shouldOverrideBuilder", .bool b.shouldOverrideBuilder)]

end BuiltV3

namespace BuiltPayload

/-- A bare Bellatrix payload: its engine reports no value, which counts as zero. -/
def ofV1 (p : PayloadV1) : BuiltPayload := ⟨.v1 p, 0, none, false⟩

/-- A payload with its value. -/
def ofV2 (b : BuiltV2) : BuiltPayload := ⟨b.executionPayload, b.blockValue, none, false⟩

/-- A Deneb payload with its blobs. -/
def ofV3 (b : BuiltV3) : BuiltPayload :=
  ⟨.v3 b.executionPayload, b.blockValue, some b.blobsBundle, b.shouldOverrideBuilder⟩

/-- Reads what an engine handed out when asked for a given version. -/
def decode (version : Nat) (v : Value) : Except Json.Failure BuiltPayload :=
  match version with
  | 1 => (PayloadV1.codec.decode v).map ofV1
  | 2 => (BuiltV2.codec.decode v).map ofV2
  | _ => (BuiltV3.codec.decode v).map ofV3

end BuiltPayload

end EngineCall
