import EngineCall.Bytes.Fixed

/-!
# Fork choice

The fork choice a consensus client announces, and what an execution engine answers to it and to a
new payload.
-/

namespace EngineCall

open Json (Record Value)

/-- The blocks that the fork choice has settled on. -/
structure ForkchoiceState where
  headBlockHash : Hash
  safeBlockHash : Hash
  finalizedBlockHash : Hash
  deriving DecidableEq, Repr

inductive PayloadVerdict where
  | valid
  | invalid
  | syncing
  | accepted
  | invalidBlockHash
  deriving DecidableEq, Repr

/-- The verdict of an engine, with the last valid ancestor and the reason where it tells them. -/
structure PayloadStatus where
  status : PayloadVerdict
  latestValidHash : Option Hash
  validationError : Option String
  deriving DecidableEq, Repr

/-- The answer to a fork choice, with the payload that is being built, if one is. -/
structure ForkchoiceResult where
  payloadStatus : PayloadStatus
  payloadId : Option PayloadId
  deriving DecidableEq, Repr

namespace ForkchoiceState

def record : Record ForkchoiceState :=
  ForkchoiceState.mk
    <$> Record.required "headBlockHash" Hash.codec.decoder
    <*> Record.required "safeBlockHash" Hash.codec.decoder
    <*> Record.required "finalizedBlockHash" Hash.codec.decoder

def codec : Json.Codec ForkchoiceState where
  decoder := record.openDecoder "ForkchoiceState"
  encode s := .ofMembers [
    ("headBlockHash", Hash.codec.encode s.headBlockHash),
    ("safeBlockHash", Hash.codec.encode s.safeBlockHash),
    ("finalizedBlockHash", Hash.codec.encode s.finalizedBlockHash)]

end ForkchoiceState

namespace PayloadVerdict

def all : List PayloadVerdict := [.valid, .invalid, .syncing, .accepted, .invalidBlockHash]

def name : PayloadVerdict → String
  | .valid => "VALID"
  | .invalid => "INVALID"
  | .syncing => "SYNCING"
  | .accepted => "ACCEPTED"
  | .invalidBlockHash => "INVALID_BLOCK_HASH"

def codec : Json.Codec PayloadVerdict where
  decoder := Json.Decoder.enumeration (all.map fun v => (v.name, v))
  encode v := .string v.name

end PayloadVerdict

namespace PayloadStatus

def record : Record PayloadStatus :=
  PayloadStatus.mk
    <$> Record.required "status" PayloadVerdict.codec.decoder
    <*> Record.optional "latestValidHash" Hash.codec.decoder
    <*> Record.optional "validationError" Json.Decoder.string

def codec : Json.Codec PayloadStatus where
  decoder := record.openDecoder "PayloadStatusV1"
  encode s := .ofMembers [
    ("status", PayloadVerdict.codec.encode s.status),
    ("latestValidHash", (Json.Codec.nullable Hash.codec).encode s.latestValidHash),
    ("validationError", (Json.Codec.nullable Json.Codec.string).encode s.validationError)]

end PayloadStatus

namespace ForkchoiceResult

def record : Record ForkchoiceResult :=
  ForkchoiceResult.mk
    <$> Record.required "payloadStatus" PayloadStatus.codec.decoder
    <*> Record.optional "payloadId" PayloadId.codec.decoder

def codec : Json.Codec ForkchoiceResult where
  decoder := record.openDecoder "ForkchoiceUpdatedResult"
  encode r := .ofMembers [
    ("payloadStatus", PayloadStatus.codec.encode r.payloadStatus),
    ("payloadId", (Json.Codec.nullable PayloadId.codec).encode r.payloadId)]

end ForkchoiceResult

end EngineCall
