import EngineCall.Bytes.Fixed
import EngineCall.Bytes.Quantity

/-!
# Execution blocks

The part of a block that is looked at, and how a block is asked for by number.
-/

namespace EngineCall

open Json (Record Value)

structure ExecutionBlock where
  hash : Hash
  number : UInt64
  parentHash : Hash
  totalDifficulty : Uint256
  timestamp : UInt64
  deriving DecidableEq, Repr

/-- A block by its number or by a tag. -/
inductive BlockQuery where
  | number (n : UInt64)
  | tag (name : String)
  deriving DecidableEq, Repr

namespace ExecutionBlock

def record : Record ExecutionBlock :=
  ExecutionBlock.mk
    <$> Record.required "hash" Hash.codec.decoder
    <*> Record.required "number" Quantity.codec.decoder
    <*> Record.required "parentHash" Hash.codec.decoder
    <*> Record.required "totalDifficulty" Uint256.codec.decoder
    <*> Record.required "timestamp" Quantity.codec.decoder

def codec : Json.Codec ExecutionBlock where
  decoder := record.openDecoder "ExecutionBlock"
  encode b := .ofMembers [
    ("hash", Hash.codec.encode b.hash),
    ("number", Quantity.codec.encode b.number),
    ("parentHash", Hash.codec.encode b.parentHash),
    ("totalDifficulty", Uint256.codec.encode b.totalDifficulty),
    ("timestamp", Quantity.codec.encode b.timestamp)]

end ExecutionBlock

namespace BlockQuery

/-- Queries in JSON: a text that is a quantity is a number, any other text is a tag. -/
def codec : Json.Codec BlockQuery where
  decoder := Json.Decoder.firstOf "BlockByNumberQuery" [
    fun o n => (Quantity.codec.decoder o n).map .number,
    fun o n => (Json.Decoder.string o n).map .tag]
  encode
    | .number n => Quantity.codec.encode n
    | .tag name => .string name

end BlockQuery

end EngineCall
