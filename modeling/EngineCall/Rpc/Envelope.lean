import EngineCall.Json.Codec

/-!
# The JSON-RPC envelope

The body of a request and the body of its answer.
-/

namespace EngineCall.Rpc

open Json (Record Value)

/-- The version of the protocol. -/
def protocolVersion : String := "2.0"

/-- The code by which every engine reports a method it does not have. -/
def methodNotFound : Int64 := -32601

/-- The body of a request. -/
structure RequestBody where
  jsonrpc : String
  method : String
  params : Value
  id : Value
  deriving DecidableEq, Repr

/-- The error an engine reports. -/
structure ErrorObject where
  code : Int64
  message : String
  deriving DecidableEq, Repr

/-- The body of an answer. -/
structure ResponseBody where
  jsonrpc : String
  error : Option ErrorObject
  result : Value
  id : Value
  deriving DecidableEq, Repr

namespace RequestBody

/-- The body of a request for a method. -/
def of (method : String) (params : Value) : RequestBody :=
  ⟨protocolVersion, method, params, .ofNat 1⟩

/-- The members of a request stand in the order of the protocol's description. -/
def toValue (b : RequestBody) : Value :=
  .object [("jsonrpc", .string b.jsonrpc), ("method", .string b.method), ("params", b.params),
    ("id", b.id)]

def toText (b : RequestBody) : String := b.toValue.toText

end RequestBody

namespace ErrorObject

def record : Record ErrorObject :=
  ErrorObject.mk
    <$> Record.required "code" Json.Decoder.int64
    <*> Record.required "message" Json.Decoder.string

def codec : Json.Codec ErrorObject where
  decoder := record.openDecoder "JsonError"
  encode e := .ofMembers [
    ("code", Json.Codec.int64.encode e.code),
    ("message", .string e.message)]

end ErrorObject

namespace ResponseBody

/-- The fields of an answer; what stands for its result or error may be missing. -/
def record : Record ResponseBody :=
  ResponseBody.mk
    <$> Record.required "jsonrpc" Json.Decoder.string
    <*> Record.defaulted "error" (Json.Decoder.nullable ErrorObject.codec.decoder) none
    <*> Record.defaulted "result" Json.Decoder.value .null
    <*> Record.required "id" Json.Decoder.value

def codec : Json.Codec ResponseBody where
  decoder := record.openDecoder "JsonResponseBody"
  encode b := .ofMembers [
    ("jsonrpc", .string b.jsonrpc),
    ("error", (Json.Codec.nullable ErrorObject.codec).encode b.error),
    ("result", b.result),
    ("id", b.id)]

end ResponseBody

end EngineCall.Rpc
