import EngineCall.Json.Codec

/-!
# Claims

What a token claims: when it was issued and, if they are told, the identifier and the version of the
client that issued it.
-/

namespace EngineCall

open Json (Record Value)

structure Claims where
  /-- The time of issue, in seconds of the clock. -/
  iat : UInt64
  /-- The identifier of the client. -/
  id : Option String
  /-- The version of the client. -/
  clv : Option String
  deriving DecidableEq, Repr

namespace Claims

def record : Record Claims :=
  Claims.mk
    <$> Record.required "iat" Json.Decoder.uint64
    <*> Record.optional "id" Json.Decoder.string
    <*> Record.optional "clv" Json.Decoder.string

/-- A member for a text that may be missing. -/
def textMember (name : String) : Option String → List (String × Value)
  | some s => [(name, .string s)]
  | none => []

/-- Claims in JSON; what is not told is left out. -/
def codec : Json.Codec Claims where
  decoder := record.openDecoder "Claims"
  encode c := .object ([("iat", Json.Codec.uint64.encode c.iat)] ++
    textMember "id" c.id ++ textMember "clv" c.clv)

end Claims

end EngineCall
