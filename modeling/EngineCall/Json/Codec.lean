import EngineCall.Json.Record

/-!
# Codecs

How a type is read from JSON and written to it.
-/

namespace EngineCall.Json

/-- A decoder and the encoder that goes with it. -/
structure Codec (α : Type) where
  decoder : Decoder α
  encode : α → Value

namespace Codec

variable {α : Type}

def decode (c : Codec α) (v : Value) : Except Failure α := c.decoder.fromValue v

/-- Decodes a text, which must hold nothing else. -/
def decodeText (c : Codec α) (s : String) : Except Failure α := c.decoder.fromText s

/-- Decoding followed by encoding, which brings every accepted spelling to the one that is written.
-/
def normal (c : Codec α) : Decoder Value := fun origin node => (c.decoder origin node).map c.encode

def value : Codec Value := ⟨Decoder.value, id⟩

def boolean : Codec Bool := ⟨Decoder.boolean, .bool⟩

def string : Codec String := ⟨Decoder.string, .string⟩

def uint64 : Codec UInt64 := ⟨Decoder.uint64, fun n => .ofNat n.toNat⟩

def uint32 : Codec UInt32 := ⟨Decoder.uint32, fun n => .ofNat n.toNat⟩

def uint8 : Codec UInt8 := ⟨Decoder.uint8, fun n => .ofNat n.toNat⟩

def int64 : Codec Int64 := ⟨Decoder.int64, fun n => .number (.integer n.toInt)⟩

def list (item : Codec α) : Codec (List α) where
  decoder := Decoder.list item.decoder
  encode items := .array (items.map item.encode)

def nullable (inner : Codec α) : Codec (Option α) where
  decoder := Decoder.nullable inner.decoder
  encode
    | some a => inner.encode a
    | none => .null

end Codec

end EngineCall.Json
