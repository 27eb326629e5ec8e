import EngineCall.Hex
import EngineCall.Json.Codec
import EngineCall.Text.Utf8

/-!
# Byte strings

Bytes of any number, written as pairs of hexadecimal digits.
-/

namespace EngineCall.HexBytes

inductive DigitError where
  | oddLength
  /-- The first character that is no digit, or its first byte, and where it stands. -/
  | invalid (c : Char) (index : Nat)
  deriving DecidableEq, Repr

/-- The bytes of an even number of digits; `index` counts the digits before them. -/
def pairs (index : Nat) : List Char → Except DigitError (List UInt8)
  | [] => .ok []
  | [c] =>
    match Hex.value? c with
    | none => .error (.invalid (Text.leadByte c) index)
    | some _ => .error .oddLength
  | a :: b :: rest =>
    match Hex.value? a, Hex.value? b with
    | none, _ => .error (.invalid (Text.leadByte a) index)
    | some _, none => .error (.invalid (Text.leadByte b) (index + 1))
    | some high, some low => (pairs (index + 2) rest).map (Hex.byteOf high low :: ·)

/-- The bytes of digits. The length, counted in bytes of text, is looked at first. -/
def ofDigits (digits : List Char) : Except DigitError (List UInt8) :=
  if Text.byteLength digits % 2 = 1 then .error .oddLength else pairs 0 digits

inductive Error where
  | unmarked (text : String)
  | digits (e : DigitError)
  deriving DecidableEq, Repr

def Error.message : Error → String
  | .unmarked text => s!"Hex string did not start with `0x`: {text}"
  | .digits .oddLength => "Failed to parse hex as bytes: OddLength"
  | .digits (.invalid c index) =>
    let place := s!"c: {Text.quotedChar c}, index: {index}"
    "Failed to parse hex as bytes: InvalidHexCharacter \x7b " ++ place ++ " \x7d"

def parse (s : String) : Except Error (List UInt8) :=
  match Hex.unmarked? s.toList with
  | none => .error (.unmarked s)
  | some digits => (ofDigits digits).mapError .digits

def print (bytes : List UInt8) : String := String.ofList (Hex.marked (Hex.encode bytes))

def codec : Json.Codec (List UInt8) where
  decoder := Json.Decoder.parsed fun s => (parse s).mapError Error.message
  encode bytes := .string (print bytes)

/-- Lists of byte strings in JSON. That all items are texts is looked at before any of them is read.
-/
def listCodec : Json.Codec (List (List UInt8)) where
  decoder := fun origin node => do
    let texts ← Json.Decoder.list Json.Decoder.string origin node
    texts.mapM fun s =>
      match parse s with
      | .ok bytes => .ok bytes
      | .error e => .error (.mismatch (.refused e.message))
  encode items := .array (items.map codec.encode)

end EngineCall.HexBytes
