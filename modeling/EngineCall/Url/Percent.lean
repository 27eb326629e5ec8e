import EngineCall.Hex
import EngineCall.Text.Utf8

/-!
# Percent encoding

Each part of a URL has a set of ASCII characters that are written as the percent-encoded bytes of
their UTF-8 form; whatever is not ASCII is always written so.
-/

namespace EngineCall.Url

abbrev CharSet := Char → Bool

/-- Controls. -/
def controlSet : CharSet := fun c => c.toNat < 0x20 || c.toNat = 0x7f

/-- What is encoded in a fragment. -/
def fragmentSet : CharSet := fun c => controlSet c || [' ', '"', '<', '>', '\x60'].contains c

/-- What is encoded in a path. -/
def pathSet : CharSet := fun c => fragmentSet c || ['#', '?', '\x7b', '\x7d'].contains c

/-- What is encoded in user names and passwords. -/
def userSet : CharSet := fun c =>
  pathSet c || ['/', ':', ';', '=', '@', '[', '\\', ']', '^', '|'].contains c

/-- What is encoded in a query. -/
def querySet : CharSet := fun c => controlSet c || [' ', '"', '#', '<', '>'].contains c

/-- What is encoded in the query of a special scheme. -/
def specialQuerySet : CharSet := fun c => querySet c || c = '\x27'

/-- An upper-case hexadecimal digit. -/
def upperDigit (n : Nat) : Char := (Hex.digit n).toUpper

/-- A byte as an escape. -/
def escapeByte (b : UInt8) : List Char :=
  ['%', upperDigit (b.toNat / 16), upperDigit (b.toNat % 16)]

/-- A character, encoded if it is not ASCII or belongs to the set. -/
def encodeChar (set : CharSet) (c : Char) : List Char :=
  if c.toNat < 0x80 && !set c then [c] else (String.utf8EncodeChar c).flatMap escapeByte

/-- A text, encoded character by character. -/
def percentEncode (set : CharSet) (s : List Char) : List Char := s.flatMap (encodeChar set)

def percentDecode : List Char → List UInt8
  | '%' :: a :: b :: rest =>
    match Hex.value? a, Hex.value? b with
    | some high, some low => Hex.byteOf high low :: percentDecode rest
    | _, _ => 0x25 :: percentDecode (a :: b :: rest)
  | c :: rest => String.utf8EncodeChar c ++ percentDecode rest
  | [] => []

end EngineCall.Url
