import EngineCall.Bytes.Fixed
import EngineCall.Bytes.HexBytes

/-!
# Secrets

The key that a consensus client shares with its execution engine, as a file gives it: in
hexadecimal, with or without the marker, blanks around it.
-/

namespace EngineCall

/-- Whether a character has the Unicode property White_Space. -/
def Text.isBlank (c : Char) : Bool :=
  (0x09 ≤ c.toNat && c.toNat ≤ 0x0d) || (0x2000 ≤ c.toNat && c.toNat ≤ 0x200a) ||
    [0x20, 0x85, 0xa0, 0x1680, 0x2028, 0x2029, 0x202f, 0x205f, 0x3000].contains c.toNat

/-- A text without the blanks at both ends. -/
def Text.trimBlanks (s : List Char) : List Char :=
  ((s.dropWhile isBlank).reverse.dropWhile isBlank).reverse

/-- A secret of 32 bytes. -/
abbrev Secret := FixedBytes 32

namespace Secret

inductive Error where
  | digits (e : HexBytes.DigitError)
  | length (found : Nat)
  deriving DecidableEq, Repr

def Error.message : Error → String
  | .digits .oddLength => "Invalid hex secret: Odd number of digits"
  | .digits (.invalid c index) =>
    s!"Invalid hex secret: Invalid character {Text.quotedChar c} at position {index}"
  | .length found => s!"Invalid key length. Expected 32 got {found}"

/-- The secret of the given bytes, which must be 32. -/
def ofBytes (bytes : List UInt8) : Except Error Secret :=
  if h : bytes.length = 32 then .ok ⟨bytes, h⟩ else .error (.length bytes.length)

def ofHex (s : String) : Except Error Secret :=
  let trimmed := Text.trimBlanks s.toList
  let digits := (Hex.unmarked? trimmed).getD trimmed
  match HexBytes.ofDigits digits with
  | .ok bytes => ofBytes bytes
  | .error e => .error (.digits e)

/-- The text of a secret, without the marker. -/
def toHex (k : Secret) : String := String.ofList (Hex.encode k.bytes)

end Secret

end EngineCall
