/-!
# Hexadecimal digits

Digits of either case are read and lower-case ones are written.
-/

namespace EngineCall.Hex

def value? (c : Char) : Option Nat :=
  if '0' ≤ c && c ≤ '9' then some (c.toNat - '0'.toNat)
  else if 'a' ≤ c && c ≤ 'f' then some (c.toNat - 'a'.toNat + 10)
  else if 'A' ≤ c && c ≤ 'F' then some (c.toNat - 'A'.toNat + 10)
  else none

def digit (n : Nat) : Char := Nat.digitChar n

/-- A natural number without leading zeros. -/
def numeral (n : Nat) : List Char :=
  if n < 16 then [digit n] else numeral (n / 16) ++ [digit (n % 16)]

/-- The two digits of a byte. -/
def byteDigits (b : UInt8) : List Char := [digit (b.toNat / 16), digit (b.toNat % 16)]

/-- The digits of bytes. -/
def encode (bytes : List UInt8) : List Char := bytes.flatMap byteDigits

def byteOf (high low : Nat) : UInt8 := UInt8.ofNat (16 * high + low)

/-- The text behind the marker of a hexadecimal number. -/
def unmarked? : List Char → Option (List Char)
  | '0' :: 'x' :: rest => some rest
  | _ => none

/-- The marker of a hexadecimal number before its digits. -/
def marked (digits : List Char) : List Char := '0' :: 'x' :: digits

end EngineCall.Hex
