import EngineCall.Hex
import EngineCall.Json.Value
import EngineCall.Number.Decimal

/-!
# Writing JSON text

Values without any blanks, members in the order of the value. A floating point number is written
with the fewest digits that read back, positionally while the point stays near its digits, and never
looks like an integer.
-/

namespace EngineCall.Json

/-- Positional text reaches from this many zeros behind the point … -/
def leastPoint : Int := -5

/-- … to this many digits before it. -/
def greatestPoint : Int := 16

def positional (digits : List Char) (point : Int) : List Char :=
  if point ≤ 0 then ['0', '.'] ++ List.replicate (-point).toNat '0' ++ digits
  else
    let padded := digits ++ List.replicate (point.toNat - digits.length) '0'
    let fraction := digits.drop point.toNat
    padded.take point.toNat ++ ['.'] ++ (if fraction.isEmpty then ['0'] else fraction)

/-- The text of digits with one of them before the point, and the exponent with its sign. -/
def scientific (digits : List Char) (point : Int) : List Char :=
  let exponent := point - 1
  let sign := if exponent < 0 then ['-'] else ['+']
  let fraction := digits.drop 1
  digits.take 1 ++ (if fraction.isEmpty then [] else '.' :: fraction) ++ ['e'] ++ sign ++
    Nat.toDigits 10 exponent.natAbs

def doubleText (x : Binary64) : List Char :=
  let d := Decimal.shortest x
  let point := d.pointAfter
  let magnitude :=
    if leastPoint < point && point ≤ greatestPoint then positional d.digits point
    else scientific d.digits point
  if x.negative then '-' :: magnitude else magnitude

def integerText (n : Int) : List Char :=
  if n < 0 then '-' :: Nat.toDigits 10 n.natAbs else Nat.toDigits 10 n.natAbs

def Number.toChars : Number → List Char
  | .integer n => integerText n
  | .double x => doubleText x

/-- A character inside a text literal. -/
def escapeChar (c : Char) : List Char :=
  if c = '"' then ['\\', '"']
  else if c = '\\' then ['\\', '\\']
  else if c = '\x08' then ['\\', 'b']
  else if c = '\x0c' then ['\\', 'f']
  else if c = '\n' then ['\\', 'n']
  else if c = '\r' then ['\\', 'r']
  else if c = '\t' then ['\\', 't']
  else if c.toNat < 0x20 then
    ['\\', 'u', '0', '0', Hex.digit (c.toNat / 16), Hex.digit (c.toNat % 16)]
  else [c]

/-- A text literal. -/
def literalChars (s : String) : List Char := '"' :: (s.toList.flatMap escapeChar ++ ['"'])

mutual

def Value.toChars : Value → List Char
  | .null => ['n', 'u', 'l', 'l']
  | .bool true => ['t', 'r', 'u', 'e']
  | .bool false => ['f', 'a', 'l', 's', 'e']
  | .number n => n.toChars
  | .string s => literalChars s
  | .array items => '[' :: (Value.itemChars items ++ [']'])
  | .object members => '\x7b' :: (Value.memberChars members ++ ['\x7d'])

def Value.itemChars : List Value → List Char
  | [] => []
  | [v] => v.toChars
  | v :: rest => v.toChars ++ ',' :: Value.itemChars rest

def Value.memberChars : List (String × Value) → List Char
  | [] => []
  | [(k, v)] => literalChars k ++ ':' :: v.toChars
  | (k, v) :: rest => literalChars k ++ ':' :: v.toChars ++ ',' :: Value.memberChars rest

end

def Value.toText (v : Value) : String := String.ofList v.toChars

end EngineCall.Json
