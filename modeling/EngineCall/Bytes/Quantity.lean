import EngineCall.Hex
import EngineCall.Json.Codec

/-!
# Quantities

Natural numbers of 64 bits, written as a marked hexadecimal number without leading zeros.
-/

namespace EngineCall.Quantity

inductive Error where
  | unmarked (text : String)
  | empty
  | invalidDigit
  | overflow
  deriving DecidableEq, Repr

def Error.message : Error → String
  | .unmarked text => s!"Hex string did not start with `0x`: {text}"
  | .empty => "empty hex quantity"
  | .invalidDigit => "Failed to parse hex as u64: ParseIntError \x7b kind: InvalidDigit \x7d"
  | .overflow => "Failed to parse hex as u64: ParseIntError \x7b kind: PosOverflow \x7d"

/-- The least number that is too large. -/
def limit : Nat := UInt64.size

/-- Appends digits to a number. At each digit its being one is looked at before the size. -/
def appendDigits (n : Nat) : List Char → Except Error Nat
  | [] => .ok n
  | c :: rest =>
    match Hex.value? c with
    | none => .error .invalidDigit
    | some d => if 16 * n + d < limit then appendDigits (16 * n + d) rest else .error .overflow

/-- The number behind a marker. A plus sign may stand before the digits. -/
def magnitude : List Char → Except Error Nat
  | [] => .error .empty
  | '+' :: c :: rest => appendDigits 0 (c :: rest)
  | digits => appendDigits 0 digits

def parse (s : String) : Except Error UInt64 :=
  match Hex.unmarked? s.toList with
  | none => .error (.unmarked s)
  | some rest => (magnitude rest).map UInt64.ofNat

def print (n : UInt64) : String := String.ofList (Hex.marked (Hex.numeral n.toNat))

def codec : Json.Codec UInt64 where
  decoder := Json.Decoder.parsed fun s => (parse s).mapError Error.message
  encode n := .string (print n)

end EngineCall.Quantity
