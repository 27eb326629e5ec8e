import EngineCall.Json.Tree
import EngineCall.Text.Utf8

/-!
# Number literals

A literal is split into its digits first; its value follows. An integer of up to 64 bits keeps its
value. Anything else becomes a binary floating point number from a 64-bit significand, which takes
digits as long as it has room for them, and a power of ten.
-/

namespace EngineCall.Json

open Text (Transcript)

/-- The parts of a number literal; `fraction` and `exponent` are none where the literal lacks them.
-/
structure Numeral where
  negative : Bool
  whole : List Char
  fraction : Option (List Char)
  exponent : Option (Bool × List Char)
  deriving DecidableEq, Repr

namespace Numeral

def digitValue (c : Char) : Nat := c.toNat - '0'.toNat

def natValue (digits : List Char) : Nat := digits.foldl (fun n c => 10 * n + digitValue c) 0

/-- The least natural that a significand has no room for. -/
def room : Nat := UInt64.size

/-- Takes digits into a significand until one no longer fits; the result tells how many were taken.
-/
def absorb (significand taken : Nat) : List Char → Nat × Nat
  | [] => (significand, taken)
  | c :: rest =>
    let next := 10 * significand + digitValue c
    if next < room then absorb next (taken + 1) rest else (significand, taken)

/-- The signed exponent part. -/
def exponentValue (n : Numeral) : Int :=
  match n.exponent with
  | none => 0
  | some (negative, digits) => if negative then -(natValue digits : Int) else natValue digits

/-- The floating point number of a literal; none when it is beyond the largest one. -/
def toDouble? (n : Numeral) : Option Binary64 :=
  let (whole, taken) := absorb 0 0 n.whole
  let (significand, places) := absorb whole 0 (n.fraction.getD [])
  let shift : Int := (n.whole.length - taken : Nat)
  Binary64.ofDecimal? n.negative significand (shift - places + n.exponentValue)

/-- The greatest exponent that is read to its end. -/
def exponentLimit : Nat := 0x7fffffff

/-- Whether all digits are read of a literal that is beyond the range: the exponent is given up at
the digit that takes it beyond its limit. -/
def isReadWhole (n : Numeral) : Bool :=
  match n.exponent with
  | none => true
  | some (_, digits) => natValue digits.dropLast ≤ exponentLimit

/-- The number of a literal; none when it is out of range. A negative zero is a floating point
number, since no integer carries its sign. -/
def toNumber? (n : Numeral) : Option Number :=
  let magnitude := natValue n.whole
  if n.fraction.isSome || n.exponent.isSome then n.toDouble?.map .double
  else if n.negative then
    if 0 < magnitude && magnitude ≤ 0x8000000000000000 then some (.integer (-(magnitude : Int)))
    else n.toDouble?.map .double
  else if magnitude < room then some (.integer magnitude)
  else n.toDouble?.map .double

end Numeral

def isDigit (c : Char) : Bool := '0' ≤ c && c ≤ '9'

/-- The digits at the start of a text, and what stands behind them. -/
def scanDigits : Transcript → List Char × Transcript
  | some c :: rest =>
    if isDigit c then
      let (digits, rest) := scanDigits rest
      (c :: digits, rest)
    else ([], some c :: rest)
  | s => ([], s)

/-- The fault of a number literal: one that ends too early is noticed as such only by a reader. -/
def numeralFault (rest : Transcript) : Fault :=
  ⟨if rest.isEmpty then .truncated else .malformed, some .malformed, true, false⟩

/-- The exponent part of a literal, after its letter. -/
def scanExponent (s : Transcript) : Except Fault ((Bool × List Char) × Transcript) :=
  let (negative, s) := match s with
    | some '+' :: rest => (false, rest)
    | some '-' :: rest => (true, rest)
    | _ => (false, s)
  match scanDigits s with
  | ([], _) => .error (numeralFault s)
  | (digits, rest) => .ok ((negative, digits), rest)

/-- The optional exponent part of a literal. -/
def scanExponent? (s : Transcript) : Except Fault (Option (Bool × List Char) × Transcript) :=
  match s with
  | some c :: rest =>
    if c = 'e' || c = 'E' then (scanExponent rest).map fun (e, s) => (some e, s) else .ok (none, s)
  | _ => .ok (none, s)

/-- The optional fraction part of a literal. -/
def scanFraction? (s : Transcript) : Except Fault (Option (List Char) × Transcript) :=
  match s with
  | some '.' :: rest =>
    match scanDigits rest with
    | ([], _) => .error (numeralFault rest)
    | (digits, rest) => .ok (some digits, rest)
  | _ => .ok (none, s)

/-- A number literal, after its sign, and the text behind it. A leading zero stands alone. -/
def scanNumeral (negative : Bool) (s : Transcript) : Except Fault (Numeral × Transcript) :=
  let (whole, rest) := scanDigits s
  if whole.isEmpty then .error (numeralFault s)
  else if whole.head? = some '0' && whole.length > 1 then .error (.plain .malformed true)
  else
    match scanFraction? rest with
    | .error f => .error f
    | .ok (fraction, rest) =>
      match scanExponent? rest with
      | .error f => .error f
      | .ok (exponent, rest) => .ok (⟨negative, whole, fraction, exponent⟩, rest)

end EngineCall.Json
