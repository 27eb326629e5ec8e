import EngineCall.Hex
import EngineCall.Json.Codec
import EngineCall.Text.Utf8

/-!
# Byte strings of a fixed length

Hashes, addresses and payload identifiers. The marker may be missing when they are read; blanks
among the digits count for the length but carry no digit, so that the bytes fill up from the left
and the rest stays zero. Natural numbers of 256 bits are read in the same way, from up to 32 bytes.
-/

namespace EngineCall

/-- A string of `n` bytes. -/
structure FixedBytes (n : Nat) where
  bytes : List UInt8
  length_eq : bytes.length = n
  deriving DecidableEq, Repr

abbrev Hash := FixedBytes 32

/-- An account address of 20 bytes. -/
abbrev Address := FixedBytes 20

/-- The identifier of a payload under construction. -/
abbrev PayloadId := FixedBytes 8

namespace FixedBytes

/-- The first `n` bytes of a list, zeros standing for missing ones. -/
def ofList (n : Nat) (bytes : List UInt8) : FixedBytes n where
  bytes := (bytes ++ List.replicate n 0).take n
  length_eq := by simp

def zero (n : Nat) : FixedBytes n := ofList n []

/-- The lengths of text a reader accepts. -/
inductive Width where
  | exactly (bytes : Nat)
  | upTo (bytes : Nat)

def Width.admits : Width → Nat → Bool
  | .exactly n, digits => digits == 2 * n
  | .upTo n, digits => 0 < digits && digits ≤ 2 * n

/-- What a text of the width is called. -/
def Width.describe (w : Width) : String :=
  let length := match w with
    | .exactly n => s!"{n} bytes"
    | .upTo n => s!"between (0; {n}] bytes"
  s!"a (both 0x-prefixed or not) hex string or byte array containing {length}"

inductive Error where
  | length (found : Nat)
  | invalid (c : Char) (index : Nat)
  deriving DecidableEq, Repr

/-- A blank among the digits. -/
def isFiller (c : Char) : Bool := c = ' ' || c = '\r' || c = '\n' || c = '\t'

/-- The values of the digits of a text that may hold blanks; `index` counts the characters before.
-/
def digitValues (index : Nat) : List Char → Except Error (List Nat)
  | [] => .ok []
  | c :: rest =>
    if isFiller c then digitValues (index + 1) rest
    else
      match Hex.value? c with
      | none => .error (.invalid (Text.leadByte c) index)
      | some d => (digitValues (index + 1) rest).map (d :: ·)

/-- The bytes of digit values in pairs; a last one without a partner is dropped. -/
def pairUp : List Nat → List UInt8
  | high :: low :: rest => Hex.byteOf high low :: pairUp rest
  | _ => []

/-- The bytes of a text that is held to a width. If the text is of odd length, its first digit
stands alone. -/
def read (w : Width) (s : List Char) : Except Error (List UInt8) := do
  let (digits, start) := match Hex.unmarked? s with
    | some rest => (rest, 2)
    | none => (s, 0)
  let length := Text.byteLength digits
  if w.admits length then
    let values ← digitValues start digits
    return pairUp (if length % 2 = 1 then 0 :: values else values)
  else .error (.length length)

/-- The decoder of a byte string held to a width. -/
def decoder {α : Type} (w : Width) (make : List UInt8 → α) : Json.Decoder α := fun origin node => do
  let s ← Json.Decoder.text w.describe origin node
  match read w s.toList with
  | .ok bytes => .ok (make bytes)
  | .error (.length found) => .error (.mismatch (.invalidLength found w.describe))
  | .error (.invalid c index) =>
    let shown := String.singleton c
    .error (.mismatch (.refused s!"invalid hex character: {shown}, at {index}"))

def print {n : Nat} (x : FixedBytes n) : String :=
  String.ofList (Hex.marked (Hex.encode x.bytes))

def codec (n : Nat) : Json.Codec (FixedBytes n) where
  decoder := decoder (.exactly n) (ofList n)
  encode x := .string x.print

end FixedBytes

def Hash.codec : Json.Codec Hash := FixedBytes.codec 32

def Address.codec : Json.Codec Address := FixedBytes.codec 20

def PayloadId.codec : Json.Codec PayloadId := FixedBytes.codec 8

/-- A natural number of 256 bits. -/
abbrev Uint256 := BitVec 256

namespace Uint256

/-- The number of bytes, the first of them the most significant. -/
def ofBytes (bytes : List UInt8) : Uint256 :=
  BitVec.ofNat 256 (bytes.foldl (fun n b => 256 * n + b.toNat) 0)

/-- A number in hexadecimal, marked, without leading zeros. -/
def print (n : Uint256) : String := String.ofList (Hex.marked (Hex.numeral n.toNat))

/-- Numbers are read from texts of up to 32 bytes. -/
def codec : Json.Codec Uint256 where
  decoder := FixedBytes.decoder (.upTo 32) ofBytes
  encode n := .string (print n)

end Uint256

end EngineCall
