import EngineCall.Hex

/-!
# IPv6 addresses in URLs

Eight pieces of 16 bits; one run of zeros may be left out, and the last two pieces may be written as
an IPv4 address.
-/

namespace EngineCall.Url.Ipv6

/-- What has been read of an address: its pieces, and after how many of them the run that is left
out stands, if it has been met. -/
structure Partial where
  pieces : List Nat
  gap : Option Nat

/-- The address of what has been read, the gap filled with zeros. -/
def Partial.complete? (p : Partial) : Option (List Nat) :=
  match p.gap with
  | some place =>
    some (p.pieces.take place ++ List.replicate (8 - p.pieces.length) 0 ++ p.pieces.drop place)
  | none => if p.pieces.length = 8 then some p.pieces else none

/-- Splits off up to `n` hexadecimal digits. -/
def hexPiece : Nat → Nat → List Char → Nat × List Char
  | 0, value, s => (value, s)
  | _ + 1, value, [] => (value, [])
  | n + 1, value, c :: rest =>
    match Hex.value? c with
    | some d => hexPiece n (16 * value + d) rest
    | none => (value, c :: rest)

/-- A decimal byte without a leading zero, and the text behind it. -/
def decimalByte? (s : List Char) : Option (Nat × List Char) :=
  let digits := s.takeWhile fun c => '0' ≤ c && c ≤ '9'
  let value := digits.foldl (fun n c => 10 * n + (c.toNat - '0'.toNat)) 0
  if digits.isEmpty || (digits.length > 1 && digits.head? = some '0') || value > 255 then none
  else some (value, s.dropWhile fun c => '0' ≤ c && c ≤ '9')

/-- Four decimal bytes between dots, and nothing behind them. -/
def decimalBytes? (count : Nat) (s : List Char) : Option (List Nat) :=
  match count with
  | 0 => if s.isEmpty then some [] else none
  | count + 1 => do
    let (b, rest) ← decimalByte? s
    if count = 0 then
      if rest.isEmpty then some [b] else none
    else
      match rest with
      | '.' :: rest => return b :: (← decimalBytes? count rest)
      | _ => none

/-- Reads the pieces of an address, one after the other. -/
def readPieces (fuel : Nat) (p : Partial) (s : List Char) : Option (List Nat) :=
  match fuel, s with
  | _, [] => p.complete?
  | 0, _ => none
  | fuel + 1, c :: rest =>
    if p.pieces.length + (if p.gap.isSome then 1 else 0) = 8 then none
    else if c = ':' then
      if p.gap.isSome then none else readPieces fuel { p with gap := some p.pieces.length } rest
    else
      let (value, behind) := hexPiece 4 0 (c :: rest)
      match behind with
      | [] => { p with pieces := p.pieces ++ [value] }.complete?
      | '.' :: _ =>
        if behind.length = rest.length + 1 ||
            p.pieces.length + (if p.gap.isSome then 1 else 0) > 6 then none
        else
          match decimalBytes? 4 (c :: rest) with
          | some [w, x, y, z] =>
            { p with pieces := p.pieces ++ [256 * w + x, 256 * y + z] }.complete?
          | _ => none
      | [':'] => none
      | ':' :: rest => readPieces fuel { p with pieces := p.pieces ++ [value] } rest
      | _ => none

/-- The pieces of an address between brackets. -/
def parse? (s : List Char) : Option (List Nat) :=
  match s with
  | ':' :: ':' :: rest => readPieces (rest.length + 1) ⟨[], some 0⟩ rest
  | [] | [_] | ':' :: _ => none
  | s => readPieces (s.length + 1) ⟨[], none⟩ s

def zeros (pieces : List Nat) : Nat := (pieces.takeWhile (· = 0)).length

/-- The first of the longest runs of zeros, as its place and length; runs of one do not count. -/
def longestRun (place : Nat) (best : Nat × Nat) : List Nat → Nat × Nat
  | [] => best
  | p :: rest =>
    let run := zeros (p :: rest)
    longestRun (place + 1) (if run > 1 && run > best.2 then (place, run) else best) rest

/-- Pieces between colons. -/
def joinPieces (pieces : List Nat) : String :=
  ":".intercalate (pieces.map fun p => String.ofList (Hex.numeral p))

def print (pieces : List Nat) : String :=
  let (place, length) := longestRun 0 (0, 0) pieces
  if length = 0 then joinPieces pieces
  else joinPieces (pieces.take place) ++ "::" ++ joinPieces (pieces.drop (place + length))

end EngineCall.Url.Ipv6
