/-!
# Punycode

The form of a label with characters beyond ASCII: its ASCII characters, and behind the last hyphen
the places and code points of the others in ascending order, as numbers in a generalised base.
-/

namespace EngineCall.Url.Punycode

def digit (n : Nat) : Char := Char.ofNat (if n < 26 then 0x61 + n else 0x30 + (n - 26))

def value? (c : Char) : Option Nat :=
  if 'a' ≤ c && c ≤ 'z' then some (c.toNat - 0x61)
  else if 'A' ≤ c && c ≤ 'Z' then some (c.toNat - 0x41)
  else if '0' ≤ c && c ≤ '9' then some (c.toNat - 0x30 + 26)
  else none

/-- The threshold at a place of a number. -/
def threshold (place bias : Nat) : Nat :=
  if place ≤ bias then 1 else if bias + 26 ≤ place then 26 else place - bias

/-- Scales a step down until it fits, counting the places. -/
def scaleDown (step places : Nat) : Nat × Nat :=
  if h : step > 455 then scaleDown (step / 35) (places + 36) else (step, places)
termination_by step
decreasing_by omega

/-- The bias after a step, where `count` characters have been placed. -/
def adapt (step count : Nat) (first : Bool) : Nat :=
  let damped := if first then step / 700 else step / 2
  let (rest, places) := scaleDown (damped + damped / count) 0
  places + 36 * rest / (rest + 38)

/-- The digits of a number, from the given place on. -/
def numeral (fuel bias place n : Nat) : List Char :=
  let t := threshold place bias
  match fuel with
  | 0 => [digit n]
  | fuel + 1 =>
    if n < t then [digit n]
    else digit (t + (n - t) % (36 - t)) :: numeral fuel bias (place + 36) ((n - t) / (36 - t))

/-- What has been written, and the state of the numbers. -/
structure Writer where
  written : List Char
  step : Nat
  bias : Nat
  count : Nat

/-- Passes one character of the label while code point `code` is being placed. -/
def Writer.pass (basic code : Nat) (w : Writer) (c : Char) : Writer :=
  if c.toNat < code then { w with step := w.step + 1 }
  else if c.toNat = code then
    { written := w.written ++ numeral (w.step.log2 + 1) w.bias 36 w.step
      step := 0
      bias := adapt w.step (w.count + 1) (w.count == basic)
      count := w.count + 1 }
  else w

/-- Places the code points of a label in ascending order, from `code` on. -/
def Writer.place (label : List Char) (basic : Nat) (w : Writer) (code : Nat) : List Nat → Writer
  | [] => w
  | next :: rest =>
    let w := { w with step := w.step + (next - code) * (w.count + 1) }
    let w := label.foldl (Writer.pass basic next) w
    Writer.place label basic { w with step := w.step + 1 } (next + 1) rest

/-- Puts a number at its place in an ascending list, once. -/
def insertCode (n : Nat) : List Nat → List Nat
  | [] => [n]
  | m :: rest =>
    if n < m then n :: m :: rest else if n = m then m :: rest else m :: insertCode n rest

/-- The form of a label, without its marker. -/
def encode (label : List Char) : List Char :=
  let basic := label.filter (·.toNat < 0x80)
  let codes := ((label.filter (0x80 ≤ ·.toNat)).map Char.toNat).foldr insertCode []
  let start : Writer := ⟨[], 0, 72, basic.length⟩
  let w := start.place label basic.length 0x80 codes
  basic ++ (if basic.isEmpty then [] else ['-']) ++ w.written

/-- The least number that is too great to be read. -/
def numberLimit : Nat := 0x100000000

/-- The number at the start of digits, added to `total`, and the digits behind it. -/
def readNumber? (bias place weight total : Nat) : List Char → Option (Nat × List Char)
  | [] => none
  | c :: rest => do
    let d ← value? c
    let total := total + d * weight
    let t := threshold place bias
    if total ≥ numberLimit then none
    else if d < t then return (total, rest)
    else if weight * (36 - t) ≥ numberLimit then none
    else readNumber? bias (place + 36) (weight * (36 - t)) total rest

/-- Places characters into a label until the digits are used up. -/
def readLabel? (fuel : Nat) (label : List Char) (code place bias : Nat) (first : Bool)
    (digits : List Char) : Option (List Char) :=
  match fuel, digits with
  | _, [] => some label
  | 0, _ => none
  | fuel + 1, digits => do
    let (total, rest) ← readNumber? bias 36 1 place digits
    let count := label.length + 1
    let code := code + total / count
    let index := total % count
    let bias := adapt (total - place) count first
    if code ≥ 0x110000 || (0xd800 ≤ code && code < 0xe000) then none
    else
      let label := label.take index ++ [Char.ofNat code] ++ label.drop index
      readLabel? fuel label code (index + 1) bias false rest

/-- The label of a form without its marker. A hyphen that nothing precedes is no separator. -/
def decode? (s : List Char) : Option (List Char) :=
  let reversed := s.reverse
  let (basic, digits) := match reversed.dropWhile (· != '-') with
    | _ :: c :: before => ((c :: before).reverse, (reversed.takeWhile (· != '-')).reverse)
    | _ => ([], s)
  readLabel? (digits.length + 1) basic 0x80 0 72 true digits

end EngineCall.Url.Punycode
