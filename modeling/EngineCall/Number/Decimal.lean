import EngineCall.Number.Binary64

/-!
# The shortest decimal of a binary number

The fewest decimal digits that read back as the same binary number. A grid of step `10 ^ place` is
tried for one digit, then two, and so on; on each grid only the two neighbours of the number can lie
in the interval of reals that round to it, and of two hits the nearer wins.
-/

namespace EngineCall

/-- A natural number of units `10 ^ place`, in its digits from the leading one. -/
structure Decimal where
  digits : List Char
  place : Int
  deriving DecidableEq, Repr

namespace Decimal

/-- The place of the leading digit of a positive ratio: the greatest `k` with `10 ^ k ≤ num / den`.
-/
def leadingPlace (num den : Nat) : Int :=
  let k : Int := ((Nat.toDigits 10 num).length : Int) - ((Nat.toDigits 10 den).length : Int)
  if num * Nat.pow 10 (-k).toNat < den * Nat.pow 10 k.toNat then k - 1 else k

/-- The reals that round to one binary number, in units of a quarter of its last place: the number
itself, both ends, and whether the ends belong to it. -/
structure Interval where
  low : Nat
  value : Nat
  high : Nat
  closed : Bool

/-- The interval of a magnitude; below a power of two the gap to the next smaller number halves. -/
def Interval.of (x : Binary64) : Interval :=
  let quarters := 4 * x.significand
  let halved := x.significand = Binary64.leastFull ∧ x.exponent > Binary64.leastExponent
  { low := if halved then quarters - 1 else quarters - 2
    value := quarters
    high := quarters + 2
    closed := x.significand % 2 == 0 }

/-- Whether `point * unit` lies in the interval, everything over one denominator. -/
def Interval.contains (i : Interval) (scale unit point : Nat) : Bool :=
  let p := point * unit
  if i.closed then i.low * scale ≤ p && p ≤ i.high * scale
  else i.low * scale < p && p < i.high * scale

/-- The point of the grid of step `10 ^ place` that rounds to the number and is nearest to it. -/
def onGrid? (x : Binary64) (i : Interval) (place : Int) : Option Nat :=
  let exponent := x.exponent - 2
  -- one quarter of the last place is `scale / unit` grid steps
  let scale := Nat.pow 2 exponent.toNat * Nat.pow 10 (-place).toNat
  let unit := Nat.pow 2 (-exponent).toNat * Nat.pow 10 place.toNat
  let below := i.value * scale / unit
  let above := below + 1
  let gapBelow := i.value * scale - below * unit
  let gapAbove := above * unit - i.value * scale
  match i.contains scale unit below, i.contains scale unit above with
  | false, false => none
  | true, false => some below
  | false, true => some above
  | true, true =>
    if gapBelow < gapAbove || (gapBelow == gapAbove && below % 2 == 0) then some below
    else some above

/-- The first grid with a hit, from coarse to fine. -/
def search (x : Binary64) (i : Interval) (place : Int) : Nat → Nat × Int
  | 0 => (0, place)
  | fuel + 1 =>
    match onGrid? x i place with
    | some point => if point = 0 then search x i (place - 1) fuel else (point, place)
    | none => search x i (place - 1) fuel

/-- The digits of a natural without its trailing zeros, and how many zeros those were. -/
def stripZeros (n : Nat) : List Char × Nat :=
  let reversed := (Nat.toDigits 10 n).reverse
  let kept := reversed.dropWhile (· == '0')
  (kept.reverse, reversed.length - kept.length)

/-- The shortest decimal of a magnitude; seventeen digits always suffice. -/
def shortest (x : Binary64) : Decimal :=
  if x.significand = 0 then ⟨['0'], 0⟩
  else
    let first := leadingPlace x.numerator x.denominator
    let (point, place) := search x (Interval.of x) first 20
    let (digits, zeros) := stripZeros point
    ⟨digits, place + zeros⟩

/-- The place just after which the decimal point would stand before the leading digit. -/
def pointAfter (d : Decimal) : Int := d.place + d.digits.length

end Decimal

end EngineCall
