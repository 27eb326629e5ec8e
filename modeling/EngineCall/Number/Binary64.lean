/-!
# Binary floating point numbers

Finite numbers of the 64-bit binary format, kept exactly as `± significand * 2 ^ exponent`, with
rounding of ratios to the nearest of them. Everything is computed on natural numbers, so a statement
about a number is a statement about its significand and exponent.
-/

namespace EngineCall

/-- A finite binary floating point number `± significand * 2 ^ exponent`. -/
structure Binary64 where
  negative : Bool
  significand : Nat
  exponent : Int
  deriving DecidableEq, Repr, Inhabited

namespace Binary64

/-- The exponent of the smallest positive number, shared by all numbers too small for a full
significand. -/
def leastExponent : Int := -1074

/-- The exponent of the largest finite number. -/
def greatestExponent : Int := 971

/-- The least significand that uses all of its 53 bits. -/
def leastFull : Nat := 0x10000000000000

/-- Zero, which has a sign. -/
def zero (negative : Bool) : Binary64 := ⟨negative, 0, leastExponent⟩

def withSign (x : Binary64) (negative : Bool) : Binary64 := { x with negative }

/-- The numerator of the magnitude, as a ratio of naturals. -/
def numerator (x : Binary64) : Nat := x.significand * Nat.pow 2 x.exponent.toNat

/-- The denominator of the magnitude, as a ratio of naturals. -/
def denominator (x : Binary64) : Nat := Nat.pow 2 (-x.exponent).toNat

/-- The greatest `e` with `2 ^ e ≤ num / den`, for a positive ratio. -/
def floorLog2 (num den : Nat) : Int :=
  let e : Int := (num.log2 : Int) - (den.log2 : Int)
  if num * Nat.pow 2 (-e).toNat < den * Nat.pow 2 e.toNat then e - 1 else e

/-- The quotient rounded to the nearest natural, a half going to the even neighbour. -/
def roundHalfEven (num den : Nat) : Nat :=
  let quotient := num / den
  let rest := 2 * (num % den)
  if rest > den || (rest == den && quotient % 2 == 1) then quotient + 1 else quotient

/-- The number nearest to `± num / den`, none when it lies beyond the largest finite number. -/
def ofRatio? (negative : Bool) (num den : Nat) : Option Binary64 :=
  if num = 0 then some (zero negative)
  else
    let exponent := max (floorLog2 num den - 52) leastExponent
    let significand :=
      roundHalfEven (num * Nat.pow 2 (-exponent).toNat) (den * Nat.pow 2 exponent.toNat)
    let rounded : Binary64 :=
      if significand = 2 * leastFull then ⟨negative, leastFull, exponent + 1⟩
      else ⟨negative, significand, exponent⟩
    if rounded.exponent > greatestExponent then none else some rounded

/-- The number nearest to a natural below `2 ^ 64`, where no overflow is possible. -/
def ofNat (n : Nat) : Binary64 := (ofRatio? false n 1).getD (zero false)

/-- The rounded product of two magnitudes, none on overflow. -/
def mul? (x y : Binary64) : Option Binary64 :=
  ofRatio? false (x.numerator * y.numerator) (x.denominator * y.denominator)

/-- The rounded quotient of a magnitude by a positive one that is at least one. -/
def div (x y : Binary64) : Binary64 :=
  (ofRatio? false (x.numerator * y.denominator) (x.denominator * y.numerator)).getD (zero false)

/-- The greatest power of ten that is used as one factor. -/
def tenLimit : Nat := 308

/-- A power of ten of at most `tenLimit`, rounded. -/
def powerOfTen (n : Nat) : Binary64 := (ofRatio? false (Nat.pow 10 n) 1).getD (zero false)

/-- Repeated division by the greatest power of ten, which stops at zero. -/
def shrink (x : Binary64) : Nat → Binary64
  | 0 => x
  | steps + 1 => if x.significand = 0 then x else shrink (x.div (powerOfTen tenLimit)) steps

/-- `significand * 10 ^ exponent` by rounding both factors and then their product or quotient; none
on overflow. A power of ten below the smallest single factor is divided out in steps. -/
def ofDecimal? (negative : Bool) (significand : Nat) (exponent : Int) : Option Binary64 :=
  let x := ofNat significand
  let n := exponent.natAbs
  if 0 ≤ exponent then
    if n ≤ tenLimit then (x.mul? (powerOfTen n)).map (·.withSign negative)
    else if significand = 0 then some (zero negative) else none
  else
    let steps := (n - 1) / tenLimit
    some (((x.shrink steps).div (powerOfTen (n - steps * tenLimit))).withSign negative)

end Binary64

end EngineCall
