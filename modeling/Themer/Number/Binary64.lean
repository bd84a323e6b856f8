/-! The binary floating-point numbers of 64 bits, with rounding done in exact integers. -/

namespace Themer

/-- A binary floating-point number, held as its 64 bits. -/
structure Binary64 where
  bits : UInt64
deriving DecidableEq, Repr

/-- Two raised to a power. -/
abbrev twoTo (n : Nat) : Nat := Nat.pow 2 n

/-- Ten raised to a power. -/
abbrev tenTo (n : Nat) : Nat := Nat.pow 10 n

/-- A quotient rounded to the nearest whole number, a half to the even one. -/
def roundDiv (num den : Nat) : Nat :=
  let quotient := num / den
  let twice := 2 * (num % den)
  -- Twice the rest against the divisor tells a rest above, at or below the half.
  if den < twice ∨ (twice = den ∧ quotient % 2 = 1) then quotient + 1 else quotient

namespace Binary64

/-- The magnitude that stands for infinity; every greater one is no number. -/
def infinityMagnitude : Nat := 2047 * twoTo 52

/-- The exponent of the smallest steps there are. -/
def leastExponent : Int := -1074

/-- Whether the sign bit is set. -/
def negative (x : Binary64) : Bool := decide (twoTo 63 ≤ x.bits.toNat)

/-- The bits below the sign. -/
def magnitude (x : Binary64) : Nat := x.bits.toNat % twoTo 63

/-- Whether the bits stand for no number. -/
def isNaN (x : Binary64) : Bool := decide (infinityMagnitude < x.magnitude)

/-- Whether the bits stand for one of the two infinities. -/
def isInfinite (x : Binary64) : Bool := decide (x.magnitude = infinityMagnitude)

/-- The number with a given sign and given bits below it. -/
def ofMagnitude (negative : Bool) (magnitude : Nat) : Binary64 :=
  ⟨UInt64.ofNat (magnitude + if negative then twoTo 63 else 0)⟩

/-- The number without its sign. -/
def abs (x : Binary64) : Binary64 := ofMagnitude false x.magnitude

/--
Where a number stands in the order of all numbers.

The magnitudes of numbers are ordered as the numbers are, and both zeros stand at the same place.
-/
def rank (x : Binary64) : Int :=
  if x.negative then -(x.magnitude : Int) else x.magnitude

/-- Whether one number is less than another; what is no number compares with nothing. -/
def lt (x y : Binary64) : Bool :=
  !x.isNaN && !y.isNaN && decide (x.rank < y.rank)

/-- The whole number that a finite number is a power of two times. -/
def significand (x : Binary64) : Nat :=
  -- The least exponent alone stands for numbers without the leading bit.
  if x.magnitude / twoTo 52 = 0 then x.magnitude else x.magnitude % twoTo 52 + twoTo 52

/-- The exponent of the power of two that the significand is multiplied by. -/
def exponent (x : Binary64) : Int :=
  if x.magnitude / twoTo 52 = 0 then leastExponent else (x.magnitude / twoTo 52 : Nat) - 1075

/-- A finite number counted in the smallest steps there are. -/
def steps (x : Binary64) : Int :=
  let size : Int := x.significand * twoTo (x.exponent - leastExponent).toNat
  if x.negative then -size else size

/-- A ratio divided by a power of two, again as a ratio. -/
def scaleDown (num den : Nat) (exponent : Int) : Nat × Nat :=
  (num * twoTo (-exponent).toNat, den * twoTo exponent.toNat)

/--
The number nearest to a ratio, a tie going to the even significand.

The exponent is chosen so that the significand has 53 bits, or is the least one there is.
A significand rounded up to 54 bits carries into the exponent by itself.
-/
def nearest (negative : Bool) (num den : Nat) : Binary64 :=
  if num = 0 then ofMagnitude negative 0
  else
    -- The logarithms give the exponent up to one, and one try tells which of the two it is.
    let low : Int := (num.log2 : Int) - den.log2 - 53
    let tried := scaleDown num den low
    let fitting := if twoTo 53 ≤ tried.1 / tried.2 then low + 1 else low
    let exponent := max fitting leastExponent
    let scaled := scaleDown num den exponent
    -- The leading bit is added to the exponent, which counts from one less for that.
    let magnitude := (exponent - leastExponent).toNat * twoTo 52 + roundDiv scaled.1 scaled.2
    ofMagnitude negative (min magnitude infinityMagnitude)

/-- The number nearest to a whole number of steps divided by a positive whole number. -/
def ofSteps (steps : Int) (parts : Nat) : Binary64 :=
  nearest (decide (steps < 0)) steps.natAbs (parts * twoTo 1074)

/-- The number nearest to a whole number. -/
def ofNat (n : Nat) : Binary64 := nearest false n 1

/-- The sum of two finite numbers. -/
def add (x y : Binary64) : Binary64 := ofSteps (x.steps + y.steps) 1

/-- The difference of two finite numbers. -/
def sub (x y : Binary64) : Binary64 := ofSteps (x.steps - y.steps) 1

/-- The product of two finite numbers. -/
def mul (x y : Binary64) : Binary64 := ofSteps (x.steps * y.steps) (twoTo 1074)

/-- A finite number divided by a positive whole number. -/
def divNat (x : Binary64) (n : Nat) : Binary64 := ofSteps x.steps n

/--
The number nearest to a decimal one, its digits taken as a whole number times a power of ten.

Beyond 400 places on either side of the point nothing is left but infinity or zero.
-/
def ofDecimal (negative : Bool) (digits : Nat) (exponent : Int) : Binary64 :=
  -- The size is settled by where the first digit stands, however many digits there are.
  let places : Int := (Nat.toDigits 10 digits).length + exponent
  if digits = 0 ∨ places < -400 then ofMagnitude negative 0
  else if 400 < places then ofMagnitude negative infinityMagnitude
  else nearest negative (digits * tenTo exponent.toNat) (tenTo (-exponent).toNat)

/-- One half is read exactly, and a tenth is read to the nearest number. -/
example : ofDecimal false 5 (-1) = ⟨0x3FE0000000000000⟩ ∧
    ofDecimal false 1 (-1) = ⟨0x3FB999999999999A⟩ := by decide +kernel

end Binary64

end Themer
