import Themer.Number.Binary64

/-! The shortest decimal text that reads back as a floating-point number. -/

namespace Themer

namespace Binary64

/-- A decimal number: a whole number times a power of ten. -/
structure Decimal where
  digits : Nat
  exponent : Int
deriving DecidableEq, Repr

/-- Four times the lowest, the exact and the highest value that round to a positive number. -/
def quarters (x : Binary64) : Nat × Nat × Nat :=
  let exact := 4 * x.significand
  -- Below a power of two the next number is half as far away.
  let below := if x.significand = twoTo 52 ∧ leastExponent < x.exponent then 1 else 2
  (exact - below, exact, exact + 2)

/-- The place of the first decimal digit of a positive ratio, counted from the point. -/
def firstPlace (num den : Nat) : Int :=
  (Nat.toDigits 10 (num * tenTo 400 / den)).length - 401

/-- The decimal numbers next to a ratio with their last digit at a given place, below and above. -/
def neighbours (num den : Nat) (place : Int) : List Decimal :=
  let below := num * tenTo (-place).toNat / (den * tenTo place.toNat)
  [⟨below, place⟩, ⟨below + 1, place⟩]

/-- A decimal number as a ratio. -/
def Decimal.ratio (d : Decimal) : Nat × Nat :=
  (d.digits * tenTo d.exponent.toNat, tenTo (-d.exponent).toNat)

/-- Whether a decimal number rounds to a given positive number. -/
def readsBack (x : Binary64) (d : Decimal) : Bool :=
  let (low, _, high) := x.quarters
  let up := twoTo (x.exponent - 2).toNat
  let down := twoTo (2 - x.exponent).toNat
  let (num, den) := d.ratio
  -- The two ends round to the number exactly if its significand is even.
  -- Both sides are multiplied out, so that the comparison is one of whole numbers.
  if x.significand % 2 = 0 then low * up * den ≤ num * down && num * down ≤ high * up * den
  else low * up * den < num * down && num * down < high * up * den

/-- How far a decimal number is from a positive number, in a unit that depends on the place only. -/
def distance (x : Binary64) (d : Decimal) : Nat :=
  let (_, exact, _) := x.quarters
  let up := twoTo (x.exponent - 2).toNat
  let down := twoTo (2 - x.exponent).toNat
  let (num, den) := d.ratio
  ((num * down : Nat) - (exact * up * den : Nat) : Int).natAbs

/-- The nearest of the decimal numbers with so many digits, if one reads back. -/
def withDigits? (x : Binary64) (first : Int) (count : Nat) : Option Decimal :=
  let (_, exact, _) := x.quarters
  let num := exact * twoTo (x.exponent - 2).toNat
  let den := twoTo (2 - x.exponent).toNat
  match (neighbours num den (first - count + 1)).filter (readsBack x) with
  | [] => none
  | [one] => some one
  -- Both neighbours read back, so the nearer counts, or the even one of two as near.
  | one :: two :: _ =>
    let near := distance x one
    let far := distance x two
    some (if near < far ∨ (near = far ∧ one.digits % 2 = 0) then one else two)

/-- The fewest digits that read back as a positive number, and of those the nearest to it. -/
def shortest (x : Binary64) : Decimal :=
  let (_, exact, _) := x.quarters
  let first := firstPlace (exact * twoTo (x.exponent - 2).toNat) (twoTo (2 - x.exponent).toNat)
  -- Seventeen digits always read back, so that the fallback is never met.
  ((List.range 17).findSome? fun count => withDigits? x first (count + 1)).getD
    ⟨x.significand, 0⟩

/-- The digits of a decimal number without zeros at the end, and where its point stands. -/
def Decimal.layout (d : Decimal) : List Char × Int :=
  let digits := Nat.toDigits 10 d.digits
  ((digits.reverse.dropWhile (· == '0')).reverse, digits.length + d.exponent)

/-- How numbers are written: from where on with an exponent, and the least width of that. -/
structure Style where
  leastPoint : Int
  greatestPoint : Int
  exponentWidth : Nat

/-- Values are shown with a point between 10^-4 and 10^16, and with a two-digit exponent beyond. -/
def valueStyle : Style := ⟨-3, 16, 2⟩

/-- A number filled with zeros in front up to a width. -/
def zeroFilled (width number : Nat) : List Char :=
  let digits := Nat.toDigits 10 number
  List.replicate (width - digits.length) '0' ++ digits

/-- The text of a positive decimal number, its digits and the place of its point given. -/
def Style.write (style : Style) (digits : List Char) (point : Int) : List Char :=
  -- With an exponent: one digit before the point, and the others behind it.
  if point < style.leastPoint ∨ style.greatestPoint < point then
    let fraction := if digits.length ≤ 1 then [] else '.' :: digits.drop 1
    let power := point - 1
    digits.take 1 ++ fraction ++ ['e', if power < 0 then '-' else '+']
      ++ zeroFilled style.exponentWidth power.natAbs
  -- Below one: zeros between the point and the first digit.
  else if point ≤ 0 then ['0', '.'] ++ List.replicate (-point).toNat '0' ++ digits
  else
    -- Else the point stands among the digits, or behind them and some zeros.
    let whole := digits.take point.toNat
    let fraction := digits.drop point.toNat
    whole ++ List.replicate (point.toNat - whole.length) '0' ++ ['.']
      ++ (if fraction.isEmpty then ['0'] else fraction)

/-- The text of a number as a value: the shortest that reads back. -/
def text (x : Binary64) : String :=
  let sign := if x.negative then "-" else ""
  if x.isNaN then "nan"
  else if x.isInfinite then sign ++ "inf"
  else if x.magnitude = 0 then sign ++ "0.0"
  else
    let (digits, point) := x.shortest.layout
    sign ++ String.ofList (valueStyle.write digits point)

end Binary64

end Themer
