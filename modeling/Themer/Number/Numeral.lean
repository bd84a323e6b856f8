import Themer.Number.Binary64
import Themer.Text.CharClass

/-! Whole numbers read from digits and written in digits, up to a limit on their count. -/

namespace Themer

/-- The greatest count of digits, leading zeros included, that is read as a whole number. -/
def digitLimit : Nat := 4300

/-- More digits than are read as a whole number. -/
structure TooManyDigits where
  count : Nat
deriving DecidableEq, Repr

/-- The words for a limit that is not kept. -/
def digitLimitText : String :=
  s!"Exceeds the limit ({digitLimit} digits) for integer string conversion"

/-- The words for how the limit could be raised. -/
def digitLimitAdvice : String :=
  "; use sys.set_int_max_str_digits() to increase the limit"

/-- The message tells the limit and the count, and how the limit could be raised. -/
def TooManyDigits.message (e : TooManyDigits) : String :=
  digitLimitText ++ s!": value has {e.count} digits" ++ digitLimitAdvice

/-- A numeral without a digit, in a base of which only the letter or the leading zero stands. -/
structure EmptyNumeral where
  base : Nat
deriving DecidableEq, Repr

/-- The message names the base. -/
def EmptyNumeral.message (e : EmptyNumeral) : String :=
  s!"invalid literal for int() with base {e.base}: ''"

/-- Whether a whole number has more digits than are written. -/
@[irreducible]
def isTooLongToWrite (value : Int) : Bool := tenTo digitLimit ≤ value.natAbs

/-- The bound is great enough that only its name should be met elsewhere. -/
theorem isTooLongToWrite_eq_false_iff {value : Int} :
    isTooLongToWrite value = false ↔ value.natAbs < tenTo digitLimit := by
  unfold isTooLongToWrite
  exact decide_eq_false_iff_not.trans Nat.not_le

/-- The message where a whole number has more digits than are written. -/
def tooLongToWriteText : String := digitLimitText ++ digitLimitAdvice

/-- The whole number that decimal digits of any script stand for. -/
def readNumeral (digits : List Char) : Except TooManyDigits Nat :=
  if digitLimit < digits.length then .error ⟨digits.length⟩ else .ok (Text.digitsValue digits)

end Themer
