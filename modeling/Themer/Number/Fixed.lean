import Themer.Number.Binary64

/-! A floating-point number with two digits after the point. -/

namespace Themer

namespace Binary64

/-- A finite number in whole hundredths, without its sign, a half going to the even one. -/
def hundredths (x : Binary64) : Nat :=
  roundDiv (x.steps.natAbs * 100) (twoTo 1074)

/-- The number with two places; the sign stays even when both places and all before are zero. -/
def fixed2 (x : Binary64) : String :=
  let sign := if x.negative then "-" else ""
  if x.isNaN then "nan"
  else if x.isInfinite then sign ++ "inf"
  else
    let h := x.hundredths
    sign ++ toString (h / 100) ++ "." ++ toString (h % 100 / 10) ++ toString (h % 10)

end Binary64

end Themer
