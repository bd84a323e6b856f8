import Themer.Number.Numeral

/-! Colors of three channels: mixing, luminance and the formats they are written in. -/

namespace Themer

/-- A color, by its red, green and blue channels. -/
structure Color where
  red : Fin 256
  green : Fin 256
  blue : Fin 256
deriving DecidableEq, Repr

/-- Why some numbers make no color. -/
inductive ColorError
  | channelsOutOfRange (red green blue : Int)
  | amountOutOfRange (amount : Int)
  | amountTooLong (amount : Int)
deriving DecidableEq, Repr

/-- The numbers that make no color. -/
def ColorError.numbers : ColorError → List Int
  | .channelsOutOfRange red green blue => [red, green, blue]
  | .amountOutOfRange amount | .amountTooLong amount => [amount]

/-- The message shows the numbers, unless one of them has more digits than are written. -/
def ColorError.message (e : ColorError) : String :=
  if e.numbers.any isTooLongToWrite then tooLongToWriteText
  else match e with
    | .channelsOutOfRange red green blue =>
      s!"RGB channels must be between 0 and 255, got ({red}, {green}, {blue})"
    | .amountOutOfRange amount => s!"Mix amount must be between 0 and 100, got {amount}"
    -- This is met only for an amount that is too long, and so it has been told.
    | .amountTooLong _ => tooLongToWriteText

/-- How a color is written: six hexadecimal digits, with a hash in front or without. -/
inductive Format
  | hashed
  | bare
deriving DecidableEq, Repr

namespace Format

/-- The formats there are, in the order messages list them. -/
def all : List Format := [.hashed, .bare]

/-- The name that directives and settings call a format by. -/
def name : Format → String
  | .hashed => "#6h"
  | .bare => "6h"

/-- The format of a given name. -/
def ofName? (name : String) : Option Format :=
  all.find? fun format => format.name == name

/-- The names of all formats as messages list them. -/
def listed : String :=
  "`" ++ "`, `".intercalate (all.map name) ++ "`"

end Format

namespace Color

/-- A channel, if the number is one. -/
def channel? (n : Int) : Option (Fin 256) :=
  if h : 0 ≤ n ∧ n ≤ 255 then some ⟨n.toNat, by omega⟩ else none

/-- The color of three given channels. -/
def ofInts (red green blue : Int) : Except ColorError Color :=
  -- All three are told of if one of them is out of range.
  match channel? red, channel? green, channel? blue with
  | some r, some g, some b => .ok ⟨r, g, b⟩
  | _, _, _ => .error (.channelsOutOfRange red green blue)

/-- The average of two channels, the first counting for so many hundredths, rounded down. -/
def mixChannel (x y : Fin 256) (amount : Nat) (bounded : amount ≤ 100) : Fin 256 :=
  ⟨(x.val * amount + y.val * (100 - amount)) / 100, by
    -- Each share is at most as much of 255, and the two shares make up a hundred.
    have left : x.val * amount ≤ 255 * amount := Nat.mul_le_mul_right amount (by omega)
    have right : y.val * (100 - amount) ≤ 255 * (100 - amount) :=
      Nat.mul_le_mul_right (100 - amount) (by omega)
    omega⟩

/-- The first color weighted by so many hundredths, the second by the rest. -/
def mix (first : Color) (amount : Int) (second : Color) : Except ColorError Color :=
  -- The bounds are taken along, since they are what keeps each channel in its range.
  if h : 0 ≤ amount ∧ amount ≤ 100 then
    have bounded : amount.toNat ≤ 100 := by omega
    .ok ⟨mixChannel first.red second.red amount.toNat bounded,
      mixChannel first.green second.green amount.toNat bounded,
      mixChannel first.blue second.blue amount.toNat bounded⟩
  else .error (.amountOutOfRange amount)

/-- The share of white light, weighted by how bright the eye sees each channel. -/
def luminance (color : Color) : Binary64 :=
  -- The weights are ten-thousandths, and every step rounds, so that their order matters.
  let weighted (weight : Nat) (channel : Fin 256) : Binary64 :=
    (Binary64.ofDecimal false weight (-4)).mul (Binary64.ofNat channel.val)
  (((weighted 2126 color.red).add (weighted 7152 color.green)).add
    (weighted 722 color.blue)).divNat 255

end Color

end Themer
