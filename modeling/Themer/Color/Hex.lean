import Themer.Text.CharClass
import Themer.Color.Basic

/-! Colors written in hexadecimal digits, and read back from them. -/

namespace Themer

namespace Color

/-- The upper-case digit for a value below sixteen. -/
def hexDigit (n : Nat) : Char :=
  -- The codes of the ten digits and of the upper-case letters, counted from zero and from ten.
  if n < 10 then Char.ofNat (48 + n) else Char.ofNat (55 + n)

/-- The two digits of a channel. -/
def hexPair (channel : Fin 256) : List Char :=
  [hexDigit (channel.val / 16), hexDigit (channel.val % 16)]

/-- The six digits of a color. -/
def hexDigits (color : Color) : List Char :=
  hexPair color.red ++ hexPair color.green ++ hexPair color.blue

/-- The color written in a format. -/
def write (format : Format) (color : Color) : String :=
  match format with
  | .hashed => String.ofList ('#' :: color.hexDigits)
  | .bare => String.ofList color.hexDigits

/-- A name that no format has. -/
structure UnknownFormat where
  name : String
deriving DecidableEq, Repr

/-- The message repeats the name. -/
def UnknownFormat.message (e : UnknownFormat) : String :=
  s!"Invalid color format `{e.name}`"

/-- The color written in the format of a given name. -/
def writeNamed (name : String) (color : Color) : Except UnknownFormat String :=
  match Format.ofName? name with
  | some format => .ok (color.write format)
  | none => .error ⟨name⟩

/-- The channel that two digits stand for. -/
def readPair? (high low : Char) : Option (Fin 256) :=
  match Text.hexValue? high, Text.hexValue? low with
  -- Two digits are below 256 by themselves, so nothing is lost by counting in that range.
  | some h, some l => some (Fin.ofNat 256 (16 * h + l))
  | _, _ => none

/-- The color that exactly six digits stand for. -/
def readDigits? : List Char → Option Color
  | [a, b, c, d, e, f] =>
    match readPair? a b, readPair? c d, readPair? e f with
    | some r, some g, some b => some ⟨r, g, b⟩
    | _, _, _ => none
  | _ => none

/-- Text that is no color. -/
structure NotHex where
  text : String
deriving DecidableEq, Repr

/-- The message shows the text without the blanks around it. -/
def NotHex.message (e : NotHex) : String :=
  s!"Invalid hex color `{e.text}`"

/-- The color of a text: six digits of either case, with one hash or none, blanks around ignored. -/
def read (text : String) : Except NotHex Color :=
  let trimmed := Text.trim text.toList
  -- At most one hash is taken off, and none of the blanks behind it.
  let digits := match trimmed with
    | '#' :: rest => rest
    | _ => trimmed
  match readDigits? digits with
  | some color => .ok color
  | none => .error ⟨String.ofList trimmed⟩

/-- Case does not matter, and neither do blanks around. -/
example : (read " #aBcDeF\n").toOption.map (write .bare) = some "ABCDEF" := by decide

end Color

end Themer
