import Themer.Color.Hex
import Themer.Color.Palette
import Themer.Failure
import Themer.Json.Reader

/-! Colorschemes: JSON objects that give every one of nineteen names its color. -/

namespace Themer.Scheme

/-- The name of the color behind everything. -/
def background : String := "background"

/-- The name of the color of plain text. -/
def foreground : String := "foreground"

/-- The name of the color of the cursor. -/
def cursor : String := "cursor"

/-- The name of a numbered color, in two digits. -/
def numbered (n : Nat) : String :=
  "color_" ++ toString (n / 10) ++ toString (n % 10)

/-- The names that a colorscheme gives a color, each of them once. -/
def names : List String :=
  [background, foreground, cursor] ++ (List.range 16).map fun n => numbered (n + 1)

/-- What is wrong with a text that should be a colorscheme. -/
inductive Fault
  | notJson (cause : Json.Cause) (place : Json.Place)
  | repeatedName (name : String)
  | notObject
  | unknownName (name : String)
  | notText (name : String) (value : Datum)
  | notColor (name : String) (e : Color.NotHex)
  | missing (name : String)
deriving Repr

/-- The message for a fault. -/
def Fault.message : Fault → String
  | .notJson cause place => "Invalid JSON: " ++ Json.malformedText cause place
  | .repeatedName name => s!"Color `{name}` was already defined"
  | .notObject => "Expected a JSON object mapping color names to hex colors"
  | .unknownName name =>
    s!"Invalid color name `{name}`. Valid color names are `" ++ "`, `".intercalate names ++ "`"
  | .notText name value => s!"Color `{name}` must be a hex string, got {value.shown}"
  | .notColor name e => s!"Color `{name}`: {e.message}"
  | .missing name => s!"Missing required color `{name}`"

/-- The color that a member gives. -/
def readMember (name : String) (value : Datum) : Except Fault (String × Color) :=
  -- The name is judged before the value, whatever that is.
  if name ∉ names then .error (.unknownName name)
  else match value with
    | .text text => match Color.read text with
      | .ok color => .ok (name, color)
      | .error e => .error (.notColor name e)
    | other => .error (.notText name other)

/-- The colors that the members give, in order, up to the first one at fault. -/
def readMembers : List (Datum × Datum) → Except Fault (List (String × Color))
  | [] => .ok []
  | (key, value) :: rest => do
    let entry ← readMember key.plain value
    return entry :: (← readMembers rest)

/-- The colors, if none of the names lacks one. -/
def complete (colors : List (String × Color)) : Except Fault Palette :=
  match names.find? fun name => (colors.lookup name).isNone with
  -- Of several that are missing, the first in the order of the names is told.
  | some name => .error (.missing name)
  | none => .ok (Palette.ofList colors)

/-- The palette of a document. -/
def ofDatum : Datum → Except Fault Palette
  | .map members => do complete (← readMembers members)
  | _ => .error .notObject

/-- The palette of a colorscheme's text, where so many levels are left. -/
def read (levels : Nat) (text : String) : Except (Failure Fault) Palette :=
  -- A name given twice is refused in every object of the document, not in the outermost alone.
  match Json.read levels true text with
  | .error (.malformed cause place) => .error (.reported (.notJson cause place))
  | .error (.repeated name) => .error (.reported (.repeatedName name))
  | .error (.tooManyDigits e) => .error (.cutShort (.tooManyDigits e))
  | .error (.tooDeep e) => .error (.cutShort (.tooDeep e))
  | .ok document => (ofDatum document).mapError .reported

end Themer.Scheme
