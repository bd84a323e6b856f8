import Themer.Number.Numeral
import Themer.Color.Hex
import Themer.Color.Palette

/-! Placeholders in the lines of a blueprint, and the colors that take their place. -/

namespace Themer

/-- A place in a line that a color goes to, as it is written between its braces. -/
inductive Placeholder
  | plain (name : String)
  | mix (first digits second : String)
deriving DecidableEq, Repr

/-- A piece of a line: a character that stays, or a placeholder. -/
inductive Piece
  | char (c : Char)
  | hole (placeholder : Placeholder)
deriving DecidableEq, Repr

/-- Why a placeholder stays empty: it has no color, or its color cannot be written so. -/
inductive Warning
  | noColor (expression : String)
  | noFormat (expression format : String)
deriving DecidableEq, Repr

/-- Why the amount of a mix is no number of hundredths that could be meant. -/
inductive AmountError
  | outOfRange (digits : String)
  | tooManyDigits (e : TooManyDigits)
deriving DecidableEq, Repr

/-- The message about an amount. -/
def AmountError.message : AmountError → String
  | .outOfRange digits => s!"mix amount `{digits}` is out of range"
  | .tooManyDigits e => e.message

namespace Placeholder

/-- The text between the braces. -/
def expression : Placeholder → String
  | .plain name => name
  | .mix first digits second => first ++ ":" ++ digits ++ ":" ++ second

/-- The text with its braces. -/
def text (placeholder : Placeholder) : String :=
  "\x7b" ++ placeholder.expression ++ "\x7d"

/-- The rest of a mix after the name of its first color, and the characters it takes. -/
def readMix? (name rest : List Char) : Option (Placeholder × Nat) :=
  let digits := rest.takeWhile Text.isDigit
  match digits, rest.dropWhile Text.isDigit with
  | [], _ => none
  | _, ':' :: rest =>
    let second := rest.takeWhile Text.isWord
    match second, rest.dropWhile Text.isWord with
    | [], _ => none
    | _, '\x7d' :: _ =>
      -- The two colons and the closing brace are taken along, the opening one is not.
      some (.mix (String.ofList name) (String.ofList digits) (String.ofList second),
        name.length + digits.length + second.length + 3)
    | _, _ => none
  | _, _ => none

/-- The placeholder that a line goes on with after an opening brace, and the characters it takes. -/
def read? (line : List Char) : Option (Placeholder × Nat) :=
  let name := line.takeWhile Text.isWord
  match name, line.dropWhile Text.isWord with
  | [], _ => none
  -- The name goes as far as it can, so that the brace has to come right behind it.
  | _, '\x7d' :: _ => some (.plain (String.ofList name), name.length + 1)
  | _, ':' :: rest => readMix? name rest
  | _, _ => none

/-- The number of hundredths that the digits of a mix stand for; it has to fit a byte. -/
def readAmount (digits : String) : Except AmountError Nat :=
  match readNumeral digits.toList with
  | .error e => .error (.tooManyDigits e)
  -- Above a hundred the amount is still a number here, and is refused for the mix alone.
  | .ok amount => if 255 < amount then .error (.outOfRange digits) else .ok amount

/-- The pieces of a line, after some characters that belong to a placeholder already. -/
def piecesFrom : Nat → List Char → List Piece
  | _, [] => []
  -- Each of these characters was read together with its placeholder.
  | taken + 1, _ :: rest => piecesFrom taken rest
  | 0, c :: rest =>
    if c = '\x7b' then
      match read? rest with
      | some (placeholder, length) => .hole placeholder :: piecesFrom length rest
      -- A brace that opens no placeholder is text, and one may still open behind it.
      | none => .char c :: piecesFrom 0 rest
    else .char c :: piecesFrom 0 rest

/-- The pieces of a line. -/
def pieces (line : List Char) : List Piece :=
  piecesFrom 0 line

/-- The placeholders among some pieces, each with its place, given the place of the first piece. -/
def placedFrom (place : Nat) : List Piece → List (Nat × Placeholder)
  | [] => []
  | .char _ :: rest => placedFrom (place + 1) rest
  | .hole placeholder :: rest =>
    -- A placeholder counts with all of its characters, as it stands in the line.
    (place, placeholder) :: placedFrom (place + placeholder.text.length) rest

/-- The placeholders of a line, each with the place that it starts at. -/
def placed (line : List Char) : List (Nat × Placeholder) :=
  placedFrom 0 (pieces line)

/-- The greatest amount that a mix can have. -/
def maxAmount : Nat := 100

/-- The color of a placeholder, if it has one, and the palette that remembers a mix. -/
def color? (palette : Palette) : Placeholder → Option Color × Palette
  | .plain name => (palette.get? name, palette)
  | .mix first digits second =>
    match readAmount digits with
    | .error _ => (none, palette)
    | .ok amount =>
      -- Such a mix has no color, and the palette is not even asked.
      if maxAmount < amount then (none, palette)
      else match palette.mixed first amount second with
        | (.ok color, palette) => (color, palette)
        | (.error _, palette) => (none, palette)

end Placeholder

/-- What became of a line: its text, the palette after it, and the warnings on the way. -/
structure Resolution where
  text : List Char
  palette : Palette
  warnings : List Warning
deriving DecidableEq, Repr

/-- What one placeholder turns into in a format given by its name. -/
def Placeholder.resolve (format : String) (palette : Palette) (placeholder : Placeholder) :
    Resolution :=
  match placeholder.color? palette with
  | (none, palette) => ⟨[], palette, [.noColor placeholder.expression]⟩
  | (some color, palette) =>
    match color.writeNamed format with
    | .ok text => ⟨text.toList, palette, []⟩
    -- A mix that was made stays in the palette, though its color cannot be written.
    | .error e => ⟨[], palette, [.noFormat placeholder.expression e.name]⟩

/-- What some pieces turn into, one after the other. -/
def resolvePieces (format : String) (palette : Palette) : List Piece → Resolution
  | [] => ⟨[], palette, []⟩
  | .char c :: rest =>
    let after := resolvePieces format palette rest
    { after with text := c :: after.text }
  | .hole placeholder :: rest =>
    let first := placeholder.resolve format palette
    -- Later placeholders of the line already find the mixes of earlier ones.
    let after := resolvePieces format first.palette rest
    ⟨first.text ++ after.text, after.palette, first.warnings ++ after.warnings⟩

/-- The line with a color in the place of every placeholder, in a format given by its name. -/
def resolveLine (format : String) (palette : Palette) (line : List Char) : Resolution :=
  resolvePieces format palette (Placeholder.pieces line)

end Themer
