/-! Lines of a text: every kind of line break becomes one, and a text falls into its lines. -/

namespace Themer.Text

/-- The text with each of the three line breaks, CR LF, CR and LF, written as LF. -/
def unifyBreaks : List Char → List Char
  | [] => []
  -- A return and a line feed are one break together.
  | '\r' :: '\n' :: rest => '\n' :: unifyBreaks rest
  | '\r' :: rest => '\n' :: unifyBreaks rest
  | c :: rest => c :: unifyBreaks rest

/--
The lines of a text, without their line breaks.

A break ends a line, so a text that ends in one has no empty line after it.
-/
def splitLines : List Char → List (List Char)
  | [] => []
  | c :: rest =>
    if c = '\n' then [] :: splitLines rest
    else match splitLines rest with
      -- No line follows, so the character begins the last one.
      | [] => [[c]]
      | line :: lines => (c :: line) :: lines

/-- The lines that a break ends, leaving out a last line without one. -/
def endedLines (text : List Char) : List (List Char) :=
  match text.getLast? with
  | some '\n' => splitLines text
  | _ => (splitLines text).dropLast

/-- A line without the breaks at its end. -/
def stripBreaks (line : List Char) : List Char :=
  (line.reverse.dropWhile (· == '\n')).reverse

end Themer.Text
