import Themer.Script.Syntax

/-! Texts in pieces: the lines, fields and groups that they are made of. -/

namespace Themer.Script

/-- The pieces of a text between separators. -/
def splitAt (separator : Char) : Chars → List Chars
  | [] => [[]]
  | c :: rest =>
    if c = separator then [] :: splitAt separator rest
    else match splitAt separator rest with
      | [] => [[c]]
      | piece :: more => (c :: piece) :: more

/-- The lines of a text; what follows the last line end is a line if there is something. -/
def linesIn : Chars → List Chars
  | [] => []
  | c :: rest =>
    if c = '\n' then [] :: linesIn rest
    else match linesIn rest with
      | [] => [[c]]
      | line :: more => (c :: line) :: more

/-- The lines of a text, each with the line end that it ends in, if there is one. -/
def linesWithEnds : Chars → List Chars
  | [] => []
  | c :: rest =>
    if c = '\n' then [c] :: linesWithEnds rest
    else match linesWithEnds rest with
      | [] => [[c]]
      | line :: more => (c :: line) :: more

/-- Some items in groups of a size, of which there are at most so many. -/
def chunks (size : Nat) : Nat → List Chars → List (List Chars)
  | 0, _ => []
  | _ + 1, [] => []
  | count + 1, items => items.take size :: chunks size count (items.drop size)

/-- A text with another text in each place of a mark, for at most so many steps. -/
def replaceAll (mark other : Chars) : Nat → Chars → Chars
  | 0, text => text
  | _ + 1, [] => []
  | steps + 1, c :: rest =>
    if !mark.isEmpty && mark.isPrefixOf (c :: rest) then
      other ++ replaceAll mark other steps ((c :: rest).drop mark.length)
    else c :: replaceAll mark other steps rest

/-- A separator at an end has an empty piece beside it. -/
example : splitAt ':' ['a', ':', ':', 'b', ':'] = [['a'], [], ['b'], []] := by decide

end Themer.Script
