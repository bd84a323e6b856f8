import Themer.Text.CharClass

/-! Quoted text: how a message shows a text so that every character of it can be told. -/

namespace Themer.Text

/-- A number in lower-case hexadecimal, filled with zeros up to a width. -/
def hexFilled (width number : Nat) : List Char :=
  let digits := Nat.toDigits 16 number
  List.replicate (width - digits.length) '0' ++ digits

/-- The quote a text is shown in: the single one, unless only that one occurs in the text. -/
def quoteFor (text : List Char) : Char :=
  if text.contains '\'' && !text.contains '"' then '"' else '\''

/-- How one character is shown between quotes. -/
def quotedChar (quote c : Char) : List Char :=
  -- Only the quote in use is escaped; the other one stands as it is.
  if c = quote || c = '\\' then ['\\', c]
  else if c = '\n' then ['\\', 'n']
  else if c = '\r' then ['\\', 'r']
  else if c = '\t' then ['\\', 't']
  else if isPrintable c then [c]
  -- What would not show is written by its code, in the shortest form that has room for it.
  else if c.toNat < 0x100 then '\\' :: 'x' :: hexFilled 2 c.toNat
  else if c.toNat < 0x10000 then '\\' :: 'u' :: hexFilled 4 c.toNat
  else '\\' :: 'U' :: hexFilled 8 c.toNat

/-- The text between quotes, with marks for what would not show. -/
def quoted (text : String) : String :=
  let cs := text.toList
  let quote := quoteFor cs
  String.ofList (quote :: cs.flatMap (quotedChar quote) ++ [quote])

/-- A single quote alone turns the quotes into double ones. -/
example : quoted "it's" = "\"it's\"" := by decide

end Themer.Text
