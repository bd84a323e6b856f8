import Themer.Text.Quoted

/-! A JSON object of texts, one member a line, in ASCII alone. -/

namespace Themer.Json

/-- A code of 16 bits as an escape. -/
def unicodeEscapeOf (code : Nat) : List Char :=
  '\\' :: 'u' :: Text.hexFilled 4 code

/-- How one character stands in a string: ASCII as it is, everything else escaped. -/
def escaped (c : Char) : List Char :=
  if c = '"' then ['\\', '"']
  else if c = '\\' then ['\\', '\\']
  else if c = '\n' then ['\\', 'n']
  else if c = '\r' then ['\\', 'r']
  else if c = '\t' then ['\\', 't']
  -- Of the other controls only two have a short escape.
  else if c = '\x0C' then ['\\', 'f']
  else if c = '\x08' then ['\\', 'b']
  else if 0x20 ≤ c.toNat ∧ c.toNat < 0x7F then [c]
  else if c.toNat < 0x10000 then unicodeEscapeOf c.toNat
  else
    -- Beyond 16 bits a character takes two escapes, an upper surrogate and a lower one.
    unicodeEscapeOf (0xD800 + (c.toNat - 0x10000) / 0x400)
      ++ unicodeEscapeOf (0xDC00 + (c.toNat - 0x10000) % 0x400)

/-- A text between double quotes. -/
def writeString (text : String) : List Char :=
  '"' :: text.toList.flatMap escaped ++ ['"']

/-- A member on a line of its own, indented by two. -/
def writeMember (member : String × String) : List Char :=
  '\n' :: ' ' :: ' ' :: writeString member.1 ++ [':', ' '] ++ writeString member.2

/-- The members with a comma between each two of them. -/
def writeMembers : List (String × String) → List Char
  | [] => []
  | [member] => writeMember member
  | member :: rest => writeMember member ++ ',' :: writeMembers rest

/-- An object with its members in order. -/
def writeObject (members : List (String × String)) : List Char :=
  -- An empty object has no line of its own for its closing brace.
  if members.isEmpty then ['\x7b', '\x7d']
  else '\x7b' :: writeMembers members ++ ['\n', '\x7d']

end Themer.Json
