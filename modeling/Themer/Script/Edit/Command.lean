import Themer.Script.Regex

/-! The commands of an edit: what they do, and the lines they are for. -/

namespace Themer.Script

/-- What picks the lines that a command is for; an expression that is missing is the last used. -/
inductive Address
  | line (number : Nat)
  | step (first size : Nat)
  | last
  | found (regex : Option Regex) (anyCase : Bool)
  | after (count : Nat)
  | multiple (size : Nat)
deriving Repr

/-- How the letters of a replacement are changed. -/
inductive LetterCase
  | asIs
  | upper
  | lower
deriving DecidableEq, Repr

/-- A part of a replacement. -/
inductive ReplacementPart
  | literal (c : Char)
  | group (number : Nat)
  | turn (letterCase : LetterCase)
  | turnNext (letterCase : LetterCase)
deriving DecidableEq, Repr

/-- A substitution: what it looks for, what it puts there, and which of the matches it is for. -/
structure Substitution where
  regex : Option Regex
  anyCase : Bool
  replacement : List ReplacementPart
  isGlobal : Bool
  first : Nat
  prints : Bool
  file : Option Chars
deriving Repr

/-- What a command of an edit does. -/
inductive EditAction
  | opening
  | closing
  | label (name : Chars)
  | branch (name : Chars)
  | branchIf (changed : Bool) (name : Chars)
  | delete
  | deleteFirst
  | print
  | printFirst
  | next
  | nextAppend
  | hold
  | holdAppend
  | get
  | getAppend
  | exchange
  | lineNumber
  | quit (status : Nat)
  | quitSilently (status : Nat)
  | append (text : Chars)
  | insert (text : Chars)
  | change (text : Chars)
  | readFile (name : Chars)
  | writeFile (name : Chars)
  | list
  | transliterate (pairs : List (Char × Char))
  | substitute (substitution : Substitution)
deriving Repr

/-- A command of an edit, with the lines it is for. -/
structure EditCommand where
  addresses : List Address
  negated : Bool
  action : EditAction
deriving Repr

end Themer.Script
