import Themer.Script.Syntax

/-! The patterns of a shell: what they accept, and what they cut off a text. -/

namespace Themer.Script

/-- A character of a pattern, and whether it may stand for others. -/
structure Glyph where
  char : Char
  isActive : Bool
deriving DecidableEq, Repr

/-- A member of a set of characters: those between two, or a class by its name. -/
inductive Member
  | range (low high : Char)
  | named (name : String)
deriving DecidableEq, Repr

/-- Whether a class of characters has one. -/
def classHas (name : String) (c : Char) : Bool :=
  let isPrinted := ' ' ≤ c && c ≤ '~'
  match name with
  | "alpha" => c.isAlpha
  | "digit" => c.isDigit
  | "alnum" => c.isAlphanum
  | "upper" => c.isUpper
  | "lower" => c.isLower
  | "blank" => c == ' ' || c == '\t'
  | "space" => c == ' ' || ('\t' ≤ c && c ≤ '\r')
  | "print" => isPrinted
  | "graph" => isPrinted && c != ' '
  | "punct" => isPrinted && c != ' ' && !c.isAlphanum
  | "cntrl" => c < ' ' || c == '\x7f'
  | "xdigit" => c.isDigit || ('a' ≤ c && c ≤ 'f') || ('A' ≤ c && c ≤ 'F')
  | _ => false

/-- Whether a member of a set stands for a character. -/
def Member.has (c : Char) : Member → Bool
  | .range low high => low ≤ c && c ≤ high
  | .named name => classHas name c

/-- An element of a pattern: any run of characters, or one character of some kind. -/
inductive Element
  | run
  | any
  | exactly (c : Char)
  | set (negated : Bool) (members : List Member)
deriving DecidableEq, Repr

/-- Whether an element accepts a single character. -/
def Element.has (c : Char) : Element → Bool
  | .run => true
  | .any => true
  | .exactly expected => c == expected
  | .set negated members => members.any (·.has c) != negated

/-- The name of a class in colons after a bracket, and what follows it. -/
def readClass? (text : List Glyph) : Option (String × List Glyph) :=
  match text with
  | ⟨'[', _⟩ :: ⟨':', _⟩ :: rest =>
    let name := rest.takeWhile (·.char.isAlpha)
    match rest.drop name.length with
    | ⟨':', _⟩ :: ⟨']', _⟩ :: after => some (String.ofList (name.map (·.char)), after)
    | _ => none
  | _ => none

/-- The members of a set up to its closing bracket, for at most so many steps. -/
def readMembers : Nat → Bool → List Glyph → Option (List Member × List Glyph)
  | 0, _, _ => none
  | _ + 1, _, [] => none
  | steps + 1, isFirst, glyph :: rest =>
    if glyph = ⟨']', true⟩ && !isFirst then some ([], rest)
    else
      let (member, after) := match readClass? (glyph :: rest), rest with
        | some (name, after), _ => (Member.named name, after)
        | none, ⟨'-', true⟩ :: high :: after =>
          if high = ⟨']', true⟩ then (Member.range glyph.char glyph.char, rest)
          else (Member.range glyph.char high.char, after)
        | none, _ => (Member.range glyph.char glyph.char, rest)
      (readMembers steps false after).map fun (members, after) => (member :: members, after)

/-- The elements of a pattern, for at most so many steps; an unclosed bracket is a character. -/
def elements : Nat → List Glyph → List Element
  | 0, _ => []
  | _ + 1, [] => []
  | steps + 1, glyph :: rest =>
    let plain := .exactly glyph.char :: elements steps rest
    if !glyph.isActive then plain
    else match glyph.char with
      | '*' => .run :: elements steps rest
      | '?' => .any :: elements steps rest
      | '[' =>
        let (negated, inside) := match rest with
          | ⟨'!', true⟩ :: inside => (true, inside)
          | _ => (false, rest)
        match readMembers (inside.length + 1) true inside with
        | some (members, after) => .set negated members :: elements steps after
        | none => plain
      | _ => plain

/-- The elements of a pattern. -/
def patternOf (glyphs : List Glyph) : List Element := elements glyphs.length glyphs

/-- Whether some elements accept a text as a whole. -/
def accepts (pattern : List Element) (text : Chars) : Bool :=
  match pattern, text with
  | [], text => text.isEmpty
  | .run :: rest, [] => accepts rest []
  | .run :: rest, c :: more => accepts rest (c :: more) || accepts (.run :: rest) more
  | _ :: _, [] => false
  | element :: rest, c :: more => element.has c && accepts rest more
termination_by pattern.length + text.length

/-- Whether some glyphs are a pattern that may stand for more than one text. -/
def isPattern (glyphs : List Glyph) : Bool :=
  glyphs.any fun glyph => glyph.isActive && ['*', '?', '['].contains glyph.char

/-- What a text keeps when a pattern is cut off at one of its ends. -/
def cutOff (side : Side) (greedy : Bool) (pattern : List Element) (text : Chars) : Chars :=
  let lengths := List.range (text.length + 1)
  match side with
  | .front =>
    let lengths := if greedy then lengths.reverse else lengths
    match lengths.find? fun length => accepts pattern (text.take length) with
    | some length => text.drop length
    | none => text
  | .back =>
    let lengths := if greedy then lengths else lengths.reverse
    match lengths.find? fun length => accepts pattern (text.drop length) with
    | some length => text.take length
    | none => text

/-- A star accepts what is between two others, and an exclamation mark turns a set around. -/
example :
    accepts [.exactly 'a', .run, .exactly 'c'] ['a', 'b', 'b', 'c'] = true ∧
      patternOf [⟨'[', true⟩, ⟨'!', true⟩, ⟨'x', true⟩, ⟨']', true⟩] =
        [.set true [.range 'x' 'x']] := by
  constructor
  · simp [accepts, Element.has]
  · decide

end Themer.Script
