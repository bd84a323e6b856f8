import Themer.Text.CharClass

/-! Paths by their parts: reading and writing them, joining them, and the names they end in. -/

namespace Themer

/-- Where a path starts: at the working directory, at the root, or at a root of two slashes. -/
inductive Anchor
  | here
  | root
  | doubleRoot
deriving DecidableEq, Repr

/--
A path: where it starts, and the names from there on.

No name is empty or a single dot, since neither leads anywhere; two dots stay.
-/
structure Path where
  anchor : Anchor
  parts : List String
deriving DecidableEq, Repr

namespace Path

/-- The pieces of a text between slashes, the empty ones included. -/
def pieces : List Char → List (List Char)
  | [] => [[]]
  | c :: rest =>
    if c = '/' then [] :: pieces rest
    else match pieces rest with
      | [] => [[c]]
      | piece :: more => (c :: piece) :: more

/-- The anchor that a text starts with; more slashes than two count as one. -/
def anchorOf : List Char → Anchor
  -- Two slashes, and only two, are a root of their own.
  | '/' :: '/' :: '/' :: _ => .root
  | '/' :: '/' :: _ => .doubleRoot
  | '/' :: _ => .root
  | _ => .here

/-- Whether a piece between slashes leads anywhere. -/
def isName (piece : List Char) : Bool :=
  piece != [] && piece != ['.']

/-- The path that a text spells. -/
def ofString (text : String) : Path :=
  ⟨anchorOf text.toList, ((pieces text.toList).filter isName).map String.ofList⟩

/-- The slashes an anchor is written as. -/
def Anchor.text : Anchor → String
  | .here => ""
  | .root => "/"
  | .doubleRoot => "//"

/-- The path as a text; one that leads nowhere is a dot. -/
def text (path : Path) : String :=
  match path.anchor, path.parts with
  -- Without a name and without a root there is nothing to write but the working directory.
  | .here, [] => "."
  | anchor, parts => Anchor.text anchor ++ "/".intercalate parts

/-- The second path seen from the first; one that starts at a root replaces the first. -/
def join (path other : Path) : Path :=
  match other.anchor with
  | .here => ⟨path.anchor, path.parts ++ other.parts⟩
  -- A root in the second path leaves nothing of the first.
  | _ => other

/-- What a text spells, seen from a path. -/
def child (path : Path) (name : String) : Path :=
  path.join (ofString name)

/-- What lies in the directory at a path under a name. -/
def entry (path : Path) (name : String) : Path :=
  ⟨path.anchor, path.parts ++ [name]⟩

/-- The last name, or nothing if there is none. -/
def name (path : Path) : String :=
  path.parts.getLast?.getD ""

/-- The path without its last name. -/
def parent (path : Path) : Path :=
  ⟨path.anchor, path.parts.dropLast⟩

/-- Where the last dot of a name stands. -/
def lastDot? (name : List Char) : Option Nat :=
  (name.reverse.findIdx? (· == '.')).map fun fromEnd => name.length - 1 - fromEnd

/-- A name without its extension; a dot at either end starts none. -/
def stemOf (name : List Char) : List Char :=
  match lastDot? name with
  -- A dot in front hides a file, and one at the end has nothing behind it.
  | some place => if 0 < place ∧ place < name.length - 1 then name.take place else name
  | none => name

/-- The last name without its extension. -/
def stem (path : Path) : String :=
  String.ofList (stemOf path.name.toList)

/-- Slashes in a row, single dots and a slash at the end vanish. -/
example : (ofString "a//b/./c/").text = "a/b/c" ∧ (ofString "").text = "." := by decide

end Path

end Themer
