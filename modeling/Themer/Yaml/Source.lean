import Themer.Text.Feed
import Themer.Yaml.Fault

/-!
The text of a YAML file, read only as far as it is needed.

What is wrong with a later part of it stays unnoticed if something else is wrong before.
-/

namespace Themer.Yaml

/-- A text as far as it can be read, and what stops the reading there if it is not at its end. -/
structure Source where
  text : List Char
  cut : Option Stop
deriving Repr

namespace Source

/-- Whether a character may stand in a document at all. -/
def isReadable (c : Char) : Bool :=
  let n := c.toNat
  n == 0x09 || n == 0x0A || n == 0x0D || (0x20 ≤ n && n ≤ 0x7E) || n == 0x85 ||
    (0xA0 ≤ n && n ≤ 0xD7FF) || (0xE000 ≤ n && n ≤ 0xFFFD) || 0x10000 ≤ n

/-- The source of pieces up to the first one with a character that may not stand there. -/
def ofPieces (last : Option Stop) : List (List Char) → Source
  | [] => ⟨[], last⟩
  | piece :: rest =>
    match piece.find? fun c => !isReadable c with
    -- Nothing of the piece counts, for it is looked through as a whole when it comes in.
    | some c => ⟨[], some (Fault.unreadableCharacter c).stop⟩
    | none =>
      let more := ofPieces last rest
      ⟨piece ++ more.text, more.cut⟩

/-- How many characters are read at a time. -/
def pieceSize : Nat := 4096

/-- The source of a file. Two pieces are read before anything else is done. -/
def ofBytes (bytes : Text.Bytes) : Source :=
  let (pieces, failure) := (Text.Feed.start bytes).pieces pieceSize (bytes.length + 1)
  let last : Option Stop := failure.map fun failure => .cutShort (.notUtf8 failure)
  match pieces, last with
  | first :: second :: rest, _ => ofPieces last ((first ++ second) :: rest)
  | _, some stop => ⟨[], some stop⟩
  | pieces, none => ofPieces none pieces

end Source

end Themer.Yaml
