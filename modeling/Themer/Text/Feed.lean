import Themer.Text.Lines
import Themer.Text.Utf8

/-! The text of a file as it comes in: in pieces of so many characters, read by blocks of bytes. -/

namespace Themer.Text

/-- A file under way: what is unread, what waits between blocks, and the size of the last one. -/
structure Feed where
  unread : Bytes
  left : Bytes
  breakWaits : Bool
  ready : List Char
  lastBytes : Nat
  lastChars : Nat
deriving Repr

namespace Feed

/-- A file before its first byte. -/
def start (bytes : Bytes) : Feed := ⟨bytes, [], false, [], 0, 0⟩

/-- How many bytes are read for some more characters: as many as those of the last block took. -/
def blockSize (feed : Feed) (wanted : Nat) : Nat :=
  let scaled := if feed.lastChars < feed.lastBytes then
      -- A block that gave no character says nothing of how many bytes one takes.
      if feed.lastChars = 0 then wanted else feed.lastBytes * wanted / feed.lastChars
    else wanted
  max Utf8.blockSize scaled

/-- The feed with the text of a block; a carriage return at its end waits for what follows. -/
def take (feed : Feed) (size : Nat) (text : List Char) (left : Bytes) : Feed :=
  -- The return that waited goes in front, and one at the new end waits in its turn.
  let text := if feed.breakWaits && !text.isEmpty then '\r' :: text else text
  let breakWaits := text.getLast? = some '\r' || (feed.breakWaits && text.isEmpty)
  let whole := unifyBreaks (if text.getLast? = some '\r' then text.dropLast else text)
  { unread := feed.unread.drop size, left, breakWaits, ready := feed.ready ++ whole
    lastBytes := size, lastChars := whole.length }

/-- The feed with at least so many characters ready or all of them, for at most so many blocks. -/
def fill (wanted : Nat) : Nat → Feed → Except Utf8.Failure Feed
  | 0, feed => .ok feed
  | blocks + 1, feed =>
    if wanted ≤ feed.ready.length then .ok feed
    -- At the end nothing can follow, so a return that waits is a break by itself.
    else if feed.unread.isEmpty then do
      let text ← Utf8.decode feed.left
      let last := if feed.breakWaits then ['\n'] else []
      return { feed with left := [], breakWaits := false, ready := feed.ready ++ last ++ text }
    else do
      -- The size is reckoned from what is still wanted beyond the characters that are ready.
      let block := feed.unread.take (feed.blockSize (wanted - feed.ready.length))
      let (text, left) ← Utf8.decodeBlock (feed.left ++ block)
      fill wanted blocks (feed.take block.length text left)

/-- The pieces of a feed up to its end, and what stopped the reading, if anything did. -/
def pieces (size : Nat) : Nat → Feed → List (List Char) × Option Utf8.Failure
  | 0, _ => ([], none)
  | steps + 1, feed =>
    match feed.fill size (feed.unread.length + 1) with
    | .error failure => ([], some failure)
    | .ok feed =>
      -- Nothing comes any more: this is the end of the file.
      if feed.ready.isEmpty then ([], none)
      else
        let (more, failure) :=
          pieces size steps { feed with ready := feed.ready.drop size }
        (feed.ready.take size :: more, failure)

end Feed

end Themer.Text
