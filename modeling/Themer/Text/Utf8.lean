/-! UTF-8: writing characters as bytes, and reading bytes back with the place of what is wrong. -/

namespace Themer.Text

/-- A string of bytes, as a file or a pipe holds it. -/
abbrev Bytes := List UInt8

namespace Utf8

/-- The bytes of a text. -/
def encode (text : List Char) : Bytes :=
  text.flatMap String.utf8EncodeChar

/-- Why some bytes are no character. -/
inductive Reason
  | invalidStart
  | invalidContinuation
  | unexpectedEnd
deriving DecidableEq, Repr

/-- Bytes that are no character, and where they start. -/
structure Failure where
  start : Nat
  bytes : Bytes
  reason : Reason
deriving DecidableEq, Repr

/-- The words for a reason. -/
def Reason.text : Reason → String
  | .invalidStart => "invalid start byte"
  | .invalidContinuation => "invalid continuation byte"
  | .unexpectedEnd => "unexpected end of data"

/-- One byte in two hexadecimal digits. -/
def hexByte (byte : UInt8) : String :=
  String.ofList [Nat.digitChar (byte.toNat / 16), Nat.digitChar (byte.toNat % 16)]

/-- The message for a failure names one byte by its value and several by their places. -/
def Failure.message (failure : Failure) : String :=
  match failure.bytes with
  | [byte] => s!"'utf-8' codec can't decode byte 0x{hexByte byte} in position {failure.start}: " ++
      failure.reason.text
  | bytes => s!"'utf-8' codec can't decode bytes in position {failure.start}-" ++
      s!"{failure.start + bytes.length - 1}: " ++ failure.reason.text

/-- What a first byte announces: its share of the code point and the bytes that may follow. -/
def lead? (byte : UInt8) : Option (Nat × List (Nat × Nat)) :=
  let n := byte.toNat
  -- After four of the first bytes the second one is limited, which keeps out overlong forms,
  -- surrogates and what lies beyond the last code point.
  let any := (0x80, 0xBF)
  if n < 0x80 then some (n, [])
  else if n < 0xC2 then none
  else if n < 0xE0 then some (n - 0xC0, [any])
  else if n = 0xE0 then some (0, [(0xA0, 0xBF), any])
  else if n = 0xED then some (0xD, [(0x80, 0x9F), any])
  else if n < 0xF0 then some (n - 0xE0, [any, any])
  else if n = 0xF0 then some (0, [(0x90, 0xBF), any, any])
  else if n < 0xF4 then some (n - 0xF0, [any, any, any])
  else if n = 0xF4 then some (4, [(0x80, 0x8F), any, any])
  else none

/-- A character that has begun: where, its bytes so far, its value so far, and what may follow. -/
structure Begun where
  start : Nat
  bytes : Bytes
  value : Nat
  allowed : List (Nat × Nat)
deriving Repr

/-- How a reading ends: between two characters, inside one, or at bytes that are none. -/
inductive Ending
  | whole
  | inside (begun : Begun)
  | failed (failure : Failure)
deriving Repr

/-- The characters read from a place on, and how the reading ends. -/
def scan (place : Nat) : Option Begun → Bytes → List Char × Ending
  | none, [] => ([], .whole)
  | some begun, [] => ([], .inside begun)
  -- Between characters: the byte stands for itself, or it announces more of them.
  | none, byte :: rest =>
    match lead? byte with
    | none => ([], .failed ⟨place, [byte], .invalidStart⟩)
    | some (value, []) =>
      let (text, ending) := scan (place + 1) none rest
      (Char.ofNat value :: text, ending)
    | some (value, allowed) => scan (place + 1) (some ⟨place, [byte], value, allowed⟩) rest
  -- Inside a character: the byte must be one of those that may follow.
  | some begun, byte :: rest =>
    match begun.allowed with
    | (low, high) :: more =>
      if low ≤ byte.toNat ∧ byte.toNat ≤ high then
        -- A continuation byte carries six bits.
        let value := begun.value * 64 + byte.toNat % 64
        if more.isEmpty then
          let (text, ending) := scan (place + 1) none rest
          (Char.ofNat value :: text, ending)
        else
          scan (place + 1) (some ⟨begun.start, begun.bytes ++ [byte], value, more⟩) rest
      -- The byte that does not fit is not counted in, for it may begin a character of its own.
      else ([], .failed ⟨begun.start, begun.bytes, .invalidContinuation⟩)
    | [] => ([], .failed ⟨begun.start, begun.bytes, .invalidContinuation⟩)

/-- The text of some bytes read at once. -/
def decode (bytes : Bytes) : Except Failure (List Char) :=
  match scan 0 none bytes with
  | (text, .whole) => .ok text
  | (_, .inside begun) => .error ⟨begun.start, begun.bytes, .unexpectedEnd⟩
  | (_, .failed failure) => .error failure

/-- Whether some bytes are the first two of a surrogate, which is no character. -/
def beginSurrogate : Bytes → Bool
  | [first, second] => first == 0xED && 0xA0 ≤ second.toNat && second.toNat ≤ 0xBF
  | _ => false

/--
The text of a block, and the bytes that are left for the next one.

These belong to a character cut off by the end of the block.
The first two bytes of a surrogate wait for the third as well, although nothing can come of them.
-/
def decodeBlock (bytes : Bytes) : Except Failure (List Char × Bytes) :=
  match scan 0 none bytes with
  | (text, .whole) => .ok (text, [])
  -- What has begun waits for the next block.
  | (text, .inside begun) => .ok (text, begun.bytes)
  | (text, .failed failure) =>
    let tail := bytes.drop failure.start
    if beginSurrogate tail then .ok (text, tail) else .error failure

/--
The text of some bytes read block by block, up to the first block that cannot be read.

The bytes left by a block go in front of the next one,
and places count from the first byte of the block so extended.
-/
def decodeBlocks (left : Bytes) : List Bytes → List Char × Option Failure
  -- No block is left to complete what waits, so it is read as it is.
  | [] => match decode left with
    | .ok text => (text, none)
    | .error failure => ([], some failure)
  | block :: blocks =>
    match decodeBlock (left ++ block) with
    | .ok (text, left) =>
      let (more, failure) := decodeBlocks left blocks
      (text ++ more, failure)
    | .error failure => ([], some failure)

/-- The number of bytes a file is read by at a time. -/
def blockSize : Nat := 8192

/-- At most so many blocks of the bytes, in order. -/
def blocksWithin : Nat → Bytes → List Bytes
  | 0, _ => []
  | _ + 1, [] => []
  | count + 1, bytes => bytes.take blockSize :: blocksWithin count (bytes.drop blockSize)

/-- The text of a file read block by block, and what stopped the reading, if anything did. -/
def decodeFile (bytes : Bytes) : List Char × Option Failure :=
  decodeBlocks [] (blocksWithin bytes.length bytes)

/-- A lone start byte is told by its value, two bytes of a cut-off character by their places. -/
example : (decode [0xFF]).toOption = none ∧
    (decode [0x61, 0xC3, 0xA9]).toOption = some ['a', 'é'] := by
  decide

end Utf8

end Themer.Text
