import Themer.Text.CharClass
import Themer.Yaml.Fault

/-! Scalars of YAML as they are written: plain ones over several lines, and quoted ones. -/

namespace Themer.Yaml

/-- Whether a character breaks a line. -/
def isBreak (c : Char) : Bool :=
  c == '\n' || c == '\r' || c == '\x85' || c == '\u2028' || c == '\u2029'

/-- Whether a character separates tokens. -/
def isGap (c : Char) : Bool := c == ' ' || c == '\t' || isBreak c

/-- Whether a text is at its end or goes on with a gap. -/
def gapFollows (text : List Char) : Bool := text.head?.all isGap

/-- Whether a line starts with one of the marks between documents. -/
def isSeparator (line : List Char) : Bool :=
  (line.take 3 == ['-', '-', '-'] || line.take 3 == ['.', '.', '.']) && gapFollows (line.drop 3)

/-- The break at the start of a text, the next line of ASCII counting as a line feed. -/
def readBreak? (text : List Char) : Option (Char × List Char) :=
  match text with
  | '\r' :: '\n' :: rest => some ('\n', rest)
  | c :: rest =>
    if c == '\r' || c == '\x85' then some ('\n', rest)
    else if isBreak c then some (c, rest) else none
  | [] => none

/-- What a first break and more of them are folded to: one line feed alone becomes a space. -/
def folded (first : Char) (more : List Char) : List Char :=
  if first != '\n' then first :: more
  -- The first of several line feeds only ends the line, the others stand for themselves.
  else if more.isEmpty then [' '] else more

/-- The breaks and spaces at the start of a text, unless a mark between documents is reached. -/
def plainBreaks : List Char → Option (List Char) × List Char
  | [] => (some [], [])
  | c :: rest =>
    if c = ' ' then plainBreaks rest
    else if isBreak c then
      -- A scalar does not go on into the next document.
      if isSeparator rest then (none, rest)
      else
        let kept := if c == '\x85' then '\n' else c
        let (more, after) := plainBreaks rest
        (more.map (kept :: ·), after)
    else (some [], c :: rest)

/-- What comes after a word of a plain scalar. -/
structure PlainGap where
  kept : List Char
  rest : List Char
  broken : Bool

/-- The gap after a word of a plain scalar: what it is folded to, and whether a line ends in it. -/
def plainGap (text : List Char) : PlainGap :=
  let after := text.dropWhile (· == ' ')
  match readBreak? after with
  | none => ⟨text.takeWhile (· == ' '), after, false⟩
  | some (first, rest) =>
    if isSeparator rest then ⟨[], rest, true⟩
    else match plainBreaks rest with
      | (none, rest) => ⟨[], rest, true⟩
      | (some more, rest) => ⟨folded first more, rest, true⟩

/-- The characters that end a word inside of brackets. -/
def isFlowMark (c : Char) : Bool := [',', '?', '[', ']', '\x7b', '\x7d'].contains c

/-- Whether a colon ends a word: a gap follows, or inside of brackets some of the marks. -/
def colonEnds (inFlow : Bool) (rest : List Char) : Bool :=
  gapFollows rest || (inFlow && rest.head?.any fun c => [',', '[', ']', '\x7b', '\x7d'].contains c)

/-- A word of a plain scalar, and what follows it. -/
def plainWord (inFlow : Bool) : List Char → List Char × List Char
  | [] => ([], [])
  | c :: rest =>
    if isGap c || (c == ':' && colonEnds inFlow rest) || (inFlow && isFlowMark c) then
      ([], c :: rest)
    else
      let (word, after) := plainWord inFlow rest
      (c :: word, after)

/-- A scalar, what follows it, and whether a line has just ended. -/
structure PlainScalar where
  text : List Char
  rest : List Char
  broken : Bool

/-- The column after some text, the first text starting in a given column. -/
def columnAfter (column : Nat) (text : List Char) : Nat :=
  text.foldl (fun column c => if isBreak c then 0 else if c == '\uFEFF' then column else column + 1)
    column

/-- The part of a text that a later one has not got any more. -/
def before (text later : List Char) : List Char :=
  text.take (text.length - later.length)

/--
A plain scalar, for at most so many words.

Outside of brackets its further lines must be indented by at least a given column.
-/
def plainScalar (inFlow : Bool) (indent : Int) : Nat → Nat → List Char → PlainScalar
  | 0, _, text => ⟨[], text, false⟩
  | words + 1, column, text =>
    let (word, after) := plainWord inFlow text
    if word.isEmpty then ⟨[], text, false⟩
    else
      let gap := plainGap after
      let column := columnAfter column (before text gap.rest)
      if gap.kept.isEmpty || gap.rest.head? == some '#' || (!inFlow && (column : Int) < indent) then
        ⟨word, gap.rest, gap.broken⟩
      else
        let more := plainScalar inFlow indent words column gap.rest
        -- The gap counts as part of the scalar only if another word follows.
        if more.text.isEmpty then ⟨word, gap.rest, gap.broken⟩
        else ⟨word ++ gap.kept ++ more.text, more.rest, more.broken⟩

/-- The breaks and blanks inside of quotes, for at most so many lines. -/
def quotedBreaks : Nat → List Char → Except Stop (List Char × List Char)
  | 0, text => .ok ([], text)
  | lines + 1, text =>
    if isSeparator text then .error Fault.separatorInQuote.stop
    else
      let after := text.dropWhile fun c => c == ' ' || c == '\t'
      match readBreak? after with
      | some (first, rest) => do
        let (more, after) ← quotedBreaks lines rest
        return (first :: more, after)
      | none => .ok ([], after)

/-- The characters that single letters stand for after a backslash. -/
def escapes : List (Char × Char) :=
  [('0', '\x00'), ('a', '\x07'), ('b', '\x08'), ('t', '\t'), ('\t', '\t'), ('n', '\n'),
    ('v', '\x0B'), ('f', '\x0C'), ('r', '\r'), ('e', '\x1B'), (' ', ' '), ('"', '"'),
    ('\\', '\\'), ('/', '/'), ('N', '\x85'), ('_', '\xA0'), ('L', '\u2028'), ('P', '\u2029')]

/-- How many digits the code of a character has after each letter. -/
def codeLengths : List (Char × Nat) := [('x', 2), ('u', 4), ('U', 8)]

/-- The character of a code in hexadecimal digits. -/
def readCode (digits : List Char) (length : Nat) : Except Stop Char :=
  match digits.mapM Text.hexValue? with
  | none => .error Fault.unknownEscape.stop
  | some values =>
    let code := values.foldl (fun code value => code * 16 + value) 0
    if values.length < length then .error Fault.unterminatedQuote.stop
    -- A code may be too big for a signed number of 32 bits, or only for a character.
    else if 0x80000000 ≤ code then .error (.cutShort .codeOutOfBounds)
    else if 0x110000 ≤ code then .error (.cutShort .noCharacter)
    -- Half of a pair is no character by itself.
    else if 0xD800 ≤ code ∧ code < 0xE000 then .ok '\uFFFD'
    else .ok (Char.ofNat code)

/-- What an escape stands for, after its backslash, and what follows it. -/
def readEscape (text : List Char) : Except Stop (List Char × List Char) :=
  match text with
  | [] => .error Fault.unterminatedQuote.stop
  | c :: rest =>
    match escapes.lookup c, codeLengths.lookup c, readBreak? text with
    | some meant, _, _ => .ok ([meant], rest)
    | none, some length, _ => do
      let meant ← readCode (rest.take length) length
      return ([meant], rest.drop length)
    -- An escaped break is left out, and with it the blanks in front of the next line.
    | none, none, some (_, after) => quotedBreaks (after.length + 1) after
    | none, none, none => .error Fault.unknownEscape.stop

/-- The rest of a quoted scalar, for at most so many steps, and what follows its end. -/
def quotedScalar (quote : Char) : Nat → List Char → Except Stop (List Char × List Char)
  | 0, _ => .error Fault.unterminatedQuote.stop
  | _ + 1, [] => .error Fault.unterminatedQuote.stop
  | steps + 1, c :: rest =>
    let go (kept after : List Char) : Except Stop (List Char × List Char) := do
      let (more, after) ← quotedScalar quote steps after
      return (kept ++ more, after)
    if c = quote then
      match rest with
      | next :: after =>
        -- Only between single quotes does a doubled one stand for one of them.
        if quote = '\'' && next = '\'' then go ['\''] after else .ok ([], rest)
      | [] => .ok ([], [])
    else if c = '\\' && quote = '"' then
      match readEscape rest with
      | .ok (kept, after) => go kept after
      | .error e => .error e
    else if isGap c then
      let text := c :: rest
      let after := text.dropWhile fun c => c == ' ' || c == '\t'
      match readBreak? after with
      | some (first, after) => match quotedBreaks (after.length + 1) after with
        | .ok (more, after) => go (folded first more) after
        | .error e => .error e
      -- Blanks before a break are left out, and those before a word are kept.
      | none => go (before text after) after
    else go [c] rest

/-- A plain scalar goes on over a line break, and a comment ends it. -/
example : (plainScalar false 1 9 0 "a b\n  c # d".toList).text = "a b c".toList := by decide

end Themer.Yaml
