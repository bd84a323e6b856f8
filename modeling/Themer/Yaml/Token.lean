import Themer.Yaml.Scalar
import Themer.Yaml.Source

/-!
The tokens of a YAML document.

A key is known as one only when its colon is reached.
So each place where a key may have started is remembered, and its token comes in afterwards.
-/

namespace Themer.Yaml

/-- A token; the last one of all tells how the text ends, or why nobody can look further. -/
inductive Token
  | documentStart
  | documentEnd
  | blockList
  | blockMap
  | blockEnd
  | openList
  | closeList
  | openMap
  | closeMap
  | comma
  | entry
  | key
  | value
  | scalar (text : String) (plain : Bool)
  | textEnd
  | stopped (stop : Stop)
deriving DecidableEq, Repr

/-- Where a key may have started. -/
structure Candidate where
  flow : Nat
  tokens : Nat
  offset : Nat
  line : Nat
  column : Nat
  required : Bool
deriving DecidableEq, Repr

/--
A scan under way: the rest of the text with its place, and what the next tokens depend on.

The tokens so far stand in reverse, and a text may be cut off before its end.
The indentation is the column of the innermost block, and less than zero outside of all.
-/
structure Scan where
  rest : List Char
  offset : Nat
  line : Nat
  column : Nat
  flow : Nat
  indent : Int
  outer : List Int
  keyAllowed : Bool
  candidates : List Candidate
  tokens : List Token
  cut : Option Stop
  isDone : Bool
deriving Repr

namespace Scan

/-- The scan of a text before its first token; a byte order mark in front does not count. -/
def start (source : Source) : Scan :=
  { rest := match source.text with
      | '\uFEFF' :: rest => rest
      | text => text
    offset := 0, line := 0, column := 0, flow := 0, indent := -1, outer := []
    keyAllowed := true, candidates := [], tokens := [], cut := source.cut, isDone := false }

/-- The scan moved on to where a later rest of its text starts. -/
def moveTo (scan : Scan) (later : List Char) : Scan :=
  -- The place is told by what was passed, whatever it was passed as.
  let passed := before scan.rest later
  { scan with
    rest := later
    offset := scan.offset + passed.length
    line := scan.line + (passed.filter isBreak).length
    column := columnAfter scan.column passed }

/-- The scan moved on by some characters. -/
def forward (scan : Scan) (count : Nat) : Scan :=
  scan.moveTo (scan.rest.drop count)

/-- The scan with one more token. -/
def add (scan : Scan) (token : Token) : Scan :=
  { scan with tokens := token :: scan.tokens }

/-- The scan with a token put in front of those after the first so many. -/
def insert (scan : Scan) (count : Nat) (token : Token) : Scan :=
  -- They stand in reverse, so those that come after are in front.
  let later := scan.tokens.length - count
  { scan with tokens := scan.tokens.take later ++ token :: scan.tokens.drop later }

/-- The scan with keys allowed or not. -/
def allowKey (scan : Scan) (keyAllowed : Bool) : Scan :=
  { scan with keyAllowed }

/-- Whether the scan is inside of brackets. -/
def inFlow (scan : Scan) : Bool := scan.flow != 0

/-- The candidate at the present depth of brackets. -/
def candidate? (scan : Scan) : Option Candidate :=
  scan.candidates.find? (·.flow == scan.flow)

/-- The scan without the candidate at the present depth of brackets. -/
def forget (scan : Scan) : Scan :=
  { scan with candidates := scan.candidates.filter (·.flow != scan.flow) }

/-- The number of characters that a key may have. -/
def keyLimit : Nat := 1024

/-- Whether a candidate can be no key any more: its line is over, or it is too far away. -/
def isStale (scan : Scan) (candidate : Candidate) : Bool :=
  candidate.line != scan.line || keyLimit < scan.offset - candidate.offset

/-- The scan without the stale candidates, of which none may be required. -/
def dropStale (scan : Scan) : Except Stop Scan :=
  if scan.candidates.any fun candidate => scan.isStale candidate && candidate.required then
    .error Fault.keyWithoutColon.stop
  else .ok { scan with candidates := scan.candidates.filter fun c => !scan.isStale c }

/-- The scan without the candidate at the present depth, which must not be required. -/
def dropCandidate (scan : Scan) : Except Stop Scan :=
  if scan.candidate?.any (·.required) then .error Fault.keyWithoutColon.stop
  else .ok scan.forget

/-- The scan with a candidate at the present place, if keys are allowed there. -/
def saveCandidate (scan : Scan) : Except Stop Scan :=
  if scan.keyAllowed then do
    let scan ← scan.dropCandidate
    -- At the column of a block nothing but one of its keys can stand.
    let required := !scan.inFlow && scan.indent == scan.column
    let candidate :=
      ⟨scan.flow, scan.tokens.length, scan.offset, scan.line, scan.column, required⟩
    return { scan with candidates := candidate :: scan.candidates }
  else .ok scan

/-- The scan with every block closed that is indented deeper than a column. -/
def unwind (scan : Scan) (column : Int) : Scan :=
  let rec close (outer : List Int) (indent : Int) (tokens : List Token) :
      List Int × Int × List Token :=
    if column < indent then
      match outer with
      -- Outside of all blocks the indentation is below every column.
      | [] => ([], -1, .blockEnd :: tokens)
      | next :: rest => close rest next (.blockEnd :: tokens)
    else (outer, indent, tokens)
  if scan.inFlow then scan
  else
    let (outer, indent, tokens) := close scan.outer scan.indent scan.tokens
    { scan with outer, indent, tokens }

/-- The scan with a block opened at a column, if it is deeper than the innermost one. -/
def openBlock? (scan : Scan) (column : Nat) : Option Scan :=
  -- Not at the same column: there a block goes on that is open already.
  if scan.indent < column then
    some { scan with outer := scan.indent :: scan.outer, indent := column }
  else none

/-- The scan at the next token, past gaps and comments; outside of brackets keys may start. -/
def skipGaps : Nat → Scan → Scan
  | 0, scan => scan
  | steps + 1, scan =>
    let text := scan.rest.dropWhile (· == ' ')
    let text := match text with
      | '#' :: _ => text.dropWhile fun c => !isBreak c
      | _ => text
    match readBreak? text with
    | some (_, after) =>
      let scan := scan.moveTo after
      -- Within brackets a new line changes nothing.
      skipGaps steps (scan.allowKey (scan.keyAllowed || !scan.inFlow))
    | none => scan.moveTo text

/-- The scan past a token of some characters. -/
def take (scan : Scan) (count : Nat) (token : Token) : Scan :=
  (scan.forward count).add token

/-- The scan past a mark between documents. -/
def fetchSeparator (scan : Scan) (token : Token) : Except Stop Scan := do
  let scan ← (scan.unwind (-1)).dropCandidate
  return (scan.allowKey false).take 3 token

/-- The scan past an opening bracket. -/
def fetchOpen (scan : Scan) (token : Token) : Except Stop Scan := do
  -- It is saved before the bracket counts, since it would be a key outside of it.
  let scan ← scan.saveCandidate
  return ({ scan with flow := scan.flow + 1 }.allowKey true).take 1 token

/-- The scan past a closing bracket. -/
def fetchClose (scan : Scan) (token : Token) : Except Stop Scan := do
  let scan ← scan.dropCandidate
  return ({ scan with flow := scan.flow - 1 }.allowKey false).take 1 token

/-- The scan past a comma. -/
def fetchComma (scan : Scan) : Except Stop Scan := do
  let scan ← scan.dropCandidate
  return (scan.allowKey true).take 1 .comma

/-- The scan with a block opened here if one has to be, its token given. -/
def openHere (scan : Scan) (token : Token) : Scan :=
  match scan.openBlock? scan.column with
  | some opened => opened.add token
  | none => scan

/-- The scan past the hyphen of an item. -/
def fetchEntry (scan : Scan) : Except Stop Scan := do
  if !scan.inFlow && !scan.keyAllowed then throw Fault.entryOutOfPlace.stop
  let scan := if scan.inFlow then scan else scan.openHere .blockList
  let scan ← (scan.allowKey true).dropCandidate
  return scan.take 1 .entry

/-- The scan past the question mark of a key. -/
def fetchKey (scan : Scan) : Except Stop Scan := do
  if !scan.inFlow && !scan.keyAllowed then throw Fault.keyOutOfPlace.stop
  let scan := if scan.inFlow then scan else scan.openHere .blockMap
  let scan ← (scan.allowKey (!scan.inFlow)).dropCandidate
  return scan.take 1 .key

/-- The scan past the colon of a value, with a token for the key if it has none yet. -/
def fetchValue (scan : Scan) : Except Stop Scan :=
  match scan.candidate? with
  | some candidate =>
    -- The key comes in front of the tokens it consists of, and the block in front of the key.
    let scan := scan.forget.insert candidate.tokens .key
    let opened := match scan.inFlow, scan.openBlock? candidate.column with
      | false, some opened => opened.insert candidate.tokens .blockMap
      | _, _ => scan
    .ok ((opened.allowKey false).take 1 .value)
  -- No key has been written, so the colon stands for an empty one.
  | none => do
    if !scan.inFlow && !scan.keyAllowed then throw Fault.valueOutOfPlace.stop
    let scan := if scan.inFlow then scan else scan.openHere .blockMap
    let scan ← (scan.allowKey (!scan.inFlow)).dropCandidate
    return scan.take 1 .value

/-- The scan past a quoted scalar. -/
def fetchQuoted (scan : Scan) (quote : Char) : Except Stop Scan := do
  let scan ← scan.saveCandidate
  let (text, after) ← quotedScalar quote (scan.rest.length + 1) (scan.rest.drop 1)
  return ((scan.allowKey false).moveTo after).add (.scalar (String.ofList text) false)

/-- The scan past a plain scalar. -/
def fetchPlain (scan : Scan) : Except Stop Scan := do
  let scan ← scan.saveCandidate
  let steps := scan.rest.length + 1
  let scalar := plainScalar scan.inFlow (scan.indent + 1) steps scan.column scan.rest
  return ((scan.allowKey scalar.broken).moveTo scalar.rest).add
    (.scalar (String.ofList scalar.text) true)

/-- The characters that start no plain scalar. -/
def isIndicator (c : Char) : Bool :=
  ['-', '?', ':', ',', '[', ']', '\x7b', '\x7d', '#', '&', '*', '!', '|', '>', '\'', '"', '%',
    '@', '\x60'].contains c

/-- Whether a plain scalar starts with a character, given the text after it. -/
def startsPlain (scan : Scan) (c : Char) (rest : List Char) : Bool :=
  !isIndicator c || (!gapFollows rest && (c == '-' || (!scan.inFlow && (c == '?' || c == ':'))))

/-- The scan past the token that starts with a character. -/
def fetchFrom (scan : Scan) (c : Char) (rest : List Char) : Except Stop Scan :=
  -- Three hyphens also look like an item or a scalar, so they are asked for first.
  if scan.column = 0 ∧ isSeparator scan.rest then
    scan.fetchSeparator (if c = '-' then .documentStart else .documentEnd)
  else match c with
    | '[' => scan.fetchOpen .openList
    | '\x7b' => scan.fetchOpen .openMap
    | ']' => scan.fetchClose .closeList
    | '\x7d' => scan.fetchClose .closeMap
    | ',' => scan.fetchComma
    | '\'' | '"' => scan.fetchQuoted c
    | _ =>
      let marks := scan.inFlow || gapFollows rest
      if c = '-' ∧ gapFollows rest then scan.fetchEntry
      else if c = '?' ∧ marks then scan.fetchKey
      else if c = ':' ∧ marks then scan.fetchValue
      -- Whatever is left over either starts a plain scalar or starts nothing.
      else if isGap c || !scan.startsPlain c rest then .error (Fault.noTokenStart c).stop
      else scan.fetchPlain

/-- The scan with the token for the end of the text. -/
def fetchEnd (scan : Scan) : Except Stop Scan := do
  let scan ← (scan.unwind (-1)).dropCandidate
  return { scan.add .textEnd with candidates := [], isDone := true }

/--
What a scan of a text that may be cut off has led to, given what it led to with nothing cut off.

A token always looks at the character after it, and only the end of the text leaves quotes open.
-/
def beforeCut (cut : Option Stop) (fetched : Except Stop Scan) : Except Stop Scan :=
  match cut, fetched with
  | none, _ => fetched
  | some stop, .ok scan => if scan.rest.isEmpty then .error stop else .ok scan
  | some stop, .error (.reported .unterminatedQuote) => .error stop
  | some _, .error fault => .error fault

/-- The scan past the next token. -/
def fetch (scan : Scan) : Except Stop Scan :=
  let scan := skipGaps (scan.rest.length + 1) scan
  match scan.rest, scan.cut with
  -- Whether it would be the end cannot be told where the text is cut off.
  | [], some stop => .error stop
  | [], none => do
    let scan ← scan.dropStale
    (scan.unwind scan.column).fetchEnd
  | c :: rest, cut => do
    let scan ← scan.dropStale
    beforeCut cut ((scan.unwind scan.column).fetchFrom c rest)

/-- The first token that may turn out to be a key. -/
def firstCandidate? (scan : Scan) : Option Nat :=
  (scan.candidates.map Candidate.tokens).min?

/-- The scan with all tokens needed to tell what a token is: it may turn out to be a key. -/
def settle (place : Nat) : Nat → Scan → Except Stop Scan
  | 0, scan => .ok scan
  | steps + 1, scan =>
    if scan.isDone then .ok scan
    else if scan.tokens.length ≤ place then do settle place steps (← scan.fetch)
    else do
      let scan ← scan.dropStale
      -- A key may still come in front of it.
      if scan.firstCandidate? = some place then settle place steps (← scan.fetch)
      else return scan

/--
The tokens of a scan from a place on, for at most so many of them.

Each of them is settled only after the ones before it, and the first that cannot be ends them.
-/
def run (place : Nat) : Nat → Scan → List Token
  | 0, scan => scan.tokens.reverse
  | steps + 1, scan =>
    match scan.settle place (scan.rest.length + 2) with
    | .error stop => scan.tokens.reverse.take place ++ [.stopped stop]
    | .ok scan =>
      if scan.isDone then scan.tokens.reverse else run (place + 1) steps scan

end Scan

/-- The tokens of a source; no character starts more than three of them or ends more than one. -/
def tokensOf (source : Source) : List Token :=
  (Scan.start source).run 0 (4 * source.text.length + 4)

/-- The key of a line comes in when its colon is found. -/
example : tokensOf ⟨"a: 1".toList, none⟩ =
    [.blockMap, .key, .scalar "a" true, .value, .scalar "1" true, .blockEnd, .textEnd] := by
  decide +kernel

end Themer.Yaml
