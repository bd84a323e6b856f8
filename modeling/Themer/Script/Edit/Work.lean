import Themer.Script.Edit.Command
import Themer.Script.Pieces
import Themer.Script.Shell

/-! The work of an edit on a text, line by line. -/

namespace Themer.Script

/--
An edit at work on a line.

The lines ahead have their ends with them. A line is whole if it has one, and so is what is held.
A command with two addresses may be open up to a line, or up to one that matches.
-/
structure Editing where
  commands : List EditCommand
  isSilent : Bool
  ahead : List Chars
  number : Nat
  line : Chars
  isWhole : Bool
  held : Chars
  heldIsWhole : Bool
  written : List (Chars × Chars)
  opened : List (Nat × Option Nat)
  lastRegex : Option Regex
  hasChanged : Bool
  queued : Chars
  output : Chars
  lacksEnd : Bool

/--
How the work on a line ends: with all commands done, without the line, or for good.

Without the line, the work may start again on what is left of it.
-/
inductive EditEnding
  | finished
  | deleted
  | restarted
  | over (prints : Bool) (status : Nat)
deriving DecidableEq, Repr

namespace Editing

/-- The edit after more output, behind a line end that may still be missing. -/
def write (editing : Editing) (text : Chars) : Editing :=
  if text.isEmpty then editing
  else
    -- The end that the last line has not got comes as soon as something follows it.
    let before := if editing.lacksEnd then ['\n'] else []
    { editing with output := editing.output ++ before ++ text, lacksEnd := false }

/-- The edit after a line was written; the last one may have no line end. -/
def writeLine (editing : Editing) (line : Chars) : Editing :=
  let before := if editing.lacksEnd then ['\n'] else []
  let after := if editing.isWhole then ['\n'] else []
  { editing with output := editing.output ++ before ++ line ++ after, lacksEnd := !editing.isWhole }

/-- The edit after the line was written to a file. -/
def writeAside (editing : Editing) (name : Chars) : Editing :=
  if name = "/dev/stdout".toList then editing.writeLine editing.line
  else
    let before := (editing.written.lookup name).getD []
    let after := before ++ editing.line ++ if editing.isWhole then ['\n'] else []
    { editing with written := (name, after) :: editing.written.filter (·.1 != name) }

/-- The edit after what was queued for the end of a line. -/
def flush (editing : Editing) : Editing :=
  { editing.write editing.queued with queued := [] }

/-- The edit with the next line in hand, if there is one. -/
def advance? (editing : Editing) : Option (Editing × Chars) :=
  match editing.ahead with
  | [] => none
  | next :: ahead =>
    let line := next.takeWhile (· != '\n')
    some ({ editing with
      ahead, number := editing.number + 1, isWhole := line.length < next.length }, line)

/-- Whether an expression matches the line, and the edit that remembers it. -/
def matchesLine (editing : Editing) (regex : Option Regex) (anyCase : Bool) : Bool × Editing :=
  -- An empty expression is the one used last, by whichever command.
  match regex <|> editing.lastRegex with
  | none => (false, editing)
  | some regex =>
    ((regex.find? anyCase none (widen editing.line)).isSome,
      { editing with lastRegex := some regex })

/-- Whether an address picks the line. -/
def isAt (editing : Editing) : Address → Bool × Editing
  | .line number => (editing.number == number, editing)
  | .step first size =>
    (if size = 0 then editing.number == first
      else first ≤ editing.number && (editing.number - first) % size == 0, editing)
  -- No line is ahead of the last one.
  | .last => (editing.ahead.isEmpty, editing)
  | .found regex anyCase => editing.matchesLine regex anyCase
  | _ => (false, editing)

/-- The edit with a range open up to a line, or up to a match. -/
def openRange (editing : Editing) (index : Nat) (last? : Option Nat) : Editing :=
  { editing with opened := (index, last?) :: editing.opened.filter (·.1 != index) }

/-- The edit with a range closed. -/
def closeRange (editing : Editing) (index : Nat) : Editing :=
  { editing with opened := editing.opened.filter (·.1 != index) }

/-- Whether the command at an index is for the line, its addresses being some. -/
def isFor (editing : Editing) (index : Nat) (addresses : List Address) : Bool × Editing :=
  match addresses with
  | [] => (true, editing)
  | [address] => editing.isAt address
  | first :: second :: _ =>
    match editing.opened.lookup index with
    | some (some last) =>
      -- The range was opened on an earlier line.
      if editing.number < last then (true, editing)
      else (editing.number == last || editing.number < last, editing.closeRange index)
    | some none =>
      let (isLast, editing) := editing.isAt second
      -- The line that ends a range belongs to it.
      (true, if isLast then editing.closeRange index else editing)
    | none =>
      let (starts, editing) := match first with
        -- A range from before the first line may end on that line already.
        | .line 0 => editing.isAt second
        | first => editing.isAt first
      if !starts then (false, editing)
      else match first, second with
        | .line 0, _ => (true, editing)
        | _, .line last =>
          -- A range that ends before it starts is one line.
          (true, if editing.number < last then editing.openRange index (some last) else editing)
        | _, .after count =>
          (true, if count = 0 then editing
            else editing.openRange index (some (editing.number + count)))
        | _, .multiple size =>
          let last := if size = 0 then editing.number
            else (editing.number + size - 1) / size * size
          (true, if editing.number < last then editing.openRange index (some last) else editing)
        | _, .last =>
          (true, if editing.ahead.isEmpty then editing else editing.openRange index none)
        | _, _ => (true, editing.openRange index none)

/-- The text of a replacement for a match, with its letters turned. -/
def replacementText (found : Match) : LetterCase → Option LetterCase → List ReplacementPart →
    List Char
  | _, _, [] => []
  | turned, next, part :: rest =>
    let turn (letterCase : LetterCase) (c : Char) : Char :=
      match letterCase with
      | .asIs => c
      | .upper => c.toUpper
      | .lower => c.toLower
    let turnAll (text : List Char) : List Char :=
      match next, text with
      | some first, c :: more => turn first c :: more.map (turn turned)
      | _, text => text.map (turn turned)
    match part with
    | .literal c => turnAll [c] ++ replacementText found turned none rest
    | .group number =>
      let text := if number = 0 then found.text else (found.groups.lookup number).getD []
      -- A turn waits for a character to turn.
      let left := if text.isEmpty then next else none
      turnAll text ++ replacementText found turned left rest
    | .turn letterCase => replacementText found letterCase none rest
    | .turnNext letterCase => replacementText found turned (some letterCase) rest

/-- A text with its matches replaced from one of them on, and whether any were. -/
def substituted (regex : Regex) (substitution : Substitution) :
    Nat → Nat → Bool → Option Char → List Char → List Char × Bool
  | 0, _, _, _, text => (text, false)
  | steps + 1, count, mayBeEmpty, before, text =>
    match regex.find? substitution.anyCase before text with
    | none => (text, false)
    | some found =>
      -- An empty match right behind the last one would stand in the same place.
      let skipsEmpty := found.text.isEmpty && found.before.isEmpty && !mayBeEmpty
      let isReplaced := !skipsEmpty && substitution.first ≤ count
      let shown :=
        if isReplaced then replacementText found .asIs none substitution.replacement
        else found.text
      -- Matches before the first one that is replaced are counted all the same.
      let count := if skipsEmpty then count else count + 1
      let last := found.text.getLast? <|> found.before.getLast? <|> before
      if isReplaced && !substitution.isGlobal then (found.before ++ shown ++ found.rest, true)
      else if found.text.isEmpty then
        -- Past an empty match, the next character stays as it is.
        match found.rest with
        | [] => (found.before ++ shown, isReplaced)
        | c :: rest =>
          let (more, changed) := substituted regex substitution steps count true (some c) rest
          (found.before ++ shown ++ c :: more, isReplaced || changed)
      else
        let (more, changed) := substituted regex substitution steps count false last found.rest
        (found.before ++ shown ++ more, isReplaced || changed)

/-- The edit after a substitution in the line. -/
def substitute (editing : Editing) (substitution : Substitution) : Editing :=
  match substitution.regex <|> editing.lastRegex with
  | none => editing
  | some regex =>
    let wide := widen editing.line
    let (text, changed) :=
      substituted regex substitution (wide.length + 2) 1 true none wide
    let editing := { editing with lastRegex := some regex }
    if !changed then editing
    else
      let editing := { editing with line := narrow text, hasChanged := true }
      let editing := if substitution.prints then editing.writeLine editing.line else editing
      match substitution.file with
      | some name => editing.writeAside name
      | none => editing

/-- The index behind the end of the block that starts before an index. -/
def blockEnd (commands : List EditCommand) : Nat → Nat → Nat → Nat
  | 0, _, index => index
  | steps + 1, depth, index =>
    match commands[index]? with
    | none => index
    | some ⟨_, _, .opening⟩ => blockEnd commands steps (depth + 1) (index + 1)
    | some ⟨_, _, .closing⟩ =>
      -- A block inside ends first.
      if depth = 0 then index + 1 else blockEnd commands steps (depth - 1) (index + 1)
    | some _ => blockEnd commands steps depth (index + 1)

/-- The index of a label, or the end of all commands. -/
def labelIndex (commands : List EditCommand) (name : Chars) : Nat :=
  let isLabel (command : EditCommand) : Bool := match command.action with
    | .label other => other == name
    | _ => false
  if name.isEmpty then commands.length
  else (commands.findIdx? isLabel).getD commands.length

/-- The text that shows a character without doubt. -/
def shownChar (c : Char) : Chars :=
  if c = '\\' then ['\\', '\\']
  else match ([('\x07', 'a'), ('\x08', 'b'), ('\x0c', 'f'), ('\n', 'n'), ('\r', 'r'), ('\t', 't'),
      ('\x0b', 'v')] : List (Char × Char)).lookup c with
  | some letter => ['\\', letter]
  | none =>
    if ' ' ≤ c && c ≤ '~' then [c]
    else
      let digits := Nat.toDigits 8 c.toNat
      '\\' :: List.replicate (3 - digits.length) '0' ++ digits

/-- A line that shows all its characters and its end, cut where it gets too long. -/
def listedLine (line : Chars) : Chars :=
  let (shown, _) := line.foldl (fun (shown, width) c =>
    let text := shownChar c
    -- What shows a character is not cut in two.
    if width + text.length > 69 then (shown ++ ['\\', '\n'] ++ text, text.length)
    else (shown ++ text, width + text.length)) (([], 0) : Chars × Nat)
  shown ++ ['$', '\n']

/-- The line up to its first line end, and what follows that, if it has one. -/
def splitFirst (line : Chars) : Chars × Option Chars :=
  match line.dropWhile (· != '\n') with
  | [] => (line, none)
  | _ :: rest => (line.takeWhile (· != '\n'), some rest)

/-- The work on a line from the command at an index on, for at most so many steps. -/
def work (contentOf : Chars → Chars) : Nat → Nat → Editing → EditEnding × Editing
  | 0, _, editing => (.finished, editing)
  | steps + 1, index, editing =>
    match editing.commands[index]? with
    | none => (.finished, editing)
    | some command =>
      let (isPicked, editing) := editing.isFor index command.addresses
      let go (editing : Editing) : EditEnding × Editing :=
        work contentOf steps (index + 1) editing
      let jump (name : Chars) (editing : Editing) : EditEnding × Editing :=
        work contentOf steps (labelIndex editing.commands name) editing
      -- The command is not for this line; a block of commands is passed over as a whole.
      if isPicked == command.negated then
        match command.action with
        | .opening =>
          let after := blockEnd editing.commands editing.commands.length 0 (index + 1)
          work contentOf steps after editing
        | _ => go editing
      else match command.action with
        | .opening | .closing | .label _ => go editing
        | .branch name => jump name editing
        | .branchIf changed name =>
          let has := editing.hasChanged
          -- Having been asked, it is forgotten.
          let editing := { editing with hasChanged := false }
          if has == changed then jump name editing else go editing
        | .delete => (.deleted, editing)
        | .deleteFirst => match splitFirst editing.line with
          | (_, none) => (.deleted, editing)
          | (_, some rest) => (.restarted, { editing with line := rest })
        | .print => go (editing.writeLine editing.line)
        | .printFirst => go (editing.write ((splitFirst editing.line).1 ++ ['\n']))
        | .next =>
          let printed := if editing.isSilent then editing else editing.writeLine editing.line
          match printed.flush.advance? with
          -- Without another line the work ends here, and the line in hand is still shown.
          | none => (.over true 0, editing)
          | some (editing, line) => go { editing with line }
        | .nextAppend =>
          match editing.flush.advance? with
          | none => (.over true 0, editing)
          | some (editing, line) => go { editing with line := editing.line ++ '\n' :: line }
        | .hold => go { editing with held := editing.line, heldIsWhole := editing.isWhole }
        | .holdAppend =>
          let held := editing.held ++ '\n' :: editing.line
          go { editing with held, heldIsWhole := editing.isWhole }
        | .get => go { editing with line := editing.held, isWhole := editing.heldIsWhole }
        | .getAppend =>
          let line := editing.line ++ '\n' :: editing.held
          go { editing with line, isWhole := editing.heldIsWhole }
        | .exchange =>
          go { editing with
            line := editing.held, isWhole := editing.heldIsWhole
            held := editing.line, heldIsWhole := editing.isWhole }
        | .lineNumber => go (editing.write (decimal editing.number ++ ['\n']))
        | .quit status => (.over true status, editing)
        | .quitSilently status => (.over false status, editing)
        | .append text => go { editing with queued := editing.queued ++ text }
        | .insert text => go (editing.write text)
        | .readFile name => go { editing with queued := editing.queued ++ contentOf name }
        | .writeFile name => go (editing.writeAside name)
        | .list => go (editing.write (listedLine editing.line))
        | .change text =>
          -- In a range the new text stands once, at its end.
          let isOpen := (editing.opened.lookup index).isSome && !command.negated
          (.deleted, if isOpen then editing else editing.write text)
        | .transliterate pairs =>
          let line := (widen editing.line).map fun c => (pairs.lookup c).getD c
          go { editing with line := narrow line }
        | .substitute substitution => go (editing.substitute substitution)

/-- The work on all lines ahead, for at most so many rounds; the status, and the edit after it. -/
def rounds (contentOf : Chars → Chars) : Nat → Bool → Editing → Nat × Editing
  | 0, _, editing => (0, editing)
  | count + 1, isRestarted, editing =>
    let start? :=
      if isRestarted then some editing
      else editing.advance?.map fun (editing, line) =>
        ({ editing with line, hasChanged := false } : Editing)
    match start? with
    | none => (0, editing)
    | some editing =>
      let shown (editing : Editing) : Editing :=
        if editing.isSilent then editing else editing.writeLine editing.line
      match editing.work contentOf 100000 0 with
      | (.finished, editing) => rounds contentOf count false (shown editing).flush
      | (.deleted, editing) => rounds contentOf count false editing.flush
      -- What is left of the line is worked on again before the next one is taken.
      | (.restarted, editing) => rounds contentOf count true editing.flush
      | (.over prints status, editing) =>
        let editing := if prints then shown editing else editing
        (status, editing.flush)

end Editing

/-- The files that some commands write to, even if they write nothing. -/
def writtenNames (commands : List EditCommand) : List Chars :=
  commands.filterMap fun command => match command.action with
    | .writeFile name => some name
    | .substitute substitution => substitution.file
    | _ => none

/-- The output of an edit for a text, its status, and what it writes to files. -/
def edited (commands : List EditCommand) (isSilent : Bool) (contentOf : Chars → Chars)
    (text : Chars) : Nat × Chars × List (Chars × Chars) :=
  let start : Editing :=
    { commands, isSilent, ahead := linesWithEnds text, number := 0, line := [], isWhole := true
      held := [], heldIsWhole := true
      written := (writtenNames commands).map fun name => (name, [])
      opened := [], lastRegex := none, hasChanged := false, queued := [], output := []
      lacksEnd := false }
  let (status, editing) := start.rounds contentOf (text.length + 2) false
  (status, editing.output, editing.written)

end Themer.Script
