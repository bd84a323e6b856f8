import Themer.Script.Edit.Command

/-! The reading of an edit from the text that spells its commands. -/

namespace Themer.Script

/-- What is wrong with an edit, and the place in its text where that is seen. -/
structure EditError where
  place : Nat
  cause : String
deriving DecidableEq, Repr

/-- A reading of an edit: the text ahead, and the length of the whole text. -/
abbrev EditReading (α : Type) := StateT (List Char) (Except (Nat → EditError)) α

namespace EditReading

/-- Ends the reading with an error at the present place. -/
def fail {α : Type} (cause : String) : EditReading α := do
  let left := (← get).length
  throw fun length => ⟨length - left, cause⟩

/-- Passes blanks, or whatever else is given. -/
def skip (isSkipped : Char → Bool) : EditReading Unit :=
  modify (·.dropWhile isSkipped)

/-- Passes a character, if it comes next. -/
def passes (c : Char) : EditReading Bool := do
  if (← get).head? = some c then
    modify (·.drop 1)
    return true
  return false

/-- The number that comes next, if one does. -/
def number? : EditReading (Option Nat) := do
  let digits := (← get).takeWhile Char.isDigit
  modify (·.drop digits.length)
  return (String.ofList digits).toNat?

end EditReading

open EditReading

/--
The text up to a delimiter, and what follows it.

A backslash makes the delimiter plain, and in an expression stands for a line end with an n.
-/
def untilSlash? (delimiter : Char) (isRegex : Bool) : List Char → Option (List Char × List Char)
  | [] => none
  | '\\' :: c :: rest => do
    let (text, after) ← untilSlash? delimiter isRegex rest
    -- The backslash goes, as it was only there for the delimiter.
    if c = delimiter then return (c :: text, after)
    else if c = 'n' && isRegex then return ('\n' :: text, after)
    else return ('\\' :: c :: text, after)
  | c :: rest =>
    if c = delimiter then some ([], rest)
    -- An expression does not go on over a line end.
    else if c = '\n' && isRegex then none
    else do
      let (text, after) ← untilSlash? delimiter isRegex rest
      return (c :: text, after)

/-- The expression that a text spells; an empty one is the last used. -/
def readRegex (extended : Bool) (text : List Char) : EditReading (Option Regex) := do
  if text.isEmpty then return none
  match Regex.read? extended text with
  | some regex => return some regex
  | none => fail "unterminated address regex"

/-- The address that comes next, if one does. -/
def readAddress? (extended : Bool) : EditReading (Option Address) := do
  match ← get with
  | c :: rest =>
    if c.isDigit then
      let first := (← number?).getD 0
      if ← passes '~' then return some (.step first ((← number?).getD 0))
      return some (.line first)
    else if c = '$' then
      set rest
      return some .last
    else if c = '/' || c = '\\' then
      let (delimiter, rest) := match c, rest with
        | '\\', d :: rest => (d, rest)
        | _, rest => ('/', rest)
      match untilSlash? delimiter true rest with
      | none =>
        -- The error is seen at the end of the text.
        set ([] : List Char)
        fail "unterminated address regex"
      | some (text, after) =>
        set after
        let anyCase ← passes 'I'
        return some (.found (← readRegex extended text) anyCase)
    else return none
  -- Without an address a command is for every line.
  | [] => return none

/-- The address behind a comma. -/
def readSecondAddress (extended : Bool) : EditReading Address := do
  skip (· == ' ')
  if ← passes '+' then return .after ((← number?).getD 0)
  if ← passes '~' then return .multiple ((← number?).getD 0)
  match ← readAddress? extended with
  | some address => return address
  | none => fail "unexpected \x60,'"

/-- The parts of a replacement, for at most so many steps. -/
def replacementParts : Nat → List Char → List ReplacementPart
  | 0, _ => []
  | _ + 1, [] => []
  | steps + 1, '&' :: rest => .group 0 :: replacementParts steps rest
  | steps + 1, '\\' :: c :: rest =>
    let part : ReplacementPart := match c with
      | 'n' => .literal '\n'
      | 't' => .literal '\t'
      | 'U' => .turn .upper
      | 'L' => .turn .lower
      | 'E' => .turn .asIs
      | 'u' => .turnNext .upper
      | 'l' => .turnNext .lower
      -- Any other character is what the backslash protects.
      | c => if c.isDigit then .group (c.toNat - 48) else .literal c
    part :: replacementParts steps rest
  | steps + 1, c :: rest => .literal c :: replacementParts steps rest

/-- A name up to the end of a command. -/
def readName (isEnd : Char → Bool) : EditReading Chars := do
  skip (· == ' ')
  let name := (← get).takeWhile (!isEnd ·)
  modify (·.drop name.length)
  return narrow ((name.reverse.dropWhile (· == ' ')).reverse)

/-- The flags behind a substitution, for at most so many steps. -/
def readFlags : Nat → Substitution → EditReading Substitution
  | 0, substitution => return substitution
  | steps + 1, substitution => do
    match ← get with
    | 'g' :: rest =>
      set rest
      readFlags steps { substitution with isGlobal := true }
    | 'p' :: rest =>
      set rest
      readFlags steps { substitution with prints := true }
    | 'i' :: rest | 'I' :: rest =>
      set rest
      readFlags steps { substitution with anyCase := true }
    | c :: rest =>
      if c.isDigit then
        let first := (← number?).getD 1
        -- Matches are counted from one on.
        if first = 0 then fail "number option to \x60s' command may not be zero"
        readFlags steps { substitution with first }
      else if c = 'w' then
        set rest
        return { substitution with file := some (← readName (· == '\n')) }
      else if [' ', '\n', ';', '\x7d', '#'].contains c then return substitution
      else
        set rest
        fail "unknown option to \x60s'"
    | [] => return substitution

/-- A substitution behind its letter. -/
def readSubstitution (extended : Bool) : EditReading Substitution := do
  let broken {α : Type} : EditReading α := do
    set ([] : List Char)
    fail "unterminated \x60s' command"
  match ← get with
  | [] => broken
  | delimiter :: rest =>
    match untilSlash? delimiter true rest with
    | none => broken
    | some (pattern, rest) => match untilSlash? delimiter false rest with
      | none => broken
      | some (replacement, rest) =>
        set rest
        let substitution ← readFlags (rest.length + 1)
          ⟨none, false, replacementParts replacement.length replacement, false, 1, false, none⟩
        -- What is wrong with the flags is told before what is wrong with the pattern.
        return { substitution with regex := ← readRegex extended pattern }

/-- The pairs of a transliteration behind its letter. -/
def readPairs : EditReading (List (Char × Char)) := do
  let plain (text : List Char) : List Char := (replacementParts text.length text).map fun
    | .literal c => c
    | _ => '&'
  match ← get with
  | delimiter :: rest => match untilSlash? delimiter false rest with
    | some (source, rest) => match untilSlash? delimiter false rest with
      | some (target, rest) =>
        set rest
        -- Each character has to have one of its own.
        if (plain source).length ≠ (plain target).length then
          fail "strings for \x60y' command are different lengths"
        return (plain source).zip (plain target)
      | none => fail "unterminated \x60y' command"
    | none => fail "unterminated \x60y' command"
  | [] => fail "unterminated \x60y' command"

/-- The text of a command up to the end of its line, which a backslash moves to the next one. -/
def lineText : List Char → List Char × List Char
  | [] => ([], [])
  | '\\' :: c :: rest =>
    let (text, after) := lineText rest
    (c :: text, after)
  | '\n' :: rest => ([], rest)
  | c :: rest =>
    let (text, after) := lineText rest
    (c :: text, after)

/-- The text that a command adds, behind its letter. -/
def readText : EditReading Chars := do
  skip fun c => c == ' ' || c == '\t'
  match ← get with
  | [] => fail "expected \\ after \x60a', \x60c' or \x60i'"
  | '\\' :: rest =>
    let rest := rest.dropWhile fun c => c == ' ' || c == '\t'
    let rest := match rest with
      | '\n' :: rest => rest
      | rest => rest
    let (text, after) := lineText rest
    set after
    return narrow text ++ ['\n']
  | rest =>
    let (text, after) := lineText rest
    set after
    return narrow text ++ ['\n']

/-- What a letter does, with what follows it. -/
def readAction (extended : Bool) (letter : Char) : EditReading EditAction := do
  let endsLabel (c : Char) : Bool := c == '\n' || c == ';'
  match letter with
  | '\x7b' => return .opening
  | '\x7d' => return .closing
  | ':' => return .label (← readName endsLabel)
  | 'b' => return .branch (← readName endsLabel)
  | 't' => return .branchIf true (← readName endsLabel)
  | 'T' => return .branchIf false (← readName endsLabel)
  | 'd' => return .delete
  | 'D' => return .deleteFirst
  | 'p' => return .print
  | 'P' => return .printFirst
  | 'n' => return .next
  | 'N' => return .nextAppend
  | 'h' => return .hold
  | 'H' => return .holdAppend
  | 'g' => return .get
  | 'G' => return .getAppend
  | 'x' => return .exchange
  | '=' => return .lineNumber
  | 'q' => skip (· == ' '); return .quit ((← number?).getD 0)
  | 'Q' => skip (· == ' '); return .quitSilently ((← number?).getD 0)
  | 'a' => return .append (← readText)
  | 'i' => return .insert (← readText)
  | 'c' => return .change (← readText)
  | 'r' => return .readFile (← readName (· == '\n'))
  | 'w' => return .writeFile (← readName (· == '\n'))
  | 'l' => return .list
  | 'y' => return .transliterate (← readPairs)
  | 's' => return .substitute (← readSubstitution extended)
  | c => fail s!"unknown command: \x60{String.singleton c}'"

/-- Whether the text of an action goes up to the end of its line. -/
def EditAction.endsLine : EditAction → Bool
  | .append _ | .insert _ | .change _ | .readFile _ | .writeFile _ => true
  | _ => false

/-- The commands of an edit, inside so many blocks, for at most so many steps. -/
def readCommands (extended : Bool) : Nat → Nat → EditReading (List EditCommand)
  | 0, _ => return []
  | steps + 1, blocks => do
    skip fun c => c == ' ' || c == '\t' || c == '\n' || c == ';'
    match ← get with
    | [] =>
      -- Where the block was opened is not told.
      if blocks ≠ 0 then throw fun _ => ⟨0, "unmatched \x60\x7b'"⟩
      return []
    | '#' :: rest =>
      set (rest.dropWhile (· != '\n'))
      readCommands extended steps blocks
    | _ =>
      let first? ← readAddress? extended
      skip (· == ' ')
      let second? ← if first?.isSome && (← passes ',') then some <$> readSecondAddress extended
        else pure none
      skip (· == ' ')
      let negated ← passes '!'
      -- More than one of these signs does no more than one.
      skip fun c => c == ' ' || c == '!'
      match ← get with
      | [] => fail "missing command"
      | letter :: rest =>
        set rest
        let action ← readAction extended letter
        let blocks ← match action with
          | .opening => pure (blocks + 1)
          | .closing => if blocks = 0 then fail "unexpected \x60\x7d'" else pure (blocks - 1)
          | _ => pure blocks
        -- Behind a text or a name nothing can be left on the line.
        if !action.endsLine then
          skip (· == ' ')
          match action, ← get with
          | .opening, _ => pure ()
          | _, c :: rest =>
            if c != ';' && c != '\n' && c != '\x7d' && c != '#' then
              set rest
              fail "extra characters after command"
          | _, [] => pure ()
        return ⟨first?.toList ++ second?.toList, negated, action⟩ ::
          (← readCommands extended steps blocks)

/-- The commands that the text of an edit spells. -/
def editCommands (extended : Bool) (text : Chars) : Except EditError (List EditCommand) :=
  let wide := widen text
  match (readCommands extended (wide.length + 1) 0).run wide with
  | .ok (commands, _) => .ok commands
  | .error e => .error (e wide.length)

end Themer.Script
