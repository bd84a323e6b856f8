import Themer.Script.Syntax

/-! The reading of a shell script: its tokens, its words, and its commands line by line. -/

namespace Themer.Script

/-- What a redirection does, before the word that it is for. -/
inductive Arrow
  | file (opening : Opening)
  | duplicate
  | document (indented : Bool)
deriving DecidableEq, Repr

/-- The tokens of a script. -/
inductive Token
  | mark (mark : Mark)
  | arrow (descriptor : Nat) (arrow : Arrow)
  | word (word : Word)

/-- The keyword that a token is, where one may stand. -/
def Token.keyword? : Token → Option String
  | .word parts => match plain? parts with
    | some text => keywords.find? (· == String.ofList text)
    | none => none
  | _ => none

/-- How a token is named in a complaint. -/
def Token.text (token : Token) : String :=
  match token with
  | .mark sign => sign.text
  | .arrow _ _ => "redirection"
  | .word _ => match token.keyword? with
    | some keyword => "\"" ++ keyword ++ "\""
    | none => "word"

/-- Whether a token can only stand behind a list of commands. -/
def Token.endsList (token : Token) : Bool :=
  match token with
  | .mark sign => [.endOfText, .closing, .twoSemicolons].contains sign
  | _ => match token.keyword? with
    | some keyword =>
      ["do", "done", "elif", "else", "esac", "fi", "then", "\x7d"].contains keyword
    | none => false

/--
Where a reading stands: the text ahead, the number of the line, and a token that was put back.

The lines of documents in place are taken out of the text ahead, and count at the next line end.
-/
structure Cursor where
  rest : Chars
  line : Nat
  skipped : Nat
  token : Option Token

/-- A syntax error, and the line that the reading had come to. -/
structure SyntaxFault where
  error : SyntaxError
  line : Nat
deriving DecidableEq, Repr

/-- A reading of something from a script. -/
abbrev Reading (α : Type) := StateT Cursor (Except SyntaxFault) α

/-- What may stand inside of something else: lists of commands, empty ones too, and commands. -/
structure Nested where
  list : Bool → Reading Command
  command : Reading Command

namespace Reading

/-- Ends the reading with an error. -/
def fail {α : Type} (error : SyntaxError) : Reading α := do
  throw ⟨error, (← get).line⟩

/-- Ends the reading at a token that cannot stand here. -/
def refuse {α : Type} (token : Token) : Reading α :=
  fail (.unexpected token.text none)

/-- Ends the reading at a token that stands where only something else can. -/
def refuseFor {α : Type} (expected : String) (token : Token) : Reading α :=
  fail (.unexpected token.text (some expected))

/-- A text without the line ends that a backslash takes away, and the line it is on. -/
def skipJoins (line : Nat) : Chars → Chars × Nat
  | '\\' :: '\n' :: rest => skipJoins (line + 1) rest
  | rest => (rest, line)

/-- A text without the blanks and the comment it starts with, and the line it is on. -/
def skipBlanks (line : Nat) : Chars → Chars × Nat
  | ' ' :: rest => skipBlanks line rest
  | '\t' :: rest => skipBlanks line rest
  | '\\' :: '\n' :: rest => skipBlanks (line + 1) rest
  | '#' :: rest => (rest.dropWhile (· != '\n'), line)
  | rest => (rest, line)

/-- Moves the reading on by a function of the line and the text ahead. -/
def move (step : Nat → Chars → Chars × Nat) : Reading Unit :=
  modify fun cursor =>
    let (rest, line) := step cursor.line cursor.rest
    { cursor with rest, line }

/-- The next character, which stays ahead. -/
def peek : Reading (Option Char) := do
  -- A line end behind a backslash counts as if it were not there.
  move skipJoins
  return (← get).rest.head?

/-- Passes the next character. -/
def pass : Reading Unit :=
  modify fun cursor => match cursor.rest with
    | '\n' :: rest =>
      { cursor with rest, line := cursor.line + 1 + cursor.skipped, skipped := 0 }
    | rest => { cursor with rest := rest.drop 1 }

/-- Passes the next character if it is a given one, and tells whether it is. -/
def passes (c : Char) : Reading Bool := do
  if (← peek) = some c then pass; return true
  else return false

/-- Puts a token back. -/
def putBack (token : Token) : Reading Unit :=
  modify fun cursor => { cursor with token := some token }

/-- A number of steps that no reading of the text ahead exceeds. -/
def enoughSteps : Reading Nat :=
  return 2 * (← get).rest.length + 4

end Reading

open Reading

/-- Whether a character ends a word that is not quoted. -/
def endsWord (c : Char) : Bool :=
  [' ', '\t', '\n', ';', '&', '|', '<', '>', '(', ')'].contains c

/-- What the parts of a word stand in, which settles where they end and what quotes mean. -/
inductive Scope
  | word
  | brace (quoted : Bool)
  | expression (depth : Nat)
  | document
deriving DecidableEq, Repr

/-- Whether all parts in a scope are quoted. -/
def Scope.isQuoted : Scope → Bool
  | .word => false
  | .brace quoted => quoted
  | .expression _ => true
  | .document => true

/-- Whether a backslash between quotes gives a character its plain meaning. -/
def Scope.escapes (scope : Scope) (c : Char) : Bool :=
  ['$', '\x60', '\\'].contains c || (c == '"' && scope != .document) ||
    (c == '\x7d' && match scope with
      | .brace _ => true
      | _ => false)

/-- The text up to a closing backquote, without the backslashes that only protect a character. -/
def untilBackquote (quoted : Bool) : Chars → Option (Chars × Chars)
  | [] => none
  | '\x60' :: rest => some ([], rest)
  | '\\' :: c :: rest => do
    let (text, after) ← untilBackquote quoted rest
    -- Before any other character a backslash is one of the text.
    let isPlain := c == '\x60' || c == '\\' || c == '$' || (quoted && c == '"')
    return (if isPlain then (c :: text, after) else ('\\' :: c :: text, after))
  | c :: rest => do
    let (text, after) ← untilBackquote quoted rest
    return (c :: text, after)

/-- The output of a command between backquotes, the first of which is passed. -/
def readBackquoted (nested : Nested) (quoted : Bool) : Reading Part := do
  let cursor ← get
  match untilBackquote quoted cursor.rest with
  | none =>
    set { cursor with line := cursor.line + cursor.rest.count '\n' }
    fail .unterminatedOutput
  | some (text, after) =>
    let line := cursor.line + (cursor.rest.take (cursor.rest.length - after.length)).count '\n'
    -- The lines between backquotes are counted on their own.
    set ({ rest := text, line := 1, skipped := 0, token := none } : Cursor)
    let command ← nested.list true
    -- The place is the one outside again, behind all the lines between the backquotes.
    set { cursor with rest := after, line }
    return .output command quoted

/-- The characters whose values a single one stands for. -/
def specialParameters : Chars := ['#', '$', '?', '@', '*', '!', '-']

/-- The name of a parameter in braces, if one comes next. -/
def readParameterName : Reading (Option Chars) := do
  match (← get).rest with
  | c :: rest =>
    let name :=
      if startsName c then (c :: rest).takeWhile isNameChar
      else if c.isDigit then (c :: rest).takeWhile Char.isDigit
      else if specialParameters.contains c then [c]
      else []
    modify fun cursor => { cursor with rest := cursor.rest.drop name.length }
    return if name.isEmpty then none else some name
  | [] => return none

/-- Whether some text in braces asks for the length of a value: a name or a sign is its end. -/
def asksLength : Chars → Bool
  | '#' :: c :: rest => isNameChar c || (c != '\x7d' && rest.head? == some '\x7d')
  | _ => false

/-- The guard that a character stands for. -/
def guard? : Char → Option Guard
  | '-' => some .default
  | '=' => some .assignment
  | '?' => some .complaint
  | '+' => some .alternative
  | _ => none

/--
A parameter in braces, the first of which is passed.

The given reading takes the parts up to the closing brace. A character that cannot stand after the
name has no other meaning, even if it is a quote.
-/
def readBraced (parts : Scope → Reading Word) (quoted : Bool) : Reading Part := do
  let malformed : Reading Part := do
    let _ ← parts (.brace quoted)
    return .malformed
  let passMalformed : Reading Part := do
    pass
    malformed
  -- The same sign is a parameter of its own, so what follows it decides.
  if asksLength (← get).rest then
    pass
    match ← readParameterName with
    | some name => if ← passes '\x7d' then return .length name quoted else malformed
    | none => passMalformed
  else match ← readParameterName with
    -- It is no error before the word is used: until then the rest of it is read.
    | none => if (← peek) = some '\x7d' then malformed else passMalformed
    | some name =>
      let forEmpty ← passes ':'
      match ← peek with
      | none => malformed
      | some c =>
        if c = '\x7d' then
          pass
          return .parameter name quoted
        else match guard? c with
          | some guard =>
            pass
            return .guarded name guard forEmpty (← parts (.brace quoted)) quoted
          | none =>
            pass
            if forEmpty || (c != '%' && c != '#') then malformed
            else
              -- The sign written twice takes off as much as it can.
              let greedy ← passes c
              let side := if c = '#' then .front else .back
              -- In a pattern quotes count anew, whatever stands around the braces.
              return .trimmed name side greedy (← parts (.brace false)) quoted

/-- What a dollar sign starts, which is passed; the given reading takes parts in a scope. -/
def readDollar (nested : Nested) (parts : Scope → Reading Word) (quoted : Bool) :
    Reading Part := do
  match ← peek with
  | some '(' =>
    pass
    -- Two brackets are always a number, even where a subshell would make sense.
    if ← passes '(' then return .number (← parts (.expression 0)) quoted
    let command ← nested.list true
    let cursor ← get
    match cursor.token with
    | some (.mark .closing) =>
      set { cursor with token := none }
      return .output command quoted
    | some token => refuseFor (Mark.text .closing) token
    | none => fail .missingParentheses
  | some '\x7b' =>
    pass
    readBraced parts quoted
  | some c =>
    let rest := (← get).rest
    if startsName c then
      let name := rest.takeWhile isNameChar
      modify fun cursor => { cursor with rest := cursor.rest.drop name.length }
      return .parameter name quoted
    else if c.isDigit || specialParameters.contains c then
      pass
      return .parameter [c] quoted
    else return .literal '$' quoted
  | none => return .literal '$' quoted

/--
The parts of a word up to the end of a scope, for at most so many steps.

Within a word, double quotes may be open, and so they may in braces within it.
-/
def readParts (nested : Nested) : Nat → Scope → Bool → Reading Word
  | 0, _, _ => fail .tooLong
  | steps + 1, scope, open? => do
    let quoted := open? || scope.isQuoted
    let go (part : Part) (scope : Scope) (open? : Bool) : Reading Word := do
      return part :: (← readParts nested steps scope open?)
    let literal (c : Char) (scope : Scope) : Reading Word := do
      pass
      go (.literal c quoted) scope open?
    match (← get).rest with
    | [] => match scope with
      | .word => if open? then fail .unterminatedQuote else return []
      | .brace _ => fail (if quoted then .unterminatedQuote else .missingBrace)
      | .expression _ => fail .missingParentheses
      | .document => return []
    | '\\' :: '\n' :: _ => do
      move skipJoins
      readParts nested steps scope open?
    | '\\' :: c :: _ =>
      -- Where it protects nothing, a backslash between quotes is a character like any other.
      if !quoted || scope.escapes c then do
        pass
        pass
        go (.literal c true) scope open?
      else literal '\\' scope
    | '$' :: _ => do
      pass
      go (← readDollar nested (fun scope => readParts nested steps scope false) quoted) scope open?
    | '\x60' :: _ => do
      pass
      go (← readBackquoted nested quoted) scope open?
    | '\'' :: rest =>
      if quoted then literal '\'' scope
      else do
        let text := rest.takeWhile (· != '\'')
        -- No second quote is ahead, so all that is left would be in it.
        if text.length = rest.length then
          modify fun cursor => { cursor with line := cursor.line + rest.count '\n' }
          fail .unterminatedQuote
        modify fun cursor =>
          { cursor with rest := rest.drop (text.length + 1), line := cursor.line + text.count '\n' }
        let more ← readParts nested steps scope open?
        return .nothing :: text.map (.literal · true) ++ more
    | '"' :: _ => match scope with
      | .word | .brace false => do
        pass
        -- An empty part marks the place, so that empty quotes still are a field.
        if open? then readParts nested steps scope false else go .nothing scope true
      | .brace true => do
        pass
        readParts nested steps scope !open?
      | _ => literal '"' scope
    | c :: rest => match scope with
      -- Between quotes nothing ends a word but the end of the text.
      | .word => if !open? && endsWord c then return [] else literal c scope
      | .brace _ =>
        if c = '\x7d' && !open? then do
          pass
          return []
        else literal c scope
      | .expression depth =>
        if c = '(' then literal c (.expression (depth + 1))
        -- Only outside of its own brackets do two closing ones end an expression.
        else if c = ')' && depth = 0 && rest.head? = some ')' then do
          pass
          pass
          return []
        else literal c (if c = ')' then .expression (depth - 1) else scope)
      | .document => literal c scope

/-- What an arrow ahead does, with the descriptor it is for if it names none. -/
def readArrow : Reading (Nat × Arrow) := do
  if ← passes '>' then
    if ← passes '>' then return (1, .file .append)
    if ← passes '|' then return (1, .file .write)
    if ← passes '&' then return (1, .duplicate)
    return (1, .file .write)
  pass
  if ← passes '<' then return (0, .document (← passes '-'))
  if ← passes '&' then return (0, .duplicate)
  if ← passes '>' then return (0, .file .both)
  return (0, .file .read)

/-- The number that a word of one bare digit gives an arrow right after it. -/
def descriptor? (word : Word) : Option Nat :=
  match plain? word with
  | some [c] => if c.isDigit then some (c.toNat - 48) else none
  | _ => none

/-- The next token, the one put back if there is one. -/
def readToken (nested : Nested) : Reading Token := do
  let cursor ← get
  if let some token := cursor.token then
    set { cursor with token := none }
    return token
  move skipBlanks
  let mark (mark : Mark) : Reading Token := return .mark mark
  match ← peek with
  | none => mark .endOfText
  | some '\n' => pass; mark .newline
  | some '&' => pass; if ← passes '&' then mark .both else mark .background
  | some '|' => pass; if ← passes '|' then mark .either else mark .pipe
  | some ';' => pass; if ← passes ';' then mark .twoSemicolons else mark .semicolon
  | some '(' => pass; mark .opening
  | some ')' => pass; mark .closing
  | some c =>
    if c = '<' || c = '>' then
      let (descriptor, arrow) ← readArrow
      return .arrow descriptor arrow
    let word ← readParts nested (← enoughSteps) .word false
    match descriptor? word, (← get).rest with
    -- A digit counts as a descriptor only without a gap.
    | some n, '<' :: _ | some n, '>' :: _ => return .arrow n (← readArrow).2
    | _, _ => return .word word

/-- The next token that is no line end, for at most so many steps. -/
def readPastNewlines (nested : Nested) : Nat → Reading Token
  | 0 => fail .tooLong
  | steps + 1 => do
    match ← readToken nested with
    | .mark .newline => readPastNewlines nested steps
    | token => return token

/-- The next token, past the line ends if so asked. -/
def nextToken (nested : Nested) (pastNewlines : Bool) : Reading Token := do
  if pastNewlines then readPastNewlines nested (← enoughSteps) else readToken nested

/-- Takes a keyword, which nothing else may stand for. -/
def expectKeyword (nested : Nested) (keyword : String) (pastNewlines : Bool) : Reading Unit := do
  let token ← nextToken nested pastNewlines
  if token.keyword? ≠ some keyword then refuseFor ("\"" ++ keyword ++ "\"") token

/-- The characters of a word as it is written, without its quotes. -/
def spelling (word : Word) : Chars :=
  word.flatMap fun
    | .literal c _ => [c]
    | .parameter name _ => '$' :: name
    | _ => []

/-- The lines of a document up to the one that ends it, the text after that, and their number. -/
def untilDelimiter (indented : Bool) (delimiter : Chars) : Nat → Chars → Chars × Chars × Nat
  | 0, rest => ([], rest, 0)
  | _ + 1, [] => ([], [], 0)
  | steps + 1, text =>
    let line := text.takeWhile (· != '\n')
    let after := text.drop (line.length + 1)
    -- Tabs are taken off before the line is compared, so the last one may be indented as well.
    let line := if indented then line.dropWhile (· == '\t') else line
    if line = delimiter then ([], after, 1)
    else
      let (lines, after, count) := untilDelimiter indented delimiter steps after
      (line ++ '\n' :: lines, after, count + 1)

/-- The document that starts on the next line and is taken out of the text ahead. -/
def readDocument (nested : Nested) (indented : Bool) (delimiter : Word) : Reading Word := do
  let cursor ← get
  let head := cursor.rest.takeWhile (· != '\n')
  let body := cursor.rest.drop (head.length + 1)
  let (text, after, count) := untilDelimiter indented (spelling delimiter) (body.length + 1) body
  let parts ←
    -- A quote anywhere in the delimiter leaves the document as it is.
    if delimiter.any Part.isQuoted then pure (text.map (.literal · true))
    else
      let line := cursor.line + cursor.skipped + 1
      set ({ rest := text, line, skipped := 0, token := none } : Cursor)
      readParts nested (2 * text.length + 4) .document false
  -- The rest of the line stays ahead, and the document behind it is gone.
  set { cursor with rest := head ++ '\n' :: after, skipped := cursor.skipped + count }
  return parts

/-- The redirection that an arrow starts. -/
def readRedirection (nested : Nested) (descriptor : Nat) (arrow : Arrow) :
    Reading Redirection := do
  match ← readToken nested with
  | .word word => match arrow with
    | .file opening => return .file descriptor opening word
    | .duplicate => return .duplicate descriptor word
    | .document indented => return .document descriptor (← readDocument nested indented word)
  | token => refuse token

/-- The variable that a word sets, and the parts of its value. -/
def assignment? (word : Word) : Option (Chars × Word) :=
  let isPart : Part → Bool
    | .literal c false => isNameChar c
    | _ => false
  match word.dropWhile isPart with
  | .literal '=' false :: value =>
    let name := spelling (word.takeWhile isPart)
    if isName name then some (name, value) else none
  | _ => none

/-- The builtins that no function may be named like, and whose failures end a script. -/
def specialBuiltins : List String :=
  [".", ":", "break", "continue", "eval", "exec", "exit", "export", "local", "readonly", "return",
    "set", "shift", "times", "trap", "unset"]

/-- The rest of a simple command, for at most so many steps. -/
def readSimple (nested : Nested) (line : Nat) :
    Nat → List (Chars × Word) → List Word → List Redirection → Reading Command
  | 0, _, _, _ => fail .tooLong
  | steps + 1, assignments, words, redirections => do
    let token ← readToken nested
    match token with
    | .word word => match words, assignment? word with
      -- Behind the first word of a command an equals sign means nothing any more.
      | [], some assignment =>
        readSimple nested line steps (assignments ++ [assignment]) words redirections
      | _, _ => readSimple nested line steps assignments (words ++ [word]) redirections
    | .arrow descriptor arrow =>
      let redirection ← readRedirection nested descriptor arrow
      readSimple nested line steps assignments words (redirections ++ [redirection])
    | .mark mark => match mark, assignments, words, redirections with
      | .opening, [], [name], [] =>
        match ← readToken nested with
        | .mark .closing =>
          let name := (plain? name).getD []
          if !isName name || specialBuiltins.contains (String.ofList name) then
            fail .badFunctionName
          -- The body may start on a later line.
          putBack (← nextToken nested true)
          return .function name (← nested.command)
        | .word _ => fail (.unexpected "word" (some (Mark.text .closing)))
        | token => refuseFor (Mark.text .closing) token
      | _, _, _, _ =>
        putBack token
        return .simple line assignments words redirections

/-- A choice whose first keyword is passed, up to its last one, for at most so many steps. -/
def readChoice (nested : Nested) : Nat → Reading Command
  | 0 => fail .tooLong
  | steps + 1 => do
    let condition ← nested.list false
    expectKeyword nested "then" false
    let consequent ← nested.list false
    let token ← readToken nested
    match token.keyword? with
    -- Another choice in the place of the last part, with which it shares its end.
    | some "elif" => return .choice condition consequent (← readChoice nested steps)
    | some "else" => return .choice condition consequent (← nested.list false)
    | _ =>
      putBack token
      return .choice condition consequent .nothing

/-- The words of a loop up to the end of their line, for at most so many steps. -/
def readLoopWords (nested : Nested) : Nat → Reading (List Word)
  | 0 => fail .tooLong
  | steps + 1 => do
    match ← readToken nested with
    | .word word => return word :: (← readLoopWords nested steps)
    | .mark .newline | .mark .semicolon => return []
    | token => refuse token

/-- A loop over words whose first keyword is passed; without words it is over the arguments. -/
def readEach (nested : Nested) (line : Nat) : Reading Command := do
  let name ← match ← readToken nested with
    | .word word => pure ((plain? word).getD [])
    | _ => pure []
  if !isName name then fail .badLoopVariable
  let token ← nextToken nested true
  let words ← match token with
    | .mark .semicolon => pure [[Part.parameter ['@'] true]]
    | token =>
      if token.keyword? = some "in" then readLoopWords nested (← enoughSteps)
      else
        putBack token
        pure [[Part.parameter ['@'] true]]
  expectKeyword nested "do" true
  let body ← nested.list false
  expectKeyword nested "done" false
  return .each line name words body

/-- The word that a token gives a pattern. -/
def Token.pattern : Token → Word
  | .word parts => parts
  | _ => []

/-- The patterns of a case from a token on, for at most so many steps. -/
def readPatterns (nested : Nested) : Nat → Token → Reading (List Word)
  | 0, _ => fail .tooLong
  | steps + 1, token => do
    match ← readToken nested with
    | .mark .pipe => return token.pattern :: (← readPatterns nested steps (← readToken nested))
    | .mark .closing => return [token.pattern]
    | .word _ => fail (.unexpected "word" (some (Mark.text .closing)))
    | token => refuseFor (Mark.text .closing) token

/-- The cases of a selection up to its last keyword, for at most so many steps. -/
def readCases (nested : Nested) : Nat → Reading (List (List Word × Command))
  | 0 => fail .tooLong
  | steps + 1 => do
    let token ← nextToken nested true
    -- Without any case, or behind the signs that end the last one.
    if token.keyword? = some "esac" then return []
    -- A bracket in front of the patterns may be left out.
    let first ← match token with
      | .mark .opening => readToken nested
      | token => pure token
    let patterns ← readPatterns nested (← enoughSteps) first
    let body ← nested.list true
    let next ← nextToken nested true
    match next with
    | .mark .twoSemicolons => return (patterns, body) :: (← readCases nested steps)
    | next =>
      if next.keyword? = some "esac" then return [(patterns, body)]
      refuseFor (Mark.text .twoSemicolons) next

/-- A selection whose first keyword is passed. -/
def readSelection (nested : Nested) (line : Nat) : Reading Command := do
  match ← readToken nested with
  | .word subject =>
    expectKeyword nested "in" true
    return .selection line subject (← readCases nested (← enoughSteps))
  | token => refuseFor "word" token

/-- The redirections behind a command, for at most so many steps. -/
def readRedirections (nested : Nested) : Nat → Reading (List Redirection)
  | 0 => fail .tooLong
  | steps + 1 => do
    match ← readToken nested with
    | .arrow descriptor arrow =>
      let redirection ← readRedirection nested descriptor arrow
      return redirection :: (← readRedirections nested steps)
    | token =>
      putBack token
      return []

/-- A command of any kind. -/
def readCommand (nested : Nested) (pastNewlines : Bool) : Reading Command := do
  let line := (← get).line
  let token ← nextToken nested pastNewlines
  let simple : Reading Command := do
    putBack token
    readSimple nested (← get).line (← enoughSteps) [] [] []
  let redirectable (command : Command) : Reading Command := do
    match ← readRedirections nested (← enoughSteps) with
    | [] => return command
    | redirections => return .redirected line command redirections
  match token with
  | .mark .opening =>
    let command ← nested.list false
    match ← readToken nested with
    | .mark .closing =>
      return .subshell line command (← readRedirections nested (← enoughSteps))
    | token => refuseFor (Mark.text .closing) token
  | .mark _ => refuse token
  | .arrow _ _ => simple
  | .word _ => match token.keyword? with
    | none => simple
    | some "if" =>
      let command ← readChoice nested (← enoughSteps)
      expectKeyword nested "fi" false
      redirectable command
    | some "for" => redirectable (← readEach nested line)
    | some "case" => redirectable (← readSelection nested line)
    | some "\x7b" =>
      let command ← nested.list false
      expectKeyword nested "\x7d" false
      redirectable command
    | some keyword =>
      if keyword = "while" || keyword = "until" then
        let condition ← nested.list false
        expectKeyword nested "do" false
        let body ← nested.list false
        expectKeyword nested "done" false
        redirectable (.loop (keyword == "while") condition body)
      else refuse token

/-- The commands of a pipeline behind its first one, for at most so many steps. -/
def readPiped (nested : Nested) : Nat → Reading (List Command)
  | 0 => fail .tooLong
  | steps + 1 => do
    match ← readToken nested with
    | .mark .pipe =>
      let command ← readCommand nested true
      return command :: (← readPiped nested steps)
    | token =>
      putBack token
      return []

/-- A pipeline, whose answer may be turned around. -/
def readPipeline (nested : Nested) (pastNewlines : Bool) : Reading Command := do
  let token ← nextToken nested pastNewlines
  let negated := token.keyword? = some "!"
  if !negated then putBack token
  let first ← readCommand nested false
  let command ← match ← readPiped nested (← enoughSteps) with
    | [] => pure first
    | more => pure (.pipeline (first :: more))
  return if negated then .negation command else command

/-- A command with the pipelines that hang on its outcome, for at most so many steps. -/
def readChain (nested : Nested) : Nat → Command → Reading Command
  | 0, _ => fail .tooLong
  | steps + 1, command => do
    match ← readToken nested with
    | .mark .both => readChain nested steps (.both command (← readPipeline nested true))
    | .mark .either => readChain nested steps (.either command (← readPipeline nested true))
    | token =>
      putBack token
      return command

/-- What a list of commands is read for: a line, something that needs one, or one that may not. -/
inductive ListKind
  | line
  | body
  | optional
deriving DecidableEq, Repr

/-- The commands of a list behind some others, for at most so many steps. -/
def readListFrom (nested : Nested) (kind : ListKind) :
    Nat → Option Command → Reading (Option Command)
  | 0, _ => fail .tooLong
  | steps + 1, before => do
    let token ← nextToken nested (kind != .line)
    match token with
    | .mark .newline => return before
    | .mark .endOfText =>
      putBack token
      return before
    | token =>
      putBack token
      -- An end is only seen where one may stand; elsewhere the command itself complains.
      if token.endsList && (kind = .optional || (kind = .body && before.isSome)) then
        return before
      let command ← readChain nested (← enoughSteps) (← readPipeline nested false)
      let next ← readToken nested
      let command := match next with
        | .mark .background => .background command
        | _ => command
      let command := match before with
        | some before => .sequence before command
        | none => command
      match next with
      | .mark .background | .mark .semicolon => readListFrom nested kind steps (some command)
      | .mark .newline =>
        putBack next
        readListFrom nested kind steps (some command)
      | .mark .endOfText =>
        putBack next
        return some command
      | next =>
        -- Inside of something else, whoever asked for the list looks at what ends it.
        if kind = .line then refuse next
        putBack next
        return some command

/-- What may stand inside of something else, for at most so many levels. -/
def Nested.within : Nat → Nested
  | 0 => ⟨fun _ => fail .tooLong, fail .tooLong⟩
  | levels + 1 =>
    { list := fun mayBeEmpty => do
        let kind := if mayBeEmpty then .optional else .body
        return (← readListFrom (.within levels) kind (← enoughSteps) none).getD .nothing
      command := do readCommand (.within levels) true }

/-- The place before the first character of a script. -/
def Cursor.start (script : Chars) (line : Nat) : Cursor :=
  { rest := script, line, skipped := 0, token := none }

/-- The commands of the first line that is ahead, if it has any, and the place after it. -/
def Cursor.readLine (cursor : Cursor) : Except SyntaxFault (Option Command × Cursor) :=
  let nested := Nested.within (cursor.rest.length + 1)
  let reading := readListFrom nested .line (2 * cursor.rest.length + 4) none
  reading.run { cursor with token := none }

/-- A backquote ends a text, and one behind a backslash does not. -/
example : untilBackquote false ['a', '\\', '\x60', '\x60', 'b'] = some (['a', '\x60'], ['b']) := by
  decide

end Themer.Script
