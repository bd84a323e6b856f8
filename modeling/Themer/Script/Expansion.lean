import Themer.Script.Arithmetic
import Themer.Script.Pattern
import Themer.Script.Process

/-! What the words of a script become: values are put in, fields are cut, and names are found. -/

namespace Themer.Script

/-- Where a character of an expanded word comes from. -/
inductive Origin
  | quoted
  | written
  | substituted
deriving DecidableEq, Repr

/-- A piece of an expanded word: a character, a pair of quotes, or a gap between arguments. -/
inductive Piece
  | char (c : Char) (origin : Origin)
  | quotes
  | gap
deriving DecidableEq, Repr

/-- The pieces of a text of one origin. -/
def piecesOf (origin : Origin) (text : Chars) : List Piece := text.map (.char · origin)

/-- The origin of what takes the place of something that is quoted or not. -/
def originOf (quoted : Bool) : Origin := if quoted then .quoted else .substituted

/-- The characters that cut fields where nothing else is said. -/
def blanks : Chars := [' ', '\t', '\n']

namespace Shell

/-- The characters that cut fields. -/
def separators (shell : Shell) : Chars :=
  (shell.value? ['I', 'F', 'S']).getD blanks

/-- The arguments as one text, with the first separator between them. -/
def joined (shell : Shell) : Chars :=
  (shell.separators.take 1).intercalate shell.arguments

/-- Whether a name stands for all the arguments. -/
def isAll (name : Chars) : Bool := name == ['@'] || name == ['*']

/-- The value of a parameter, if it is set. -/
def parameter? (shell : Shell) (name : Chars) : Option Chars :=
  match name with
  | ['?'] => some (decimal shell.status)
  | ['#'] => some (decimal shell.arguments.length)
  | ['$'] => some (decimal shell.number)
  | ['!'] => none
  | ['-'] => some shell.options
  | ['0'] => some shell.name
  | ['@'] | ['*'] => some shell.joined
  | c :: _ =>
    -- The first argument is number one, since zero stands for the name.
    if c.isDigit then shell.arguments[(String.ofList name).toNat?.getD 0 - 1]?
    else shell.value? name
  | [] => none

/-- The pieces of all the arguments; in quotes each stays a field of its own. -/
def argumentPieces (shell : Shell) (quoted : Bool) : List Piece :=
  let pieces := shell.arguments.map fun argument =>
    (if quoted then [.quotes] else []) ++ piecesOf (originOf quoted) argument
  [.gap].intercalate pieces

/-- The pieces of a parameter that is set. -/
def parameterPieces (shell : Shell) (name : Chars) (quoted : Bool) (value : Chars) : List Piece :=
  if isAll name && !(quoted && name == ['*']) then shell.argumentPieces quoted
  else piecesOf (originOf quoted) value

end Shell

/-- Some pieces with more behind them; without arguments, their quotes do not count either. -/
def joinPieces (before : List Piece) (part : Part) (pieces : List Piece) : List Piece :=
  match part, pieces with
  | .parameter ['@'] true, [] => if before.getLast? = some .quotes then before.dropLast else before
  | _, pieces => before ++ pieces

/-- The text of some pieces that are not cut. -/
def textOf (pieces : List Piece) : Chars :=
  pieces.flatMap fun
    | .char c _ => [c]
    | .quotes => []
    | .gap => [' ']

/-- The pattern that some pieces spell. -/
def glyphsOf (pieces : List Piece) : List Glyph :=
  pieces.flatMap fun
    | .char c origin => [⟨c, origin != .quoted⟩]
    | .quotes => []
    | .gap => [⟨' ', false⟩]

namespace Act

/-- The value of a parameter, which has to be set if the shell is strict about that. -/
def valueOf (name : Chars) : Act Chars := do
  let shell ← get
  match shell.parameter? name with
  | some value => return value
  | none =>
    -- That there are no arguments is never a mistake.
    if shell.has 'u' && !Shell.isAll name then fail (name ++ ": parameter not set".toList)
    return []

/-- The number that an expression spells, in digits; its assignments are carried out. -/
def calculate (expression : Chars) : Act Chars := do
  let shell ← get
  let ledger : Ledger := ⟨[], fun name => (shell.value? name).getD []⟩
  match (parseExpression expression).value ledger with
  | .error error => fail (error.text expression)
  | .ok (value, ledger) =>
    -- In the order in which they were set.
    for (name, number) in ledger.changed.reverse do
      setVariable name (toString number.toInt).toList
    return (toString value.toInt).toList

/-- What a command writes, without the line ends behind it; the last status stays. -/
def outputText (carry : Carry) (command : Command) : Act Chars := do
  let status := (← get).status
  let text ← outputOf carry (carry false command)
  -- It becomes the status of the command around it if that one has no name of its own.
  modify fun shell => { shell with status, outputStatus := shell.status }
  return ((text.filter (· != '\x00')).reverse.dropWhile (· == '\n')).reverse

/-- The complaint about a parameter that has no value. -/
def complaintFor (name : Chars) (forEmpty : Bool) (text : Chars) : Chars :=
  let cause :=
    if !text.isEmpty then text
    else if forEmpty then "parameter not set or null".toList else "parameter not set".toList
  name ++ ": ".toList ++ cause

mutual

/-- The pieces of a part, whose unquoted characters have the given origin. -/
def expandPart (carry : Carry) (origin : Origin) : Part → Act (List Piece)
  | .nothing => return [.quotes]
  | .literal c quoted => return [.char c (if quoted then .quoted else origin)]
  | .parameter name quoted => do
    let value ← valueOf name
    return (← get).parameterPieces name quoted value
  | .length name quoted => do
    let value ← valueOf name
    return piecesOf (originOf quoted) (decimal value.length)
  | .guarded name guard forEmpty word quoted => do
    let shell ← get
    let value? := (shell.parameter? name).filter fun value => !(forEmpty && value.isEmpty)
    let wordOrigin := if quoted then .quoted else .substituted
    match guard, value? with
    | .alternative, none => return []
    | .alternative, some _ => expandParts carry wordOrigin [] word
    | _, some value => return shell.parameterPieces name quoted value
    | .default, none => expandParts carry wordOrigin [] word
    | .assignment, none =>
      let value := textOf (← expandParts carry wordOrigin [] word)
      -- Arguments and the like can be asked for, but not set.
      if !isName name then fail (name ++ ": bad variable name".toList)
      setVariable name value
      return piecesOf (originOf quoted) value
    | .complaint, none =>
      let text := textOf (← expandParts carry wordOrigin [] word)
      fail (complaintFor name forEmpty text)
  | .trimmed name side greedy pattern quoted => do
    let value ← valueOf name
    let pattern := patternOf (glyphsOf (← expandParts carry .written [] pattern))
    return piecesOf (originOf quoted) (cutOff side greedy pattern value)
  | .malformed => fail "Bad substitution".toList
  | .output command quoted => return piecesOf (originOf quoted) (← outputText carry command)
  | .number expression quoted => do
    let text := textOf (← expandParts carry .written [] expression)
    return piecesOf (originOf quoted) (← calculate text)

/-- Some pieces with those of more parts behind them. -/
def expandParts (carry : Carry) (origin : Origin) (before : List Piece) :
    List Part → Act (List Piece)
  | [] => return before
  | part :: rest => do
    let pieces ← expandPart carry origin part
    expandParts carry origin (joinPieces before part pieces) rest

end

end Act

/-- Whether a word goes on in such a way that a tilde before it stands for a directory. -/
def endsTilde (inAssignment : Bool) : Word → Bool
  | [] => true
  | .literal c false :: _ => c == '/' || (inAssignment && c == ':')
  | _ => false

/-- The parts of a word with the home directory for each tilde that stands for it. -/
def putHome (home : Chars) (inAssignment : Bool) : Bool → Word → Word
  | _, [] => []
  | mayStart, .literal c false :: rest =>
    let more := putHome home inAssignment (inAssignment && c == ':') rest
    if mayStart && c = '~' && endsTilde inAssignment rest then
      -- The directory counts as quoted, so its name is neither cut nor taken for a pattern.
      .nothing :: home.map (.literal · true) ++ more
    else .literal c false :: more
  | _, part :: rest => part :: putHome home inAssignment false rest

/-- A cutting of pieces into fields: the fields done, and the one begun, if one is. -/
structure Cutting where
  finished : List (List Glyph)
  begun : Option (List Glyph)
  afterBlank : Bool

namespace Cutting

/-- The end of the field begun. -/
def close (cutting : Cutting) : Cutting :=
  { cutting with finished := cutting.finished ++ cutting.begun.toList, begun := none }

/-- More of the field begun. -/
def add (cutting : Cutting) (glyphs : List Glyph) : Cutting :=
  { cutting with begun := some (cutting.begun.getD [] ++ glyphs), afterBlank := false }

/-- The cutting after one more piece; blanks in a row cut once, any other separator each time. -/
def step (separators : Chars) (cutting : Cutting) (piece : Piece) : Cutting :=
  match piece with
  | .quotes => cutting.add []
  | .gap => { cutting.close with afterBlank := false }
  | .char c origin =>
    -- Only what has been put in is cut.
    if origin ≠ .substituted || !separators.contains c then
      cutting.add [⟨c, origin != .quoted⟩]
    else if blanks.contains c then
      -- The blank may be in front of another separator, which then cuts nothing more.
      if cutting.begun.isSome then { cutting.close with afterBlank := true } else cutting
    else if cutting.begun.isSome || cutting.afterBlank then
      { cutting.close with afterBlank := false }
    -- Between two separators there is an empty field.
    else { cutting with finished := cutting.finished ++ [[]] }

end Cutting

/-- The fields that separators cut out of some pieces. -/
def cutFields (separators : Chars) (pieces : List Piece) : List (List Glyph) :=
  (pieces.foldl (Cutting.step separators) ⟨[], none, false⟩).close.finished

/-- The glyphs between slashes. -/
def slashPieces : List Glyph → List (List Glyph)
  | [] => [[]]
  | glyph :: rest =>
    if glyph.char = '/' then [] :: slashPieces rest
    else match slashPieces rest with
      | [] => [[glyph]]
      | first :: more => (glyph :: first) :: more

namespace Shell

/-- The names in the directory that a name leads to; the current one if it is empty. -/
def namesAt (shell : Shell) (name : Chars) : List Chars :=
  match shell.spot (if name.isEmpty then ['.'] else name) with
  | .ok (.taken location .directory) => (shell.disk.namesIn location).map charsOfString
  | _ => []

/-- The names that some patterns between slashes lead to, behind a name. -/
def namesFor (shell : Shell) (before : Chars) : List (List Glyph) → List Chars
  | [] => [before]
  | piece :: rest =>
    let go (name : Chars) : List Chars :=
      -- In the middle of a path nothing has to be there yet: the rest decides.
      if rest.isEmpty then if (shell.at? name).isSome then [name] else []
      else shell.namesFor (name ++ ['/']) rest
    if isPattern piece then
      let pattern := patternOf piece
      -- A name that starts with a dot needs a dot in the pattern.
      let isShown (name : Chars) : Bool :=
        name.head? != some '.' || pattern.head? == some (.exactly '.')
      let names := ['.'] :: ['.', '.'] :: shell.namesAt before
      (names.filter fun name => isShown name && accepts pattern name).flatMap
        fun name => go (before ++ name)
    else go (before ++ piece.map (·.char))

/-- The texts of a field: the names that it leads to as a pattern, or itself. -/
def textsOf (shell : Shell) (field : List Glyph) : List Chars :=
  let names :=
    if shell.has 'f' || !isPattern field then []
    else (shell.namesFor [] (slashPieces field)).mergeSort fun a b => !(b < a : Bool)
  -- A pattern that leads nowhere stands for itself.
  if names.isEmpty then [field.map (·.char)] else names

end Shell

namespace Act

/-- The parts of a word with the home directory put in. -/
def withHome (inAssignment : Bool) (word : Word) : Act Word := do
  match (← get).value? ['H', 'O', 'M', 'E'] with
  | some home => return putHome home inAssignment true word
  | none => return word

/-- The fields of a word. -/
def expandWord (carry : Carry) (word : Word) : Act (List Chars) := do
  let pieces ← expandParts carry .written [] (← withHome false word)
  let shell ← get
  return (cutFields shell.separators pieces).flatMap shell.textsOf

/-- The fields of some words. -/
def expandWords (carry : Carry) (words : List Word) : Act (List Chars) :=
  return (← words.mapM (expandWord carry)).flatten

/-- The text of a word that is not cut. -/
def expandText (carry : Carry) (word : Word) : Act Chars := do
  return textOf (← expandParts carry .written [] (← withHome false word))

/-- The value that a word gives a variable. -/
def expandValue (carry : Carry) (word : Word) : Act Chars := do
  return textOf (← expandParts carry .written [] (← withHome true word))

/-- The pattern of a word. -/
def expandPattern (carry : Carry) (word : Word) : Act (List Element) := do
  return patternOf (glyphsOf (← expandParts carry .written [] (← withHome false word)))

end Act

/-- Colons cut each time, and blanks in a row once. -/
example : (cutFields [':', ' '] (piecesOf .substituted ['a', ':', ':', ' ', 'b'])).map
    (·.map (·.char)) = [['a'], [], ['b']] := by decide

end Themer.Script
