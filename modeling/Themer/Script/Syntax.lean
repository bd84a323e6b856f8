/-! The words and commands of a shell script, and why a text spells none. -/

namespace Themer.Script

/-- Characters of a script, each standing for the byte of its number. -/
abbrev Chars := List Char

/-- What a parameter may be given a word for. -/
inductive Guard
  | default
  | assignment
  | complaint
  | alternative
deriving DecidableEq, Repr

/-- The end of a value that a pattern is cut off from. -/
inductive Side
  | front
  | back
deriving DecidableEq, Repr

/-- What a redirection to a file does with it. -/
inductive Opening
  | read
  | write
  | append
  | both
deriving DecidableEq, Repr

mutual

/-- A part of a word: characters, values of parameters and outputs of commands, quoted or not. -/
inductive Part
  | nothing
  | literal (c : Char) (quoted : Bool)
  | parameter (name : Chars) (quoted : Bool)
  | length (name : Chars) (quoted : Bool)
  | guarded (name : Chars) (guard : Guard) (forEmpty : Bool) (word : List Part) (quoted : Bool)
  | trimmed (name : Chars) (side : Side) (greedy : Bool) (pattern : List Part) (quoted : Bool)
  | malformed
  | output (command : Command) (quoted : Bool)
  | number (expression : List Part) (quoted : Bool)

/-- A redirection of a descriptor: to a file, to another descriptor, or from a text in place. -/
inductive Redirection
  | file (descriptor : Nat) (opening : Opening) (name : List Part)
  | duplicate (descriptor : Nat) (source : List Part)
  | document (descriptor : Nat) (text : List Part)

/-- A command, with the number of its line where its failures are told. -/
inductive Command
  | nothing
  | simple (line : Nat) (assignments : List (Chars × List Part)) (words : List (List Part))
      (redirections : List Redirection)
  | pipeline (commands : List Command)
  | negation (command : Command)
  | both (first second : Command)
  | either (first second : Command)
  | sequence (first second : Command)
  | background (command : Command)
  | subshell (line : Nat) (command : Command) (redirections : List Redirection)
  | redirected (line : Nat) (command : Command) (redirections : List Redirection)
  | choice (condition consequent alternative : Command)
  | loop (whileTrue : Bool) (condition body : Command)
  | each (line : Nat) (name : Chars) (words : List (List Part)) (body : Command)
  | selection (line : Nat) (subject : List Part) (cases : List (List (List Part) × Command))
  | function (name : Chars) (body : Command)

end

/-- A word before its parameters and outputs are put in. -/
abbrev Word := List Part

instance : Inhabited Command := ⟨.nothing⟩

/-- Whether a part is quoted, or stands for quotes. -/
def Part.isQuoted : Part → Bool
  | .nothing => true
  | .literal _ quoted => quoted
  | _ => false

/-- The characters of a word that has nothing else. -/
def plain? (word : Word) : Option Chars :=
  word.mapM fun
    | .literal c false => some c
    | _ => none

/-- Whether a part is the output of a command. -/
def Part.isOutput : Part → Bool
  | .output _ _ => true
  | _ => false

/-- Whether a name may start with a character. -/
def startsName (c : Char) : Bool := c.isAlpha || c == '_'

/-- Whether a character may stand in a name. -/
def isNameChar (c : Char) : Bool := c.isAlphanum || c == '_'

/-- Whether some characters are a name. -/
def isName (text : Chars) : Bool :=
  match text with
  | [] => false
  | c :: rest => startsName c && rest.all isNameChar

/-- The words that have a meaning of their own where a command may start. -/
def keywords : List String :=
  ["!", "case", "do", "done", "elif", "else", "esac", "fi", "for", "if", "in", "then", "until",
    "while", "\x7b", "\x7d"]

/-- The operators and ends of a script's text. -/
inductive Mark
  | endOfText
  | newline
  | semicolon
  | twoSemicolons
  | background
  | both
  | either
  | pipe
  | opening
  | closing
deriving DecidableEq, Repr

/-- How a mark is named in a complaint. -/
def Mark.text : Mark → String
  | .endOfText => "end of file"
  | .newline => "newline"
  | .semicolon => "\";\""
  | .twoSemicolons => "\";;\""
  | .background => "\"&\""
  | .both => "\"&&\""
  | .either => "\"||\""
  | .pipe => "\"|\""
  | .opening => "\"(\""
  | .closing => "\")\""

/-- Why a text is no script. -/
inductive SyntaxError
  | unterminatedQuote
  | unterminatedOutput
  | missingBrace
  | missingParentheses
  | badLoopVariable
  | badFunctionName
  | badDescriptor
  | unexpected (found : String) (expected : Option String)
  | tooLong
deriving DecidableEq, Repr

/-- The words for a syntax error. -/
def SyntaxError.text : SyntaxError → String
  | .unterminatedQuote => "Syntax error: Unterminated quoted string"
  | .unterminatedOutput => "Syntax error: EOF in backquote substitution"
  | .missingBrace => "Syntax error: Missing '\x7d'"
  | .missingParentheses => "Syntax error: Missing '))'"
  | .badLoopVariable => "Syntax error: Bad for loop variable"
  | .badFunctionName => "Syntax error: Bad function name"
  | .badDescriptor => "Syntax error: Bad fd number"
  | .unexpected found none => s!"Syntax error: {found} unexpected"
  | .unexpected found (some expected) =>
    s!"Syntax error: {found} unexpected (expecting {expected})"
  | .tooLong => "Syntax error: too long"

end Themer.Script
