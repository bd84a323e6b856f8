import Themer.Script.Shell

/-! The options that programs are given, and how they tell what is wrong. -/

namespace Themer.Script

/-- The short letters of long options, which every program that has them shares. -/
def longOptions : List (String × Char) :=
  [("recursive", 'r'), ("force", 'f'), ("parents", 'p'), ("verbose", 'v'), ("all", 'a'),
    ("almost-all", 'A'), ("directory", 'd'), ("reverse", 'r'), ("lines", 'n'), ("bytes", 'c'),
    ("quiet", 'q'), ("silent", 'q'), ("numeric-sort", 'n'), ("unique", 'u'), ("count", 'c'),
    ("repeated", 'd'), ("delete", 'd'), ("squeeze-repeats", 's'), ("complement", 'C'),
    ("fields", 'f'), ("delimiter", 'd'), ("characters", 'c'), ("append", 'a'), ("number", 'n'),
    ("ignore-case", 'i'), ("invert-match", 'v'), ("fixed-strings", 'F'),
    ("extended-regexp", 'E'), ("regexp-extended", 'E'), ("line-number", 'n'),
    ("only-matching", 'o'), ("files-with-matches", 'l'), ("no-messages", 's'),
    ("expression", 'e'), ("in-place", 'i'), ("words", 'w'), ("chars", 'm'), ("mode", 'm'),
    ("no-clobber", 'n'), ("archive", 'a'), ("no-create", 'c'), ("target-directory", 't'),
    ("output-delimiter", 'O')]

/-- The options among some words, each with its argument if it takes one, and all other words. -/
structure Options where
  letters : List (Char × Chars)
  words : List Chars
deriving DecidableEq, Repr

namespace Options

/-- Whether an option is given. -/
def has (options : Options) (letter : Char) : Bool := options.letters.any (·.1 == letter)

/-- The argument of an option, the last one if it is given more than once. -/
def argument? (options : Options) (letter : Char) : Option Chars :=
  options.letters.reverse.lookup letter

/-- The options of letters in a row, and the last one if the next word is its argument. -/
def cluster (taking : Chars) : Chars → List (Char × Chars) × Option Char
  | [] => ([], none)
  | letter :: more =>
    if taking.contains letter then
      -- All that is left of the word is the argument.
      if more.isEmpty then ([], some letter) else ([(letter, more)], none)
    else
      let (options, open?) := cluster taking more
      ((letter, []) :: options, open?)

/-- The options of a long word behind its dashes, and the one whose argument is the next word. -/
def long (taking : Chars) (word : Chars) : List (Char × Chars) × Option Char :=
  match longOptions.lookup (String.ofList (word.takeWhile (· != '='))) with
  -- An unknown one is kept under a dash, a letter that no program has, to be refused by it.
  | none => ([('-', word)], none)
  | some letter => match word.dropWhile (· != '=') with
    | _ :: argument => ([(letter, argument)], none)
    | [] => if taking.contains letter then ([], some letter) else ([(letter, [])], none)

/-- The options with more in front of them. -/
def add (options : Options) (letters : List (Char × Chars)) : Options :=
  { options with letters := letters ++ options.letters }

/--
The options among some words, where some letters take arguments, and one may wait for its own.

Words that are no options may stand between them, unless the first of these ends them.
-/
def readFrom (taking : Chars) (mixed : Bool) : Option Char → List Chars → Options
  | none, [] => ⟨[], []⟩
  | some letter, [] => ⟨[(letter, [])], []⟩
  | some letter, word :: rest => (readFrom taking mixed none rest).add [(letter, word)]
  | none, word :: rest =>
    match word with
    -- After it nothing is an option.
    | ['-', '-'] => ⟨[], rest⟩
    | '-' :: '-' :: name =>
      let (found, open?) := long taking name
      (readFrom taking mixed open? rest).add found
    | '-' :: letter :: letters =>
      let (found, open?) := cluster taking (letter :: letters)
      (readFrom taking mixed open? rest).add found
    | word =>
      if mixed then
        let options := readFrom taking mixed none rest
        { options with words := word :: options.words }
      else ⟨[], word :: rest⟩

/-- The options among some words, where some letters take arguments. -/
def read (taking : Chars) (mixed : Bool) (words : List Chars) : Options :=
  readFrom taking mixed none words

end Options

/-- A text in quotes that bend, as some messages show it. -/
def bentQuotes (text : Chars) : Chars :=
  charsOfString "‘" ++ text ++ charsOfString "’"

/-- A name in quotes that a shell could read, as most messages show it. -/
def quotedName (name : Chars) : Chars :=
  if !name.contains '\'' then '\'' :: name ++ ['\'']
  -- A single quote calls for double ones, unless these would leave something in the name active.
  else if name.any ['"', '$', '\x60', '\\'].contains then
    '\'' :: (name.flatMap fun c => if c = '\'' then "'\\''".toList else [c]) ++ ['\'']
  else '"' :: name ++ ['"']

namespace Act

/-- Tells what is wrong in the name of a program. -/
def report (program : String) (text : Chars) : Act Unit :=
  write 2 (program.toList ++ ": ".toList ++ text ++ ['\n'])

/-- Tells what is wrong with the words that a program is given, and ends with a status. -/
def misuse (program : String) (status : Nat) (text : Chars) : Act Nat := do
  report program text
  write 2 s!"Try '{program} --help' for more information.\n".toList
  return status

/-- Refuses an option that a program does not have. -/
def refuseOption (program : String) (status : Nat) (option : Char × Chars) : Act Nat :=
  misuse program status <|
    if option.1 = '-' then "unrecognized option '--".toList ++ option.2 ++ ['\'']
    else "invalid option -- '".toList ++ [option.1] ++ ['\'']

/-- Does something for each of some words; the status is the greatest of all. -/
def forAll (words : List Chars) (act : Chars → Act Nat) : Act Nat := do
  let mut status := 0
  for word in words do
    -- One that fails does not stop the others.
    status := max status (← act word)
  return status

/-- The text of the named file, or of the input; what is wrong is told. -/
def textOfInput (program : String) (name : Chars) : Act (Option Chars) := do
  if name = ['-'] then return some (← readAll 0)
  match (← get).content name with
  | .ok bytes => return some (charsOf bytes)
  | .error cause =>
    report program (name ++ ": ".toList ++ cause.text.toList)
    return none

/-- The names of a program's inputs: those it is given, or the input itself. -/
def inputsOf (words : List Chars) : List Chars := if words.isEmpty then [['-']] else words

/-- The texts of all inputs that can be read, and the status of their reading. -/
def textsOfInputs (program : String) (words : List Chars) : Act (List Chars × Nat) := do
  let texts ← (inputsOf words).mapM (textOfInput program)
  return (texts.filterMap id, if texts.any Option.isNone then 1 else 0)

end Act

end Themer.Script
