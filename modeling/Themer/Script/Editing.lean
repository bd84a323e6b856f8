import Themer.Script.Edit.Reader
import Themer.Script.Edit.Work
import Themer.Script.Filters

/-! The program that edits its inputs line by line. -/

namespace Themer.Script

/-- The words without an ending for copies behind an option, and that ending. -/
def copyEnding : List Chars → Option Chars × List Chars
  | [] => (none, [])
  | word :: rest =>
    let (ending?, rest) := copyEnding rest
    match word with
    | '-' :: 'i' :: c :: ending => (some (c :: ending), ['-', 'i'] :: rest)
    | word =>
      let long := "--in-place=".toList
      if long.isPrefixOf word then (some (word.drop long.length), ['-', 'i'] :: rest)
      else (ending?, word :: rest)

/-- The text of an edit and the names of its inputs, if there is a text. -/
def editText? (shell : Shell) (options : Options) : Option (Chars × List Chars) :=
  let parts := options.letters.filterMap fun (letter, text) =>
    if letter = 'e' then some text
    else if letter = 'f' then (shell.content text).toOption.map charsOf
    else none
  match parts, options.words with
  -- Without an option that gives the text, the first word is it.
  | [], text :: names => some (text, names)
  | [], [] => none
  | parts, names => some (['\n'].intercalate parts, names)

/-- Tells why an input is not edited. -/
def refuseInput (inPlace : Bool) (name : Chars) (cause : OsCause) : Act Unit :=
  Act.report "sed" <|
    if cause = .isDirectory then
      if inPlace then "couldn't edit ".toList ++ name ++ ": not a regular file".toList
      else "read error on ".toList ++ name ++ ": Is a directory".toList
    else "can't read ".toList ++ name ++ ": ".toList ++ cause.text.toList

/-- Writes a text to a file, if that is possible. -/
def store (file : Chars × Chars) : Act Unit := do
  match (← get).disk.writeFile (pathOf file.1) (bytesOf file.2) with
  | .ok disk => modify ({ · with disk })
  | .error _ => pure ()

/-- Edits files in their places, with a copy of each under a longer name if so asked. -/
def editInPlace (run : Chars → Nat × Chars × List (Chars × Chars)) (ending? : Option Chars)
    (names : List Chars) : Act Nat :=
  Act.forAll names fun name => do
    match (← get).content name with
    | .error cause =>
      refuseInput true name cause
      return if cause = .isDirectory then 4 else 2
    | .ok bytes =>
      let (_, output, written) := run (charsOf bytes)
      -- The copy comes first: if the edited text cannot be written, the old one is still there.
      if let some ending := ending? then store (name ++ ending, charsOf bytes)
      store (name, output)
      written.forM store
      return 0

/-- The texts of all inputs in one, up to one that cannot be read to its end, and the status. -/
def joinedInputs : List Chars → Chars → Nat → Act (Chars × Nat)
  | [], text, status => return (text, status)
  | name :: rest, text, status => do
    let content ←
      if name = ['-'] then do pure (.ok (← Act.readAll 0))
      else do pure (((← get).content name).map charsOf)
    match content with
    | .ok more =>
      -- A file that ends inside a line gets a line end if another one follows.
      let gap := if text.isEmpty || text.getLast? = some '\n' then [] else ['\n']
      joinedInputs rest (text ++ gap ++ more) status
    | .error cause =>
      refuseInput false name cause
      -- A directory is opened before it turns out to be unreadable, and that ends the input.
      if cause = .isDirectory then return (text, 4)
      joinedInputs rest text 2

/-- Edits texts line by line. -/
def editLines : Program := fun words => do
  let (ending?, words) := copyEnding words
  withOptions "sed" "ef" "nirEsuz" true words fun options => do
    let shell ← get
    match editText? shell options with
    | none =>
      Act.write 2 <|
        "Usage: sed [OPTION]... \x7bscript-only-if-no-other-script\x7d [input-file]...\n".toList
      return 1
    | some (text, names) =>
      match editCommands (options.has 'r' || options.has 'E') text with
      | .error e =>
        Act.report "sed" <| "-e expression #1, char ".toList ++ decimal e.place ++ ": ".toList ++
          charsOfString e.cause
        return 1
      | .ok commands =>
        let contentOf (name : Chars) : Chars :=
          ((shell.content name).toOption.map charsOf).getD []
        let run := edited commands (options.has 'n') contentOf
        if options.has 'i' then return ← editInPlace run ending? names
        let (input, status) ← joinedInputs (Act.inputsOf names) [] 0
        let (ending, output, written) := run input
        Act.write 1 output
        written.forM store
        return if ending = 0 then status else ending

end Themer.Script
