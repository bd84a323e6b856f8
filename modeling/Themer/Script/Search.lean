import Themer.Script.Options
import Themer.Script.Pieces
import Themer.Script.Regex

/-! The search for lines that match an expression. -/

namespace Themer.Script

/-- A search: the expression, and whether upper and lower case count as the same. -/
structure Search where
  regex : Regex
  anyCase : Bool
deriving Repr

/-- An expression for some characters as they are. -/
def Regex.ofText (text : List Char) : Regex :=
  text.foldl (fun regex c => .sequence regex (.exactly c)) .nothing

/-- The search that some options and patterns, one on each line, ask for. -/
def Search.read? (options : Options) (patterns : Chars) : Option Search := do
  let regexes ← (splitAt '\n' (widen patterns)).mapM fun pattern =>
    if options.has 'F' then some (Regex.ofText pattern)
    else Regex.read? (options.has 'E') pattern
  let all := match regexes with
    | [] => .nothing
    | first :: more => more.foldl Regex.either first
  let bounded :=
    -- What bounds a match is around all patterns together.
    if options.has 'x' then .sequence .lineStart (.sequence all .lineEnd)
    else if options.has 'w' then .sequence .noWordBefore (.sequence all .noWordAfter)
    else all
  return ⟨bounded, options.has 'i'⟩

/-- The matches in a text that are not empty, from left to right, for at most so many. -/
def Search.matches (search : Search) : Nat → Option Char → List Char → List (List Char)
  | 0, _, _ => []
  | count + 1, before, text =>
    match search.regex.find? search.anyCase before text with
    | none => []
    | some found =>
      match found.text with
      -- An empty match is passed over with the character behind it, or there would be no end.
      | [] => match found.rest with
        | [] => []
        | c :: rest => search.matches count (some c) rest
      | matched => matched :: search.matches count (matched.getLast? <|> before) found.rest

/-- The files below a name, in order, for at most so many levels. -/
def filesBelow (shell : Shell) : Nat → Chars → List Chars
  | 0, _ => []
  | levels + 1, name =>
    match shell.spot name with
    | .ok (.taken location .directory) =>
      (shell.disk.namesIn location).flatMap fun child =>
        filesBelow shell levels (name ++ '/' :: charsOfString child)
    | .ok (.taken _ _) => [name]
    | _ => []

/-- Writes what a search finds in one text, under a name; whether it finds something. -/
def writeFound (options : Options) (search : Search) (name : Chars) (showsName : Bool)
    (text : Chars) : Act Bool := do
  let numbered := (linesIn text).zipIdx 1
  let found := numbered.filter fun (line, _) =>
    (search.regex.find? search.anyCase none (widen line)).isSome != options.has 'v'
  -- The count is one of lines, whatever is written of them.
  let found := match (options.argument? 'm').bind fun n => (String.ofList n).toNat? with
    | some most => found.take most
    | none => found
  let label (number : Nat) : Chars :=
    (if showsName then name ++ [':'] else []) ++
      if options.has 'n' then decimal number ++ [':'] else []
  if options.has 'q' then pure ()
  else if options.has 'l' then
    if !found.isEmpty then Act.write 1 (name ++ ['\n'])
  else if options.has 'L' then
    if found.isEmpty then Act.write 1 (name ++ ['\n'])
  else if options.has 'c' then
    Act.write 1 ((if showsName then name ++ [':'] else []) ++ decimal found.length ++ ['\n'])
  else
    for (line, number) in found do
      if options.has 'o' then
        -- A line that does not match has no match to be shown.
        if !options.has 'v' then
          for matched in search.matches (line.length + 1) none (widen line) do
            Act.write 1 (label number ++ narrow matched ++ ['\n'])
      else Act.write 1 (label number ++ line ++ ['\n'])
  return !found.isEmpty

/-- Searches texts for lines that match an expression. -/
def searchLines (flags : Chars) : Program := fun words => do
  let read := Options.read ['e', 'f', 'm', 'A', 'B', 'C'] true words
  let options := read.add (flags.map (·, []))
  let given := (options.letters.filter (·.1 == 'e')).map (·.2)
  let (patterns, names) := match given, options.words with
    | [], pattern :: names => (some pattern, names)
    | [], [] => (none, [])
    | given, names => (some (['\n'].intercalate given), names)
  match patterns with
  | none =>
    Act.write 2 "Usage: grep [OPTION]... PATTERNS [FILE]...\n".toList
    Act.write 2 "Try 'grep --help' for more information.\n".toList
    return 2
  | some patterns => match Search.read? options patterns with
    | none =>
      Act.report "grep" "Unmatched [, [^, [:, [., or [=".toList
      return 2
    | some search =>
      let shell ← get
      let isDeep := options.has 'r' || options.has 'R'
      let names :=
        if names.isEmpty then if isDeep then [['.']] else [['-']] else names
      -- A name that is no directory is searched as it is, also where directories are gone through.
      let names := if isDeep then names.flatMap fun name =>
          if shell.at? name = some .directory then filesBelow shell 64 name else [name]
        else names
      let showsName := (names.length > 1 || isDeep || options.has 'H') && !options.has 'h'
      let mut isFound := false
      let mut hasFailed := false
      for name in names do
        let shown := if name = ['-'] then "(standard input)".toList else name
        let text? ←
          if name = ['-'] then do pure (some (← Act.readAll 0))
          else match (← get).content name with
            | .ok bytes => pure (some (charsOf bytes))
            | .error cause =>
              if !options.has 's' then
                Act.report "grep" (name ++ ": ".toList ++ cause.text.toList)
              pure none
        match text? with
        | none => hasFailed := true
        | some text =>
          if ← writeFound options search shown showsName text then isFound := true
      return if hasFailed && !(isFound && options.has 'q') then 2 else if isFound then 0 else 1

end Themer.Script
