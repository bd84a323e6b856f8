import Themer.Script.Condition
import Themer.Script.Expansion
import Themer.Script.Format

/-! The commands that a shell carries out itself. -/

namespace Themer.Script

namespace Act

/-- The number that a word spells, with blanks around it and maybe a plus sign. -/
def numberOf (word : Chars) : Act Nat := do
  match conditionNumber word with
  | .ok n => if 0 ≤ n && n < 2147483648 then return n.toNat
  | .error _ => pure ()
  fail ("Illegal number: ".toList ++ word)

end Act

open Act

/-- A value in quotes, as a script can read it back. -/
def quotedValue (value : Chars) : Chars :=
  '\'' :: (value.flatMap fun c => if c = '\'' then "'\"'\"'".toList else [c]) ++ ['\'']

/-- The name and the value of an argument with an equals sign. -/
def splitSetting (argument : Chars) : Chars × Option Chars :=
  match argument.dropWhile (· != '=') with
  | _ :: value => (argument.takeWhile (· != '='), some value)
  | [] => (argument, none)

/-- Writes the variables of some kind, in order, each as a command that sets it. -/
def writeVariables (command : String) (isShown : Variable → Bool) : Act Nat := do
  let shown := (← get).parameters.filter fun (_, var) => isShown var
  let sorted := shown.mergeSort fun a b => !(b.1 < a.1 : Bool)
  for (name, var) in sorted do
    let value := match var.value with
      | some value => '=' :: quotedValue value
      | none => []
    write 1 (command.toList ++ name ++ value ++ ['\n'])
  return 0

/-- Sets variables and what else is known of them. -/
def declare (command : String) (isShown : Variable → Bool) (mark : Variable → Variable)
    (arguments : List Chars) : Act Nat := do
  let names := arguments.filter (· != ['-', 'p'])
  if names.isEmpty then return ← writeVariables command isShown
  for argument in names do
    let (name, value?) := splitSetting argument
    if !isName name then fail (name ++ ": bad variable name".toList)
    if let some value := value? then setVariable name value
    modify fun shell =>
      -- A name without a value is marked as well, for the value it may get later.
      let known := (shell.parameters.lookup name).getD ⟨none, false, false⟩
      shell.putVariable name (some (mark known))
  return 0

/-- Sets variables that get their earlier values back at the end of the function. -/
def localize (arguments : List Chars) : Act Nat := do
  for argument in arguments do
    let (name, value?) := splitSetting argument
    match (← get).kept with
    | [] => fail "not in a function".toList
    | frame :: frames =>
      if !isName name then fail (name ++ ": bad variable name".toList)
      let known := (← get).parameters.lookup name
      -- The value from before the first time is the one to come back.
      if !frame.any (·.1 == name) then
        modify ({ · with kept := ((name, known) :: frame) :: frames })
      if let some value := value? then setVariable name value
  if (← get).kept.isEmpty then fail "not in a function".toList
  return 0

/-- Takes variables or functions away. -/
def unset (arguments : List Chars) : Act Nat := do
  let forFunctions := arguments.head? = some ['-', 'f']
  let names := if arguments.head?.any (·.head? == some '-') then arguments.drop 1 else arguments
  for name in names do
    if forFunctions then
      modify fun shell =>
        { shell with functions := shell.functions.filter (·.1 != name) }
    else
      if !isName name then fail (name ++ ": bad variable name".toList)
      if ((← get).parameters.lookup name).any (·.isReadOnly) then
        fail (name ++ ": is read only".toList)
      modify (·.putVariable name none)
  return 0

/-- The options of a shell by name and by letter. -/
def shellOptions : List (String × Char) :=
  [("errexit", 'e'), ("noglob", 'f'), ("ignoreeof", 'I'), ("interactive", 'i'), ("monitor", 'm'),
    ("noexec", 'n'), ("stdin", 's'), ("xtrace", 'x'), ("verbose", 'v'), ("vi", 'V'),
    ("emacs", 'E'), ("noclobber", 'C'), ("allexport", 'a'), ("notify", 'b'), ("nounset", 'u'),
    ("nolog", 'l'), ("debug", 'd')]

/-- Some letters of options with one of them switched. -/
def switch (on : Bool) (letter : Char) (letters : Chars) : Chars :=
  -- The letters stay in the order of the table.
  (shellOptions.map (·.2)).filter fun c => if c = letter then on else letters.contains c

/-- Writes which options are on. -/
def writeOptions : Act Unit := do
  write 1 "Current option settings\n".toList
  for (name, letter) in shellOptions do
    let padded := name.toList ++ List.replicate (16 - name.length) ' '
    write 1 (padded ++ (if (← get).has letter then "on\n" else "off\n").toList)

/-- Switches the option with a letter. -/
def switchOption (on : Bool) (letter : Char) : Act Unit :=
  modify fun shell => { shell with options := switch on letter shell.options }

/-- Switches the options that some letters stand for, except one that a name is to follow. -/
def switchLetters (sign : Char) (letters : Chars) : Act Unit := do
  for letter in letters.filter (· != 'o') do
    if (shellOptions.take 15).any (·.2 == letter) then switchOption (sign == '-') letter
    else fail ("Illegal option ".toList ++ [sign, letter])

/--
Switches the options that some arguments ask for; the arguments that are left, if any.

The first argument may be the name of an option that the one before has announced.
-/
def switchOptions : Option Char → List Chars → Act (Option (List Chars))
  | none, [] => return none
  | some _, [] => do
    writeOptions
    return none
  | some sign, name :: rest => do
    match shellOptions.lookup (String.ofList name) with
    | some letter => switchOption (sign == '-') letter
    | none => fail ("Illegal option ".toList ++ sign :: "o ".toList ++ name)
    switchOptions none rest
  | none, word :: rest =>
    match word with
    | ['-', '-'] => return some rest
    -- By itself it leaves the arguments as they are.
    | ['-'] => return if rest.isEmpty then none else some rest
    | sign :: letters => do
      if (sign != '-' && sign != '+') || letters.isEmpty then return some (word :: rest)
      switchLetters sign letters
      switchOptions (if letters.contains 'o' then some sign else none) rest
    | [] => return some (word :: rest)

/-- Sets options and arguments, or writes all variables. -/
def setShell (arguments : List Chars) : Act Nat := do
  if arguments.isEmpty then return ← writeVariables "" fun var => var.value.isSome
  if let some arguments ← switchOptions none arguments then
    modify ({ · with arguments })
  return 0

/-- Drops the first arguments. -/
def shift (arguments : List Chars) : Act Nat := do
  let count ← match arguments with
    | [] => pure 1
    | word :: _ => numberOf word
  let shell ← get
  if shell.arguments.length < count then fail "can't shift that many".toList
  set { shell with arguments := shell.arguments.drop count }
  return 0

/-- The signal that a word names, in digits or in letters of any case. -/
def signal? (word : Chars) : Option Nat :=
  if !word.isEmpty && word.all Char.isDigit then
    (String.ofList word).toNat?.filter (· < 65)
  else
    let name := String.ofList (word.map Char.toUpper)
    if name = "EXIT" then some 0 else signalNames.lookup name

/-- The name of a signal. -/
def signalName (signal : Nat) : String :=
  if signal = 0 then "EXIT"
  else ((signalNames.find? (·.2 == signal)).map (·.1)).getD (toString signal)

/-- Sets what is done when signals come. -/
def trap (arguments : List Chars) : Act Nat := do
  let arguments := if arguments.head? = some ['-', '-'] then arguments.drop 1 else arguments
  match arguments with
  | [] =>
    let sorted := (← get).traps.mergeSort fun a b => a.1 ≤ b.1
    for (signal, action) in sorted do
      write 1 <|
        "trap -- ".toList ++ quotedValue action ++ ' ' :: (signalName signal).toList ++ ['\n']
    return 0
  | first :: rest =>
    let isNumber := !first.isEmpty && first.all Char.isDigit
    let (action?, names) :=
      -- A number in front is no action, so all of them are signals that are to be let be.
      if rest.isEmpty || isNumber then (none, arguments) else (some first, rest)
    let action? := action?.filter (· != ['-'])
    for name in names do
      match signal? name with
      | none =>
        write 2 ("trap: ".toList ++ name ++ ": bad trap\n".toList)
        return 1
      | some signal => modify fun shell =>
        { shell with
          traps := shell.traps.filter (·.1 != signal) ++ (action?.map (signal, ·)).toList }
    return 0

/-- Sends a signal to the shell with a number. -/
def send (signal target : Nat) : Act Nat := do
  let shell ← get
  -- To itself a signal comes at once, unless there is a trap for it.
  if target = shell.number && shell.level = 0 then
    if harmlessSignals.contains signal && (shell.traps.lookup signal).isNone then return 0
    match shell.traps.lookup signal with
    | some [] => return 0
    | some _ =>
      -- No trap holds this one off.
      if signal = 9 then throw (.killed signal)
      set { shell with pending := shell.pending ++ [(target, signal)] }
      return 0
    | none => throw (.killed signal)
  -- It waits for the shell that it is for.
  else if processNumber ≤ target && target ≤ shell.number then
    if !harmlessSignals.contains signal then
      set { shell with pending := shell.pending ++ [(target, signal)] }
    return 0
  else
    complain "No such process\n".toList
    return 1

/-- Sends a signal to some processes. -/
def kill (arguments : List Chars) : Act Nat := do
  let toAll (signal : Nat) (targets : List Chars) : Act Nat := do
    if targets.isEmpty then
      fail ("Usage: kill [-s sigspec | -signum | -sigspec] [pid | job]... or\n".toList ++
        "kill -l [exitstatus]".toList)
    let mut status := 0
    for target in targets do
      status := max status (← send signal (← numberOf target))
    return status
  match arguments with
  | ['-', 's'] :: [] => fail "No arg for -s option".toList
  | ['-', 's'] :: name :: targets => match signal? name with
    | some signal => toAll signal targets
    | none => fail ("invalid signal number or name: ".toList ++ name)
  | ['-', 'l'] :: word :: _ =>
    let number ← numberOf word
    write 1 ((signalName (if 128 < number then number - 128 else number)).toList ++ ['\n'])
    return 0
  | ['-', '-'] :: targets => toAll 15 targets
  | ('-' :: first :: name) :: targets => match signal? (first :: name) with
    | some signal => toAll signal targets
    | none => fail ("Illegal option -".toList ++ [first])
  | targets => toAll 15 targets

/-- Goes to another directory. -/
def changeDirectory (arguments : List Chars) : Act Nat := do
  let shell ← get
  let isOption (word : Chars) : Bool := [['-', 'L'], ['-', 'P'], ['-', '-']].contains word
  let arguments := arguments.filter (!isOption ·)
  let name := match arguments with
    | [] => (shell.value? "HOME".toList).getD []
    | ['-'] :: _ => (shell.value? "OLDPWD".toList).getD []
    | name :: _ => name
  if name.isEmpty then return 0
  match shell.spot name with
  | .ok (.taken location .directory) =>
    let before := shell.directory
    set { shell with disk := { shell.disk with workDir := location } }
    let place (name : String) (value : Chars) : Act Unit := do
      setVariable name.toList value
      modify fun shell =>
        shell.putVariable name.toList (some ⟨some value, true, false⟩)
    place "OLDPWD" before
    place "PWD" (← get).directory
    if arguments.head? = some ['-'] then write 1 ((← get).directory ++ ['\n'])
    return 0
  | _ => fail ("can't cd to ".toList ++ name)

/-- A line whose backslashes protect the next character; one at its end joins the next line. -/
def protectedLine : Nat → Act (List Piece × Bool)
  | 0 => return ([], false)
  | steps + 1 => do
    let (line, isComplete) ← readLine 0
    let (pieces, joins) := unprotect line
    -- At the very end there is no next line to be joined.
    if joins && isComplete then
      let (more, isComplete) ← protectedLine steps
      return (pieces ++ more, isComplete)
    return (pieces, isComplete)
where
  /-- The pieces of a line, and whether it ends in a backslash. -/
  unprotect : Chars → List Piece × Bool
    | ['\\'] => ([], true)
    | '\\' :: c :: rest =>
      let (pieces, joins) := unprotect rest
      (.char c .quoted :: pieces, joins)
    | c :: rest =>
      let (pieces, joins) := unprotect rest
      (.char c .substituted :: pieces, joins)
    | [] => ([], false)

/-- Whether a piece is a separator, of the kind that is blank or of any. -/
def isSeparator (separators : Chars) (onlyBlank : Bool) : Piece → Bool
  | .char c .substituted => separators.contains c && (!onlyBlank || blanks.contains c)
  | _ => false

/-- The values that some variables get from a line; the last one gets all that is left. -/
def valuesFor (separators : Chars) : List Chars → List Piece → List (Chars × Chars)
  | [], _ => []
  | name :: names, pieces =>
    let pieces := pieces.dropWhile (isSeparator separators true)
    let trimBack (pieces : List Piece) : List Piece :=
      (pieces.reverse.dropWhile (isSeparator separators true)).reverse
    let field := pieces.takeWhile fun piece => !isSeparator separators false piece
    let rest := (pieces.drop field.length).dropWhile (isSeparator separators true)
    let rest := match rest with
      | piece :: more =>
        if isSeparator separators false piece then
          more.dropWhile (isSeparator separators true)
        else rest
      | [] => []
    if names.isEmpty then
      -- A single separator behind the last field goes with it.
      [(name, textOf (if rest.isEmpty then field else trimBack pieces))]
    else (name, textOf field) :: valuesFor separators names rest

/-- Reads a line into variables. -/
def readVariables (arguments : List Chars) : Act Nat := do
  let options := arguments.takeWhile fun word => word.head? == some '-' && word.length > 1
  let names := arguments.drop options.length
  let names := if options.contains ['-', 'p'] then names.drop 1 else names
  -- Without a name there is nowhere to put what is read.
  if names.isEmpty then fail "arg count".toList
  for name in names do
    if !isName name then fail (name ++ ": bad variable name".toList)
  let (pieces, isComplete) ←
    if options.any (·.contains 'r') then do
      let (line, isComplete) ← readLine 0
      pure (piecesOf .substituted line, isComplete)
    else protectedLine 1000
  for (name, value) in valuesFor (← get).separators names pieces do
    setVariable name value
  return if isComplete then 0 else 1

/-- Prints values laid out by a format. -/
def printFormat (arguments : List Chars) : Act Nat := do
  let arguments := if arguments.head? = some ['-', '-'] then arguments.drop 1 else arguments
  match arguments with
  | [] => fail "usage: printf format [arg ...]".toList
  | format :: values =>
    let printing := printed format values
    for error in printing.errors do
      complain error.text
    -- What could be laid out is written, whatever was wrong with the rest.
    write 1 printing.text
    return if printing.hasFailed then 2 else if printing.errors.isEmpty then 0 else 1

/-- Tests a condition, which one name of the command wants in brackets. -/
def testCondition (name : String) (arguments : List Chars) : Act Nat := do
  let words ←
    if name = "[" then
      if arguments.getLast? = some [']'] then pure arguments.dropLast
      else fail "missing ]".toList
    else pure arguments
  match (← get).holds words with
  | .ok holds => return if holds then 0 else 1
  | .error error => fail error.text

/-- The levels of loops that a word asks to leave. -/
def loopLevels (arguments : List Chars) : Act Nat := do
  let levels ← match arguments with
    | [] => pure 1
    | word :: _ => numberOf word
  if levels = 0 then fail "Illegal number: 0".toList
  return min levels (← get).loops

/-- The status that a word asks for, if there is one. -/
def statusFor (arguments : List Chars) : Act (Option Nat) := do
  match arguments with
  | [] => return none
  | word :: _ => return some (← numberOf word)

/-- The builtins that need nothing but their arguments. -/
def plainBuiltins : List (String × Program) :=
  [(":", fun _ => return 0), ("true", fun _ => return 0), ("false", fun _ => return 1),
    ("echo", fun words => do write 1 (echoText words); return 0),
    ("printf", printFormat), ("test", testCondition "test"), ("[", testCondition "["),
    ("cd", changeDirectory), ("chdir", changeDirectory),
    ("pwd", fun _ => do write 1 ((← get).directory ++ ['\n']); return 0),
    ("read", readVariables), ("kill", kill), ("trap", trap), ("shift", shift), ("set", setShell),
    ("unset", unset), ("local", localize),
    ("export", declare "export " (·.isExported) ({ · with isExported := true })),
    ("readonly", declare "readonly " (·.isReadOnly) ({ · with isReadOnly := true })),
    ("exit", fun words => do throw (.exited (← statusFor words))),
    ("return", fun words => do
      if let some status ← statusFor words then setStatus status
      throw .returned),
    ("break", fun words => do
      let levels ← loopLevels words
      -- Outside of all loops there is nothing to leave, and that is no mistake.
      if levels = 0 then return 0
      setStatus 0
      throw (.broken levels)),
    ("continue", fun words => do
      let levels ← loopLevels words
      if levels = 0 then return 0
      setStatus 0
      throw (.continued levels)),
    ("umask", fun words => do
      if words.isEmpty then write 1 "0022\n".toList
      return 0),
    ("ulimit", fun _ => return 0), ("wait", fun _ => return 0), ("hash", fun _ => return 0),
    ("alias", fun _ => return 0), ("unalias", fun _ => return 0), ("jobs", fun _ => return 0),
    ("times", fun _ => do
      write 1 "0m0.000000s 0m0.000000s\n0m0.000000s 0m0.000000s\n".toList
      return 0)]

/-- The names of the builtins that hand their arguments on to be carried out. -/
def carryingBuiltins : List String := [".", "command", "eval", "exec", "type"]

/-- Whether a name is one of a builtin. -/
def isBuiltin (name : String) : Bool :=
  (plainBuiltins.lookup name).isSome || carryingBuiltins.contains name

end Themer.Script
