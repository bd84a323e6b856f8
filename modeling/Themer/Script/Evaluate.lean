import Themer.Script.Builtin
import Themer.Script.Delegation
import Themer.Script.Interpreter
import Themer.Script.Programs

/-! The run of a shell script: its lines are read one at a time, and each is carried out. -/

namespace Themer.Script

open Themer.Text (Bytes)
open Act

/-- The number of steps that no run exceeds, in depth and in the rounds of a loop. -/
def stepLimit : Nat := 20000

/-- Ends the shell at a status that is not zero, if it is strict and nothing asks for the status. -/
def endIfStrict (tested : Bool) : Act Unit := do
  let shell ← get
  if shell.has 'e' && shell.status ≠ 0 && !tested then throw (.exited none)

/-- Opens the file that a redirection names. -/
def openFile (descriptor : Nat) (opening : Opening) (name : Chars) : Act Unit := do
  let shell ← get
  let verb := if opening = .read then "cannot open " else "cannot create "
  let refuse {α : Type} (cause : OsCause) : Act α := fail <|
    verb.toList ++ name ++ ": ".toList ++ (match cause, opening with
      | .notFound, .read => "No such file"
      | .notFound, _ => "Directory nonexistent"
      | cause, _ => cause.text).toList
  let connect (stream : Stream) : Act Unit := modify (·.openStream descriptor stream)
  let standard? := [("/dev/stdin", 0), ("/dev/stdout", 1), ("/dev/stderr", 2)].lookup
    (String.ofList name)
  -- These names are known by themselves, whether or not there are such files.
  if let some source := standard? then
    match shell.descriptors.lookup source with
    | some number => set (shell.connect descriptor number)
    | none => refuse .notFound
  else if name = "/dev/null".toList then connect .nowhere
  else match shell.spot name with
    | .error cause => refuse cause
    | .ok (.taken _ .device) => connect .nowhere
    | .ok (.taken _ .directory) =>
      -- A directory can be opened to be read; only the reading has nothing to give.
      if opening = .read then connect .nowhere else refuse .isDirectory
    | .ok (.taken location (.file _ executable)) =>
      -- It is emptied as soon as it is opened, even if nothing is written to it.
      if opening = .write then
        if shell.has 'C' then refuse .alreadyThere
        modify fun shell => { shell with disk := shell.disk.set location (.file [] executable) }
      connect (.file location 0 (opening == .append))
    | .ok (.free location) =>
      if opening = .read then refuse .notFound
      modify fun shell => { shell with disk := shell.disk.set location (.file [] false) }
      connect (.file location 0 (opening == .append))

/-- A redirection whose words are put in. -/
inductive Connection
  | file (descriptor : Nat) (opening : Opening) (name : Chars)
  | close (descriptor : Nat)
  | duplicate (descriptor source : Nat)
  | document (descriptor : Nat) (text : Chars)
deriving DecidableEq, Repr

/-- Puts the words of a redirection in; only digits and a dash name what a descriptor becomes. -/
def expandRedirection (carry : Carry) (redirection : Redirection) : Act Connection := do
  let refuse : Act Connection := do
    modify fun shell => { shell with line := shell.lineAhead }
    fail SyntaxError.badDescriptor.text.toList
  match redirection with
  | .file descriptor opening name => return .file descriptor opening (← expandText carry name)
  | .duplicate descriptor source => do
    match ← expandText carry source with
    | ['-'] => return .close descriptor
    | [digit] =>
      if digit.isDigit then return .duplicate descriptor (digit.toNat - 48) else refuse
    | _ => refuse
  | .document descriptor text => return .document descriptor (← expandText carry text)

/-- Makes a connection. -/
def connectOne : Connection → Act Unit
  | .file descriptor opening name => openFile descriptor opening name
  | .document descriptor text => modify (·.openStream descriptor (.text (bytesOf text) 0))
  | .close descriptor => modify (·.disconnect descriptor)
  | .duplicate descriptor source => do
    match (← get).descriptors.lookup source with
    | some number => modify (·.connect descriptor number)
    | none => fail (decimal source ++ ": Bad file descriptor".toList)

/-- Makes some connections; whether all of them could be made. -/
def connectAll (connections : List Connection) : Act Bool := do
  try
    connections.forM connectOne
    return true
  catch
    | .failed => return false
    | leap => throw leap

/-- Whether a word starts an assignment among the arguments of a builtin. -/
def isDeclaring (fields : List Chars) : Bool :=
  match fields with
  | name :: _ => ["export", "readonly", "local"].contains (String.ofList name)
  | [] => false

/-- The fields of the words of a command, behind those of its first words. -/
def commandFields (carry : Carry) (fields : List Chars) : List Word → Act (List Chars)
  | [] => return fields
  | word :: rest => do
    let more ←
      match isDeclaring fields, assignment? word with
      -- A value that is assigned is not cut into fields.
      | true, some (name, value) => do pure [name ++ '=' :: (← expandValue carry value)]
      | _, _ => expandWord carry word
    commandFields carry (fields ++ more) rest

/-- Does something with some variables set, which get their earlier values back after it. -/
def withVariables {α : Type} (settings : List (Chars × Chars)) (exported : Bool) (act : Act α) :
    Act α := do
  -- They are put back one by one, so what else is set in between stays.
  let before := (← get).parameters
  let restore : Act Unit := modify fun shell =>
    settings.foldl (fun shell (name, _) => shell.putVariable name (before.lookup name)) shell
  for (name, value) in settings do
    setVariable name value
    if exported then modify fun shell =>
      shell.putVariable name ((shell.parameters.lookup name).map ({ · with isExported := true }))
  try
    let result ← act
    restore
    return result
  catch leap =>
    restore
    throw leap

/-- Does something as a builtin with a name, whose complaints it bears. -/
def asBuiltin (name : Chars) (act : Act Nat) : Act Nat := do
  let before := (← get).command
  modify ({ · with command := name, hasLost := false })
  try
    let status ← act
    let isFine := !(← get).hasLost
    -- What could not be written is found only after the builtin has ended.
    if !isFine then complain (name ++ ": I/O error".toList)
    modify ({ · with command := before, hasLost := false })
    return if isFine then status else max 1 status
  catch leap =>
    modify ({ · with command := before })
    throw leap

/-- The variables of a shell that starts with those it is given. -/
def startingVariables (disk : Disk) (given : List (Chars × Variable)) : List (Chars × Variable) :=
  let own (name : String) (value : Chars) : Chars × Variable :=
    (name.toList, ⟨some value, name == "PWD", false⟩)
  let directory := charsOfString ("/" ++ "/".intercalate disk.workDir)
  let search := "/usr/local/sbin:/usr/local/bin:/usr/sbin:/usr/bin:/sbin:/bin".toList
  let defaults :=
    [own "IFS" blanks, own "OPTIND" ['1'], own "PATH" search, own "PS1" "# ".toList,
      own "PS2" "> ".toList, own "PS4" "+ ".toList, own "PPID" (decimal (processNumber - 1)),
      own "PWD" directory]
  -- A shell does not let others choose how its words are cut.
  let given := given.filter fun (name, _) => name != "IFS".toList
  defaults.filter (fun (name, _) => (given.lookup name).isNone) ++ given

/-- Runs a script in a shell of its own, and tells of a signal that ends it. -/
def asShell (carry : Carry) (name : Chars) (arguments : List Chars) (options : Chars)
    (text : Chars) : Act Nat := do
  let before ← get
  let leap ← apart do
    modify fun shell =>
      { shell with
        name, arguments
        options := (shellOptions.map (·.2)).filter options.contains
        number := shell.number + 1, level := 0, line := 1, command := []
        parameters := startingVariables shell.disk <| shell.parameters.filterMap
          fun (name, var) =>
            if var.isExported then some (name, { var with isReadOnly := false }) else none
        kept := [], functions := [], pending := [], status := 0 }
    toEnd carry (runText carry false text)
  modify fun shell => { shell with pending := before.pending ++ shell.pending }
  match leap with
  | some (.killed signal) =>
    -- Those two are the usual ways to stop something, and nobody has to be told.
    if signal ≠ 2 && signal ≠ 13 then write 2 (signalText signal ++ "\n").toList
    return 128 + signal
  | some .stalled => throw .stalled
  | _ => return (← get).status % 256

/-- The letters of the options of a shell, whether a command is given, and all other words. -/
def shellWords : List Chars → Chars × Bool × List Chars
  | ('-' :: letter :: letters) :: rest =>
    if letter = '-' then ([], false, rest)
    else
      let (more, given, words) := shellWords rest
      let all := letter :: letters
      (all.filter (· != 'c') ++ more, all.contains 'c' || given, words)
  | words => ([], false, words)

/-- Runs a shell that is given some words. -/
def runShell (carry : Carry) (name : Chars) (words : List Chars) : Act Nat := do
  match shellWords words with
  | (_, true, []) =>
    write 2 (name ++ ": 0: -c requires an argument\n".toList)
    return 2
  | (options, true, text :: rest) =>
    asShell carry (rest.head?.getD name) (rest.drop 1) options text
  | (options, false, []) => asShell carry name [] options (← readAll 0)
  | (options, false, file :: arguments) =>
    match (← get).content file with
    | .ok content => asShell carry file arguments options (charsOf content)
    | .error _ =>
      write 2 (name ++ ": 0: cannot open ".toList ++ file ++ ": No such file\n".toList)
      return 2

/-- How a program is found. -/
inductive Found
  | program (name : String)
  | script (path : Chars) (content : Bytes)
  | refused
  | nowhere

/-- The status and the cause if no program is found. -/
def Found.fault? : Found → Option (Nat × String)
  | .refused => some (126, "Permission denied")
  | .nowhere => some (127, "No such file or directory")
  | _ => none

/-- What a path to a program leads to. -/
def Shell.foundAt (shell : Shell) (path : Chars) : Found :=
  match programName? (stringOf path) with
  | some name => .program name
  | none => match shell.at? path with
    | some (.file content true) => .script path content
    | some _ => .refused
    | none => .nowhere

/-- Whether a name is one of a program that is there. -/
def isProgram (name : String) : Bool :=
  (programs.lookup name).isSome || shellNames.contains name || ["env", "xargs"].contains name

/-- What the name of a program leads to: a path, or a name to look up in the search path. -/
def Shell.find (shell : Shell) (name : Chars) : Found :=
  if name.contains '/' then
    match shell.foundAt name with
    | .program program => if isProgram program then .program program else .nowhere
    | found => found
  else
    let directories := splitAt ':' ((shell.value? "PATH".toList).getD [])
    -- From the right, so that each directory knows what the ones behind it would give.
    directories.foldr (fun directory otherwise =>
      let path := if directory.isEmpty then name else directory ++ '/' :: name
      match shell.foundAt path with
      | .program program => if isProgram program then .program program else otherwise
      | .script path content => .script path content
      -- One that may not be run counts only if no other directory has one that may.
      | .refused => match otherwise with
        | .nowhere => .refused
        | found => found
      | .nowhere => otherwise) .nowhere

mutual

/-- Runs the program that a name leads to, for at most so many steps. -/
def runProgram (carry : Carry) : Nat → Chars → List Chars → Act Nat
  | 0, _, _ => throw .stalled
  | steps + 1, name, words => do
    match (← get).find name with
    | .program program => runNamed carry steps program name words
    | .script path content => runFile carry steps path content words
    | .refused =>
      complain (name ++ ": Permission denied".toList)
      return 126
    | .nowhere =>
      complain (name ++ ": not found".toList)
      return 127

/-- Runs a program by its own name. -/
def runNamed (carry : Carry) : Nat → String → Chars → List Chars → Act Nat
  | 0, _, _, _ => throw .stalled
  | steps + 1, program, name, words => do
    if shellNames.contains program then return ← runShell carry name words
    let starter : Starter := ⟨runProgram carry steps, fun shell name => (shell.find name).fault?⟩
    match program with
    | "env" => runInEnvironment starter words
    | "xargs" => runForItems starter words
    | _ => match programs.lookup program with
      | some act => act words
      | none =>
        complain (name ++ ": not found".toList)
        return 127

/-- Runs a file by the interpreter that it names; a shell is its interpreter if it names none. -/
def runFile (carry : Carry) : Nat → Chars → Bytes → List Chars → Act Nat
  | 0, _, _, _ => throw .stalled
  | steps + 1, path, content, words => do
    match interpreter? content with
    -- Here a shell is the one who runs it, and takes it for a script of its own kind.
    | none => asShell carry path words [] (charsOf content)
    | some interpreter => match interpreter.runner? with
      | some (.shell option) =>
        asShell carry path words (option.toList.filter (· != '-')) (charsOf content)
      | some (.program name first) =>
        runNamed carry steps name path (first.map charsOfString ++ path :: words)
      | none =>
        complain (path ++ ": not found".toList)
        return 127

end

/-- Calls a function with arguments of its own. -/
def callFunction (carry : Carry) (tested : Bool) (body : Command) (arguments : List Chars) :
    Act Unit := do
  let before ← get
  -- A loop around the call is not one that the function can leave.
  set { before with arguments, kept := [] :: before.kept, loops := 0 }
  let restore : Act Unit := modify fun shell =>
    let restored := (shell.kept.head?.getD []).foldl
      (fun shell (name, var) => shell.putVariable name var) shell
    { restored with
      arguments := before.arguments, kept := before.kept, loops := before.loops }
  try
    carry tested body
    restore
  catch leap =>
    restore
    -- A return leads no further than here.
    if leap ≠ .returned then throw leap

/-- Says what some names are as commands. -/
def describe (isShort : Bool) (names : List Chars) : Act Nat := do
  let mut status := 0
  for name in names do
    let shell ← get
    let text := String.ofList name
    let say (short long : Chars) : Act Unit :=
      write 1 ((if isShort then short else name ++ ' ' :: long) ++ ['\n'])
    if keywords.contains text then say name "is a shell keyword".toList
    else if (shell.functions.lookup name).isSome then say name "is a shell function".toList
    else if isBuiltin text then
      say name <| (if specialBuiltins.contains text then "is a special shell builtin"
        else "is a shell builtin").toList
    else match shell.find name with
      | .program program =>
        let path := if name.contains '/' then name else "/usr/bin/".toList ++ program.toList
        say path ("is ".toList ++ path)
      | .script path _ => say path ("is ".toList ++ path)
      | _ =>
        if !isShort then write 1 (name ++ ": not found\n".toList)
        status := 127
  return status

/-- Reads a script from a file and carries it out in this shell. -/
def source (carry : Carry) (arguments : List Chars) : Act Nat := do
  match arguments with
  | [] => return 0
  | name :: _ =>
    let shell ← get
    let directories := splitAt ':' ((shell.value? "PATH".toList).getD [])
    let candidates :=
      if name.contains '/' then [name] else directories.map fun directory => below directory name
    let found := candidates.findSome? fun path =>
      (shell.content path).toOption.map fun content => (path, content)
    match found with
    | none =>
      if name.contains '/' then fail ("cannot open ".toList ++ name ++ ": No such file".toList)
      else fail (name ++ ": not found".toList)
    | some (path, content) =>
      modify ({ · with command := path, status := 0 })
      try runText carry false (charsOf content)
      catch
        | .returned => pure ()
        | leap => throw leap
      return (← get).status

/-- Carries out a builtin. -/
def runBuiltin (carry : Carry) (tested : Bool) (name : Chars) (arguments : List Chars) :
    Act Nat := do
  match String.ofList name with
  | "eval" =>
    setStatus 0
    runText carry tested ([' '].intercalate arguments)
    return (← get).status
  | "." => source carry arguments
  | "type" => describe false arguments
  | "exec" => match arguments with
    | [] => return 0
    | program :: words =>
      let status ← runProgram carry stepLimit program words
      setStatus status
      throw (.exited (some status))
  | "command" => match arguments with
    | ['-', 'v'] :: names => describe true (names.take 1)
    | ['-', 'V'] :: names => describe false (names.take 1)
    | _ => return 0
  | text => match plainBuiltins.lookup text with
    | some act => act arguments
    | none => return 127

/-- The command that is carried out as no function, behind a word that asks for that. -/
def plainCommand? (name : Chars) (arguments : List Chars) : Option (Chars × List Chars) :=
  if name ≠ "command".toList then none
  else match arguments with
    | ['-', 'p'] :: name :: words => some (name, words)
    | ('-' :: _) :: _ => none
    | name :: words => some (name, words)
    | [] => none

/-- Carries out a command that is no function, for at most so many steps. -/
def runUnnamed (carry : Carry) (tested : Bool) : Nat → Chars → List Chars → Act Nat
  | 0, _, _ => throw .stalled
  | steps + 1, name, arguments => match plainCommand? name arguments with
    | some (name, arguments) => runUnnamed carry tested steps name arguments
    | none =>
      if isBuiltin (String.ofList name) then
        asBuiltin name (runBuiltin carry tested name arguments)
      else runProgram carry stepLimit name arguments

/-- Writes a command that is about to be carried out, if all are to be shown. -/
def trace (settings : List (Chars × Chars)) (fields : List Chars) : Act Unit := do
  let shell ← get
  if shell.has 'x' then
    let shown := settings.map (fun (name, value) => name ++ '=' :: value) ++ fields
    write 2 ((shell.value? "PS4".toList).getD [] ++ [' '].intercalate shown ++ ['\n'])

/-- Carries out a command with its fields put in, and its assignments. -/
def runFields (carry : Carry) (tested : Bool) (settings : List (Chars × Chars))
    (fields : List Chars) : Act Unit := do
  match fields with
  | [] =>
    for (name, value) in settings do
      setVariable name value
    setStatus (← get).outputStatus
  | name :: arguments =>
    let text := String.ofList name
    match (← get).functions.lookup name with
    | some body => withVariables settings false (callFunction carry tested body arguments)
    | none =>
      -- What is set for one of these stays set.
      if specialBuiltins.contains text then
        for (name, value) in settings do
          setVariable name value
        setStatus (← runUnnamed carry tested stepLimit name arguments)
      else if isBuiltin text then
        try
          withVariables settings false do
            setStatus (← runUnnamed carry tested stepLimit name arguments)
        catch
          | .failed => pure ()
          | leap => throw leap
      else withVariables settings true do
        setStatus (← runProgram carry stepLimit name arguments)

/-- Carries out a simple command. -/
def runSimple (carry : Carry) (tested : Bool) (line : Nat) (assignments : List (Chars × Word))
    (words : List Word) (redirections : List Redirection) : Act Unit := do
  modify ({ · with line, outputStatus := 0 })
  let fields ← commandFields carry [] words
  -- All words are put in before the first file is opened.
  let connections ← redirections.mapM (expandRedirection carry)
  let functions := (← get).functions
  let isSpecial := match fields with
    | name :: _ =>
      specialBuiltins.contains (String.ofList name) && (functions.lookup name).isNone
    | [] => false
  let act : Act Unit := do
    if ← connectAll connections then
      let settings ← assignments.mapM fun (name, value) => do
        return (name, ← expandValue carry value)
      trace settings fields
      runFields carry tested settings fields
    -- For other commands a file that cannot be opened is only a bad status.
    else if isSpecial then throw .failed
  -- What a bare exec connects stays so.
  if fields = ["exec".toList] then act else connected act
  endIfStrict tested

/-- What a loop does after a round: it goes on, or it stops. -/
inductive Round
  | on
  | again
  | stop
deriving DecidableEq, Repr

/-- Carries out a part of a loop; leaving more than one loop leaves the others after this one. -/
def inLoop (act : Act Unit) : Act Round := do
  modify fun shell => { shell with loops := shell.loops + 1 }
  -- However the part ends, the loop is left for the time being.
  let leave : Act Unit := modify fun shell => { shell with loops := shell.loops - 1 }
  try
    act
    leave
    return .on
  catch leap =>
    leave
    match leap with
    | .broken levels => if levels ≤ 1 then return .stop else throw (.broken (levels - 1))
    | .continued levels => if levels ≤ 1 then return .again else throw (.continued (levels - 1))
    | leap => throw leap

/-- Carries out the rounds of a loop with a condition, for at most so many; the last status. -/
def runLoop (carry : Carry) (tested whileTrue : Bool) (condition body : Command) :
    Nat → Nat → Act Nat
  | 0, _ => throw .stalled
  | rounds + 1, status => do
    match ← inLoop (carry true condition) with
    | .stop => return status
    | .again => runLoop carry tested whileTrue condition body rounds status
    | .on =>
      -- The status of the condition does not become the one of the loop.
      if ((← get).status == 0) != whileTrue then return status
      let round ← inLoop (carry tested body)
      let status := (← get).status
      if round = .stop then return status
      runLoop carry tested whileTrue condition body rounds status

/-- Carries out the rounds of a loop over some words; the last status. -/
def runEach (carry : Carry) (tested : Bool) (name : Chars) (body : Command) :
    List Chars → Nat → Act Nat
  | [], status => return status
  | word :: rest, _ => do
    setVariable name word
    let round ← inLoop (carry tested body)
    let status := (← get).status
    if round = .stop then return status
    runEach carry tested name body rest status

/-- Whether one of some patterns accepts a text. -/
def acceptsAny (carry : Carry) (subject : Chars) : List Word → Act Bool
  | [] => return false
  | pattern :: rest => do
    if accepts (← expandPattern carry pattern) subject then return true
    acceptsAny carry subject rest

/-- Carries out the first case that accepts a text. -/
def runCases (carry : Carry) (tested : Bool) (subject : Chars) :
    List (List Word × Command) → Act Unit
  | [] => setStatus 0
  | (patterns, body) :: rest => do
    if ← acceptsAny carry subject patterns then
      match body with
      | .nothing => setStatus 0
      | body => carry tested body
    else runCases carry tested subject rest

/-- Carries out the commands of a pipeline, each in a shell within, on what the last one wrote. -/
def runPipeline (carry : Carry) (tested : Bool) : List Command → Act Unit
  | [] => pure ()
  | [command] => within carry (carry tested command)
  | command :: rest => do
    let number := (← get).streams.length
    connected do
      -- One after the other: all that the first one writes is there when the next one reads.
      modify (·.openStream 1 (.text [] 0))
      within carry (carry tested command)
    connected do
      modify (·.connect 0 number)
      runPipeline carry tested rest

/-- Carries out a command, whose parts are handed on. -/
def carryOut (carry : Carry) (tested : Bool) : Command → Act Unit
  | .nothing => pure ()
  | .simple line assignments words redirections =>
    runSimple carry tested line assignments words redirections
  | .pipeline commands => do
    runPipeline carry tested commands
    endIfStrict tested
  | .negation command => do
    carry true command
    modify fun shell => { shell with status := if shell.status = 0 then 1 else 0 }
  | .both first second => do
    carry true first
    if (← get).status = 0 then carry tested second
  | .either first second => do
    carry true first
    if (← get).status ≠ 0 then carry tested second
  | .sequence first second => do
    carry tested first
    carry tested second
  | .background command => do
    connected do
      modify (·.openStream 0 .nowhere)
      within carry (carry false command)
    setStatus 0
  | .subshell line command redirections => do
    modify ({ · with line })
    let connections ← redirections.mapM (expandRedirection carry)
    connected do
      within carry do
        if ← connectAll connections then carry tested command
    endIfStrict tested
  | .redirected line command redirections => do
    modify ({ · with line })
    let connections ← redirections.mapM (expandRedirection carry)
    connected do
      if ← connectAll connections then carry tested command
  | .choice condition consequent alternative => do
    -- A condition may fail: it is asked for its status.
    carry true condition
    if (← get).status = 0 then carry tested consequent
    else match alternative with
      | .nothing => setStatus 0
      | alternative => carry tested alternative
  | .loop whileTrue condition body => do
    setStatus (← runLoop carry tested whileTrue condition body stepLimit 0)
  | .each line name words body => do
    modify ({ · with line })
    setStatus (← runEach carry tested name body (← expandWords carry words) 0)
  | .selection line subject cases => do
    modify ({ · with line })
    runCases carry tested (← expandText carry subject) cases
  | .function name body => do
    modify fun shell => { shell with
      functions := (name, body) :: shell.functions.filter (·.1 != name), status := 0 }

/-- Carries out a command within so many levels, and heeds the signals that come with it. -/
def carryWithin : Nat → Carry
  | 0, _, _ => throw .stalled
  | levels + 1, tested, command => do
    carryOut (fun tested command => carryWithin levels tested command) tested command
    heedSignals fun tested command => carryWithin levels tested command

/-- Carries out a command. -/
def carryCommand : Carry := carryWithin stepLimit

/-- A shell that starts under a given name, with nothing to read and two texts to write. -/
def Shell.start (disk : Disk) (environment : Variables) (options : Chars)
    (name : String) : Shell :=
  let inherited := environment.filterMap fun (name, value) =>
    let name := charsOfString name
    let known : Variable := ⟨some (charsOfString value), true, false⟩
    if isName name then some (name, known) else none
  { disk, name := charsOfString name
    streams := [.text [] 0, .text [] 0, .text [] 0]
    descriptors := [(0, 0), (1, 1), (2, 2)]
    number := processNumber, level := 0, arguments := []
    parameters := startingVariables disk inherited
    kept := [], functions := []
    options := (shellOptions.map (·.2)).filter options.contains
    traps := [], command := [], pending := []
    status := 0, outputStatus := 0, line := 1, lineAhead := 1, loops := 0, hasLost := false }

/-- How some work of a shell goes; where it has run out of steps, no end of it is seen. -/
def Shell.finish (shell : Shell) (act : Act Unit) : Ran :=
  let workDir := shell.disk.workDir
  let (result, shell) := (act.run shell).run
  let content (number : Nat) : Bytes := match shell.streams[number]? with
    | some (.text content _) => content
    | _ => []
  let ended (status : Int) : Ran :=
    .ended ⟨status, content 1, content 2⟩ { shell.disk with workDir }
  match result with
  | .error .stalled => .endless
  | .error (.killed signal) => ended (-(signal : Int))
  | _ => ended ((shell.status % 256 : Nat) : Int)

/-- The run of a script under a given name, options and arguments. -/
def run (disk : Disk) (environment : Variables) (options name : String)
    (arguments : List String) (script : Bytes) : Ran :=
  let letters := match options.toList with
    | '-' :: letters => letters
    | _ => []
  let shell := Shell.start disk environment letters name
  { shell with arguments := arguments.map charsOfString }.finish
    (toEnd carryCommand (runText carryCommand false (charsOf script)))

/-- The run of a program by its name, with the words it is given. -/
def runByName (disk : Disk) (environment : Variables) (name : String)
    (words : List String) : Ran :=
  (Shell.start disk environment [] name).finish do
    setStatus (← runNamed carryCommand stepLimit name name.toList (words.map charsOfString))

end Themer.Script
