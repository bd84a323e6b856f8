import Themer.Script.System

/-!
A shell at work: the disk it changes, its variables, its streams, and how its work may end early.

A script is read byte by byte, each byte as the character of its number.
-/

namespace Themer.Script

open Themer.Text (Bytes)

/-- The bytes that some characters stand for. -/
def bytesOf (text : Chars) : Bytes := text.map fun c => UInt8.ofNat c.toNat

/-- The characters that some bytes stand for. -/
def charsOf (bytes : Bytes) : Chars := bytes.map fun b => Char.ofNat b.toNat

/-- The characters that stand for the bytes of a text. -/
def charsOfString (text : String) : Chars := charsOf (Text.Utf8.encode text.toList)

/-- The text whose bytes some characters stand for, or the characters if there is none. -/
def stringOf (chars : Chars) : String :=
  match Text.Utf8.decode (bytesOf chars) with
  | .ok text => String.ofList text
  | .error _ => String.ofList chars

/-- The path that some characters spell. -/
def pathOf (name : Chars) : Path := Path.ofString (stringOf name)

/-- A variable: its value, if it has one, and who may see and set it. -/
structure Variable where
  value : Option Chars
  isExported : Bool
  isReadOnly : Bool
deriving DecidableEq, Repr

/-- A stream that is open: a text with the place of the next reading, a file, or nothing. -/
inductive Stream
  | text (content : Bytes) (place : Nat)
  | file (location : Location) (place : Nat) (appends : Bool)
  | nowhere
deriving DecidableEq, Repr

/--
A shell at work.

The streams are numbered in the order in which they were opened, and descriptors lead to them.
A shell within another has the number of the first one, and lies a level deeper.
The command is the builtin at work, if there is one.
The line is the one of the command at work, and the line ahead is the first one not yet read.
What is written to a descriptor that leads nowhere is lost, and the shell knows of it.
-/
structure Shell where
  disk : Disk
  streams : List Stream
  descriptors : List (Nat × Nat)
  name : Chars
  number : Nat
  level : Nat
  arguments : List Chars
  parameters : List (Chars × Variable)
  kept : List (List (Chars × Option Variable))
  functions : List (Chars × Command)
  options : Chars
  traps : List (Nat × Chars)
  command : Chars
  pending : List (Nat × Nat)
  status : Nat
  outputStatus : Nat
  line : Nat
  lineAhead : Nat
  loops : Nat
  hasLost : Bool

/-- Why the work of a shell does not go on to the next command. -/
inductive Leap
  | exited (status : Option Nat)
  | failed
  | killed (signal : Nat)
  | broken (levels : Nat)
  | continued (levels : Nat)
  | returned
  | stalled
deriving DecidableEq, Repr

/-- A piece of work of a shell. -/
abbrev Act (α : Type) := ExceptT Leap (StateM Shell) α

/-- How a command is carried out, which may fail without an end if something asks how it went. -/
abbrev Carry := Bool → Command → Act Unit

/-- A program, which is given words and ends with a status. -/
abbrev Program := List Chars → Act Nat

/-- The number of a first shell. -/
def processNumber : Nat := 4242

/-- A number in decimal digits. -/
def decimal (n : Nat) : Chars := (toString n).toList

/-- A stream with some bytes written to it, and the disk after that. -/
def Stream.write (bytes : Bytes) (disk : Disk) : Stream → Stream × Disk
  | .text content place => (.text (content ++ bytes) place, disk)
  | .nowhere => (.nowhere, disk)
  | .file location place appends =>
    match disk.entry? location with
    | some (.file content executable) =>
      let place := if appends then content.length else place
      -- The file may have been cut since, and what is missing is filled up with zeros.
      let gap := List.replicate (place - content.length) 0
      let written := content.take place ++ gap ++ bytes ++ content.drop (place + bytes.length)
      (.file location (place + bytes.length) appends,
        disk.set location (.file written executable))
    | _ => (.file location (place + bytes.length) appends, disk)

/-- The bytes that are left to read in a stream. -/
def Stream.ahead (disk : Disk) : Stream → Bytes
  | .text content place => content.drop place
  | .nowhere => []
  | .file location place _ =>
    match disk.entry? location with
    | some (.file content _) => content.drop place
    | _ => []

/-- A stream after so many bytes of it were read. -/
def Stream.skip (count : Nat) : Stream → Stream
  | .text content place => .text content (place + count)
  | .nowhere => .nowhere
  | .file location place appends => .file location (place + count) appends

namespace Shell

/-- The number of the stream that a descriptor leads to, and the stream. -/
def stream? (shell : Shell) (descriptor : Nat) : Option (Nat × Stream) := do
  let number ← shell.descriptors.lookup descriptor
  return (number, ← shell.streams[number]?)

/-- The shell with a descriptor that leads to a stream. -/
def connect (shell : Shell) (descriptor number : Nat) : Shell :=
  { shell with
    descriptors := (descriptor, number) :: shell.descriptors.filter (·.1 != descriptor) }

/-- The shell without a descriptor. -/
def disconnect (shell : Shell) (descriptor : Nat) : Shell :=
  { shell with descriptors := shell.descriptors.filter (·.1 != descriptor) }

/-- The shell with a new stream that a descriptor leads to. -/
def openStream (shell : Shell) (descriptor : Nat) (stream : Stream) : Shell :=
  { shell with streams := shell.streams ++ [stream] }.connect descriptor shell.streams.length

/-- Where a name leads; an empty one leads nowhere. -/
def spot (shell : Shell) (name : Chars) : Except OsCause Spot :=
  -- An empty path would be the working directory.
  if name.isEmpty then .error .notFound else shell.disk.spot (pathOf name)

/-- What a name leads to, if it leads to something. -/
def at? (shell : Shell) (name : Chars) : Option Entry :=
  match shell.spot name with
  | .ok (.taken _ entry) => some entry
  | _ => none

/-- The content of the file that a name leads to. -/
def content (shell : Shell) (name : Chars) : Except OsCause Bytes :=
  match shell.spot name with
  | .ok (.taken _ (.file content _)) => .ok content
  -- It has nothing to give.
  | .ok (.taken _ .device) => .ok []
  | .ok (.taken _ .directory) => .error .isDirectory
  | .ok (.free _) => .error .notFound
  | .error cause => .error cause

/-- The value of a variable. -/
def value? (shell : Shell) (name : Chars) : Option Chars :=
  (shell.parameters.lookup name).bind (·.value)

/-- Whether an option is on. -/
def has (shell : Shell) (letter : Char) : Bool := shell.options.contains letter

/-- The shell with the entry of a variable put in place, or taken away. -/
def putVariable (shell : Shell) (name : Chars) (known? : Option Variable) : Shell :=
  let others := shell.parameters.filter (·.1 != name)
  { shell with parameters := others ++ (known?.map (name, ·)).toList }

/-- The variables that other programs are given. -/
def exported (shell : Shell) : List (Chars × Chars) :=
  shell.parameters.filterMap fun (name, var) =>
    if var.isExported then var.value.map (name, ·) else none

/-- The working directory as a text. -/
def directory (shell : Shell) : Chars :=
  charsOfString ("/" ++ "/".intercalate shell.disk.workDir)

end Shell

namespace Act

/-- Writes some characters to what a descriptor leads to. -/
def write (descriptor : Nat) (text : Chars) : Act Unit :=
  modify fun shell => match shell.stream? descriptor with
    | some (number, stream) =>
      let (stream, disk) := stream.write (bytesOf text) shell.disk
      { shell with disk, streams := shell.streams.set number stream }
    -- Writing nothing loses nothing.
    | none => { shell with hasLost := shell.hasLost || !text.isEmpty }

/-- Reads all that is left in what a descriptor leads to. -/
def readAll (descriptor : Nat) : Act Chars := do
  let shell ← get
  match shell.stream? descriptor with
  | some (number, stream) =>
    let bytes := stream.ahead shell.disk
    set { shell with streams := shell.streams.set number (stream.skip bytes.length) }
    return charsOf bytes
  | none => return []

/-- Reads the next line, and tells whether it is complete. -/
def readLine (descriptor : Nat) : Act (Chars × Bool) := do
  let shell ← get
  match shell.stream? descriptor with
  | some (number, stream) =>
    let bytes := stream.ahead shell.disk
    let line := bytes.takeWhile (· != 10)
    -- No more than the line is taken, so the next command reads on from here.
    set { shell with streams := shell.streams.set number (stream.skip (line.length + 1)) }
    return (charsOf line, line.length < bytes.length)
  | none => return ([], false)

/-- Sets the status. -/
def setStatus (status : Nat) : Act Unit := modify fun shell => { shell with status }

/-- Tells what is wrong, with the name of the script, the line, and the builtin at work. -/
def complain (text : Chars) : Act Unit := do
  let shell ← get
  let place := shell.name ++ ": ".toList ++ decimal shell.line ++ ": ".toList
  let command := if shell.command.isEmpty then [] else shell.command ++ ": ".toList
  write 2 (place ++ command ++ text ++ ['\n'])

/-- Tells what is wrong, and ends what depends on it with a status. -/
def failWith {α : Type} (status : Nat) (text : Chars) : Act α := do
  complain text
  setStatus status
  throw .failed

/-- Tells what is wrong, and ends what depends on it. -/
def fail {α : Type} (text : Chars) : Act α := failWith 2 text

/-- Sets a variable, which keeps all else that is known of it. -/
def setVariable (name value : Chars) : Act Unit := do
  let shell ← get
  let known := (shell.parameters.lookup name).getD ⟨none, shell.has 'a', false⟩
  if known.isReadOnly then fail (name ++ ": is read only".toList)
  set (shell.putVariable name (some { known with value := some value }))

/--
Does something as a child does: what changes but the disk and the streams is forgotten.

A child ends where it likes, and its last status stays.
The signals it sends to others are left for these.
-/
def apart (act : Act Unit) : Act (Option Leap) := do
  let before ← get
  -- A child heeds no trap, except that it goes on ignoring what is ignored.
  let traps := before.traps.filter (·.2.isEmpty)
  set { before with level := before.level + 1, loops := 0, traps }
  let leap ← try act; pure none catch leap => pure (some leap)
  let after ← get
  set { before with
    -- The disk is one for all, but each has a place of its own on it.
    disk := { after.disk with workDir := before.disk.workDir }
    streams := after.streams
    pending := after.pending
    status := after.status }
  return leap

/-- Does something with some redirections of its own, which are forgotten after it. -/
def connected {α : Type} (act : Act α) : Act α := do
  let descriptors := (← get).descriptors
  try
    let result ← act
    modify ({ · with descriptors })
    return result
  catch leap =>
    modify ({ · with descriptors })
    throw leap

end Act

/-- The signals by name. -/
def signalNames : List (String × Nat) :=
  [("HUP", 1), ("INT", 2), ("QUIT", 3), ("ILL", 4), ("TRAP", 5), ("ABRT", 6), ("BUS", 7),
    ("FPE", 8), ("KILL", 9), ("USR1", 10), ("SEGV", 11), ("USR2", 12), ("PIPE", 13),
    ("ALRM", 14), ("TERM", 15), ("STKFLT", 16), ("CHLD", 17), ("CONT", 18), ("STOP", 19),
    ("TSTP", 20), ("TTIN", 21), ("TTOU", 22), ("URG", 23), ("XCPU", 24), ("XFSZ", 25),
    ("VTALRM", 26), ("PROF", 27), ("WINCH", 28), ("IO", 29), ("PWR", 30), ("SYS", 31)]

/-- The signals that end nothing. -/
def harmlessSignals : List Nat := [0, 17, 18, 23, 28]

/-- What is told of a child that a signal has ended. -/
def signalText (signal : Nat) : String :=
  (List.lookup signal
    [(1, "Hangup"), (3, "Quit"), (4, "Illegal instruction"), (5, "Trace/breakpoint trap"),
      (6, "Aborted"), (7, "Bus error"), (8, "Floating point exception"), (9, "Killed"),
      (10, "User defined signal 1"), (11, "Segmentation fault"), (12, "User defined signal 2"),
      (14, "Alarm clock"), (15, "Terminated"), (16, "Stack fault"), (24, "CPU time limit exceeded"),
      (25, "File size limit exceeded"), (26, "Virtual timer expired"),
      (27, "Profiling timer expired"), (29, "I/O possible"), (30, "Power failure"),
      (31, "Bad system call")]).getD ""

end Themer.Script
