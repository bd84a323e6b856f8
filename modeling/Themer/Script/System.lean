import Themer.Failure
import Themer.Script.Pieces
import Themer.Text.CharClass
import Themer.Text.Lines

/-! How a script is launched by its path on any system, and what its end means. -/

namespace Themer

/-- What is wrong with a script: it is not launched, or it ended with a status that is not zero. -/
inductive ScriptError
  | notLaunched (script : Path) (e : OsError)
  | exited (script : Path) (status : Int) (complaint : List Char)
deriving DecidableEq, Repr

/-- The message shows what the script complained of, if it did. -/
def ScriptError.message : ScriptError → String
  | .notLaunched script e => s!"Can't run `{script.text}`: {e.message}"
  | .exited script status complaint =>
    s!"`{script.text}` exited with status {status}" ++
      if complaint.isEmpty then "" else ": " ++ String.ofList complaint

/-- The status that a script ended with, if it was launched. -/
def ScriptError.status? : ScriptError → Option Int
  | .notLaunched _ _ => none
  | .exited _ status _ => some status

namespace Script

open Themer.Text (Bytes)

/-- What a script that has ended leaves behind; a signal that ended it is a status below zero. -/
structure Finished where
  status : Int
  output : Bytes
  errors : Bytes
deriving DecidableEq, Repr

/-- How a run goes: it ends, and leaves a disk, or no end of it is seen. -/
inductive Ran
  | ended (finished : Finished) (disk : Disk)
  | endless

/-- What a run that has ended leaves behind. -/
def Ran.finished? : Ran → Option Finished
  | .ended finished _ => some finished
  | .endless => none

/-- Variables by name, as a program is given them. -/
abbrev Variables := List (String × String)

/--
A system, which runs files.

What becomes of a file that it runs is not known here, and all that is relied on is its law: a file
that may be run is run if it has a valid interpreter.
-/
structure System where
  /-- The run of a file that may be run, by the name it is called by and by what it holds. -/
  runFile (disk : Disk) (bindings : Variables) (name : String) (content : Bytes) :
    Except OsCause Ran
  /-- What is run by a name where the tree has no file for it, and the cause why it has none. -/
  runOther (disk : Disk) (bindings : Variables) (name : String) (cause : OsCause) :
    Except OsCause Ran
  /-- Whether a file that holds some bytes has a valid interpreter. -/
  HasInterpreter (disk : Disk) (content : Bytes) : Prop
  /-- The law of the system. -/
  exists_runFile {disk : Disk} {content : Bytes} (has : HasInterpreter disk content)
    (bindings : Variables) (name : String) :
    ∃ ran, runFile disk bindings name content = .ok ran

/-- The content of the file at a path, if it may be run. -/
def executable (disk : Disk) (path : Path) : Except OsCause Bytes :=
  match disk.spot path with
  | .ok (.taken _ (.file content true)) => .ok content
  -- A directory or a device is refused like a file that may not be run.
  | .ok (.taken _ _) => .error .notPermitted
  | .ok (.free _) => .error .notFound
  | .error cause => .error cause

/-- The run of what is at a path, which is called by a name. -/
def System.runAt (system : System) (disk : Disk) (bindings : Variables) (path : Path)
    (name : String) : Except OsCause Ran :=
  match executable disk path with
  | .ok content => system.runFile disk bindings name content
  | .error cause => system.runOther disk bindings name cause

/-- The directories that a program is searched in: those of the variable, or the usual ones. -/
def searchPath (bindings : Variables) : List String :=
  match bindings.lookup "PATH" with
  | some text => (splitAt ':' text.toList).map String.ofList
  -- Without the variable there still are the places where programs usually are.
  | none => ["/bin", "/usr/bin"]

/-- The text of a name in a directory that is searched; an empty one stands for the place itself. -/
def nameIn (directory name : String) : String :=
  match directory.toList.getLast? with
  | none => name
  | some '/' => directory ++ name
  | some _ => directory ++ "/" ++ name

/-- The run of what a directory has under a name. -/
def System.runIn (system : System) (disk : Disk) (bindings : Variables)
    (name directory : String) : Except OsCause Ran :=
  system.runAt disk bindings (Path.ofString (nameIn directory name)) (nameIn directory name)

/--
The run of what the first of some directories has, which is run in each of them if it can be.

What else than its absence kept one of them from being it is told, and comes before the others.
-/
def runFirst (runIn : String → Except OsCause Ran) : List String → Except OsCause Ran
  | [] => .error .notFound
  | directory :: rest => match runIn directory with
    | .ok ran => .ok ran
    | .error cause => match runFirst runIn rest with
      | .ok ran => .ok ran
      | .error later =>
        -- The last directory has nobody behind it to ask.
        .error (if Disk.isAbsence cause && !rest.isEmpty then later else cause)

/--
The run of the script at a path.

A path without a slash is the name of a program, which is searched for and not looked for here.
-/
def System.launch (system : System) (disk : Disk) (bindings : Variables) (path : Path) :
    Except OsCause Ran :=
  if path.text.toList.contains '/' then system.runAt disk bindings path path.text
  else runFirst (system.runIn disk bindings path.text) (searchPath bindings)

/--
What the end of a script means.

Both of its streams have to be text, even if nobody looks at them.
-/
def judge (path : Path) (finished : Finished) : Except (Failure ScriptError) Unit :=
  -- The output is looked at first, whatever the status says.
  match Text.Utf8.decode finished.output with
  | .error e => .error (.cutShort (.notUtf8 e))
  | .ok _ => match Text.Utf8.decode finished.errors with
    | .error e => .error (.cutShort (.notUtf8 e))
    | .ok complaint =>
      if finished.status = 0 then .ok ()
      else .error (.reported
        (.exited path finished.status (Text.trim (Text.unifyBreaks complaint))))

end Script

end Themer
