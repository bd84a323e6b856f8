import Themer.Script.Evaluate
import Themer.Script.System

/-! A system of a shell with some programs, which runs what it knows an interpreter for. -/

namespace Themer.Script

open Themer.Text (Bytes)

/-- How many scripts may run one another as their interpreters. -/
def interpreterLevels : Nat := 5

/--
The run of a file by the interpreter that it names, for at most so many files.

An interpreter that is a file itself is given what it was named with, and then the file.
-/
def interpret (disk : Disk) (bindings : Variables) :
    Nat → String → List String → Bytes → Except OsCause Ran
  | 0, _, _, _ => .error .tooManyLinks
  | levels + 1, name, arguments, content =>
    match interpreter? content with
    -- Nobody guesses at a shell here, as a shell itself would do.
    | none => .error .badFormat
    | some interpreter => match interpreter.runner? with
      | some (.shell options) => .ok (run disk bindings options name arguments content)
      | some (.program program words) =>
        -- An interpreter among the known programs is run as such and not looked for as a file.
        if isProgram program then
          .ok (runByName disk bindings program (words ++ name :: arguments))
        else .error .notFound
      | none => match executable disk (Path.ofString interpreter.path) with
        | .ok inner =>
          -- All that stands behind the name of an interpreter is one argument, if it is anything.
          let words := [interpreter.argument].filter (!·.isEmpty)
          interpret disk bindings levels interpreter.path (words ++ name :: arguments) inner
        | .error cause => .error cause

/--
A file names something that can run it, through at most so many files.

This is a shell or another program that is there, or a file that may be run and has this again.
-/
inductive NamesInterpreter (disk : Disk) : Nat → Bytes → Prop
  | shell {levels : Nat} {content : Bytes} {interpreter : Interpreter} {option : String}
      (named : interpreter? content = some interpreter)
      (runs : interpreter.runner? = some (.shell option)) :
      NamesInterpreter disk (levels + 1) content
  | program {levels : Nat} {content : Bytes} {interpreter : Interpreter} {name : String}
      {words : List String} (named : interpreter? content = some interpreter)
      (runs : interpreter.runner? = some (.program name words)) (known : isProgram name = true) :
      NamesInterpreter disk (levels + 1) content
  | file {levels : Nat} {content inner : Bytes} {interpreter : Interpreter}
      (named : interpreter? content = some interpreter) (other : interpreter.runner? = none)
      (held : executable disk (Path.ofString interpreter.path) = .ok inner)
      (deeper : NamesInterpreter disk levels inner) : NamesInterpreter disk (levels + 1) content

/-- A file is run, whatever it is called and given, if it names something that can run it. -/
theorem exists_interpret {disk : Disk} {levels : Nat} {content : Bytes}
    (names : NamesInterpreter disk levels content) (bindings : Variables) (name : String)
    (arguments : List String) :
    ∃ ran, interpret disk bindings levels name arguments content = .ok ran := by
  -- Each way of naming one is a branch of the run, whose name and arguments do not matter.
  induction names generalizing name arguments with
  | shell named runs => simp [interpret, named, runs]
  | program named runs known => simp [interpret, named, runs, known]
  | file named other held _ ih => simpa [interpret, named, other, held] using ih _ _

/-- What is run by a name that the tree has no file for: a known program, if it is one of these. -/
def runKnown (disk : Disk) (bindings : Variables) (name : String) (cause : OsCause) :
    Except OsCause Ran :=
  match (programName? name).filter isProgram with
  | some program => .ok (runByName disk bindings program [])
  | none => .error cause

/-- The system at hand: files name their interpreters, and a file that names none is not run. -/
def System.atHand : System where
  runFile disk bindings name content :=
    interpret disk bindings interpreterLevels name [] content
  runOther := runKnown
  HasInterpreter disk content := NamesInterpreter disk interpreterLevels content
  exists_runFile names bindings name := exists_interpret names bindings name []

end Themer.Script
