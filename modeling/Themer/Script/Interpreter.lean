import Themer.Script.Shell

/-! What runs a file: the interpreter that its first line names, and the programs by their paths. -/

namespace Themer.Script

open Themer.Text (Bytes)

/-- The first line of a script names its interpreter, and may have one argument for it. -/
structure Interpreter where
  path : String
  argument : String
deriving DecidableEq, Repr

/-- Whether a byte is a space or a tab. -/
def isSpace (byte : UInt8) : Bool := byte == 32 || byte == 9

/-- Some bytes as a text, or an empty one if they are none. -/
def readableText (bytes : Bytes) : String :=
  match Text.Utf8.decode bytes with
  | .ok text => String.ofList text
  | .error _ => ""

/-- The interpreter that a file names, after a hash and an exclamation mark. -/
def interpreter? (content : Bytes) : Option Interpreter :=
  match content with
  | 35 :: 33 :: rest =>
    let line := (rest.takeWhile (· != 10)).dropWhile isSpace
    let name := line.takeWhile fun byte => !isSpace byte
    let argument := (line.dropWhile fun byte => !isSpace byte).dropWhile isSpace
    -- Two signs and a name have to be there, or the file names nobody.
    if name.isEmpty then none
    else some ⟨readableText name, readableText ((argument.reverse.dropWhile isSpace).reverse)⟩
  | _ => none

/-- The directories that programs are in. -/
def programDirs : List String := ["/bin", "/usr/bin"]

/-- The shells by name. -/
def shellNames : List String := ["sh", "dash", "bash"]

/-- The name of the program that a text is the path of. -/
def programName? (path : String) : Option String :=
  programDirs.findSome? fun dir =>
    let start := (dir ++ "/").toList
    let name := path.toList.drop start.length
    -- Only what lies in the directory itself, and not further below.
    if start.isPrefixOf path.toList && !name.contains '/' then some (String.ofList name) else none

/-- What runs a file: a shell with an option, or another program with some words. -/
inductive Runner
  | shell (option : String)
  | program (name : String) (words : List String)
deriving DecidableEq, Repr

/-- What an interpreter is, if it is known. -/
def Interpreter.runner? (interpreter : Interpreter) : Option Runner := do
  let name ← programName? interpreter.path
  if shellNames.contains name then return .shell interpreter.argument
  -- It finds the shell that is meant, and adds nothing to it.
  else if name = "env" && shellNames.contains interpreter.argument then return .shell ""
  else return .program name ([interpreter.argument].filter (!·.isEmpty))

end Themer.Script
