import Themer.AtHand
import Themer.Command.Run

/-!
The program at work: it reads what a run may look at, and writes what the run has changed.

A file that names its interpreter counts as one that may be run.
-/

namespace Themer

/-- The variables of the environment that matter. -/
def variableNames : List String := ["HOME", "XDG_CONFIG_HOME", "XDG_CACHE_HOME", "PATH"]

/-- The place that a path names; two dots lead to the directory above. -/
def Path.place (workDir : Location) (path : Path) : Location :=
  path.parts.foldl (fun here name => if name = ".." then here.dropLast else here ++ [name])
    (if path.anchor = .here then workDir else [])

/-- A place as the system has it, seen from the root. -/
def realPath (location : Location) :=
  (IO.FS.DirEntry.mk ⟨""⟩ ("/".intercalate location)).path

/-- The files that a request names. -/
def Command.Request.files (request : Command.Request) : List Path :=
  let names := match request.action with
    | .reload names _ => names
    | _ => []
  (request.config.toList ++ names).filterMap fun
    | .given path => some (Path.ofString path)
    | .nothing => none

/-- The directories that the lines of a text ask for as those of their output. -/
def outputDirectories (home : Path) (content : Text.Bytes) : List Path :=
  let text := (Text.Utf8.decode content).toOption.getD []
  (Text.splitLines (Text.unifyBreaks text)).filterMap fun line =>
    match Directive.read? line with
    | some directive =>
      if directive.name = Directive.directoryName then
        some (Path.expandHome home directive.value)
      else none
    | none => none

/-- The directories that the files on a disk ask for, and in each the file it may receive. -/
def outputPlaces (disk : Disk) (home : Path) : List Path :=
  disk.entries.flatMap fun (location, entry) => match entry with
    | .file content _ => (outputDirectories home content).flatMap fun directory =>
        [directory, directory.entry (location.getLast?.getD "")]
    | _ => []

/-- What is really at a place. -/
def readEntry? (location : Location) : IO (Option Entry) := do
  -- Whatever can be listed is a directory, and of the rest what can be read is a file.
  match ← (realPath location).readDir.toBaseIO with
  | .ok _ => return some .directory
  | .error _ => match ← (IO.FS.readBinFile (realPath location)).toBaseIO with
    | .ok content =>
      return some (.file content.toList (Script.interpreter? content.toList).isSome)
    | .error _ => return none

/-- The disk with what is really at a place, and at those it lies in. -/
def readPlace (disk : Disk) (location : Location) : IO Disk := do
  let mut disk := disk
  for length in List.range (location.length + 1) do
    let here := location.take length
    -- What is known already is not read a second time.
    if (disk.entry? here).isNone then
      if let some entry ← readEntry? here then disk := disk.set here entry
  return disk

/-- The disk with the tree that is really at a place, down to a number of levels. -/
def readTree (disk : Disk) (location : Location) : Nat → IO Disk
  | 0 => readPlace disk location
  | levels + 1 => do
    let mut disk ← readPlace disk location
    if let .ok children ← (realPath location).readDir.toBaseIO then
      for child in children do
        disk ← readTree disk (location ++ [child.fileName]) levels
    return disk

/-- The disk as far as a run for a request may look at it. -/
def readDisk (environment : Environment) (request : Command.Request) : IO Disk := do
  let workDir := (Path.ofString (← IO.currentDir).toString).parts
  let mut disk ← readPlace ⟨workDir, []⟩ workDir
  if let some layout := Layout.ofEnvironment? environment.bindings then
    for directory in [layout.configDir, layout.cacheDir] do
      disk ← readTree disk (directory.place workDir) 2
    for path in request.files do
      disk ← readPlace disk (path.place workDir)
    -- Only now is known which blueprints there are, and where they are to be written.
    for path in outputPlaces disk layout.home do
      disk ← readPlace disk (path.place workDir)
    let asked := request.files.head?.filter fun _ => request.config.isSome
    if let .ok settings := Settings.load environment.reader environment.levels.tell disk
        (some layout) asked then
      if let .ok (some script) := settings.script? layout then
        disk ← readPlace disk (script.place workDir)
  return disk

/-- Makes the real disk hold what a later disk holds and an earlier one does not. -/
def writeDisk (before after : Disk) : IO Unit := do
  -- What is gone has to go before something else can take its place.
  for (location, entry) in before.entries do
    if (after.entry? location).isNone then
      if let .file _ _ := entry then IO.FS.removeFile (realPath location)
  for (location, entry) in after.entries do
    if before.entry? location ≠ some entry then
      match entry with
      | .directory => IO.FS.createDirAll (realPath location)
      | .file content _ => IO.FS.writeBinFile (realPath location) ⟨content.toArray⟩
      | .device => pure ()

end Themer

/-- Runs the program with the arguments of a command line. -/
def main (arguments : List String) : IO UInt32 := do
  let bindings ← Themer.variableNames.filterMapM fun name =>
    return (← IO.getEnv name).map (name, ·)
  let environment := Themer.Environment.atHand bindings
  let disk ← match Themer.Command.Request.read arguments with
    | .ok request => Themer.readDisk environment request
    -- A run without a request looks at nothing.
    | .error _ => pure ⟨[], []⟩
  let outcome := Themer.Command.run environment arguments disk
  Themer.writeDisk disk outcome.disk
  IO.print outcome.output
  IO.eprint outcome.errors
  match outcome.ending with
  | .status code => return code.toUInt32
  | .cutShort cause =>
    IO.eprintln cause.message
    return 1
