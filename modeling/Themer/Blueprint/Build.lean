import Themer.Layout
import Themer.Session

/-! Blueprints found, rendered and written, many of them in one batch. -/

namespace Themer

namespace Blueprint

/-- Those of some paths that files are at. -/
def filesAmong : List Path → Work (List Path)
  | [] => pure []
  | path :: rest => do
    let isFile ← Work.seen ((← Work.disk).isFile path)
    let more ← filesAmong rest
    return if isFile then path :: more else more

/--
The files of some directories, in the order of these and then by name.

A directory that cannot be read is told of and left out.
-/
def discover : List Path → Work (List Path)
  | [] => pure []
  | dir :: rest => do
    match (← Work.disk).list dir with
    | .ok names =>
      let found ← filesAmong (names.map dir.entry)
      return found ++ (← discover rest)
    | .error (.os e) =>
      Work.tell .error s!"Can't read blueprint directory `{dir.text}`: {e.message}"
      discover rest
    -- A path that no system can be asked for ends the search, and not only this directory's part.
    | .error other => Work.cutShort (.denied other)

/-- Where a blueprint of a given name may be, in the order of the search. -/
def candidates (layout : Layout) (name : String) : List Path :=
  -- The name by itself comes last: a directory of blueprints goes before the working directory.
  layout.blueprintDirs.map (·.child name) ++ [Path.ofString name]

/-- The first of some paths that something is at. -/
def firstThere : List Path → Work (Option Path)
  | [] => pure none
  | path :: rest => do
    if ← Work.seen ((← Work.disk).isThere path) then return some path else firstThere rest

/-- The blueprint of a given name, or at a given path. -/
def find (layout : Layout) (name : String) : Work Path := do
  match ← firstThere (candidates layout name) with
  | some path => return path
  | none => Work.report (.setup (.noBlueprint name (candidates layout name)))

/-- Renders the blueprint in a file. -/
def render (defaults : Defaults) (source : Path) : Work Rendered := do
  let session ← get
  let rendering := defaults.renderFile session.disk session.palette source
  -- The colors asked for so far stay known, and what was warned of stays, if it fails as well.
  set { session with
    palette := rendering.palette
    notices := session.notices ++ rendering.notices }
  Work.ofExcept (rendering.outcome.mapError (·.map .blueprint))

/-- Writes a rendered blueprint to where it goes, in the place of what was there. -/
def write (rendered : Rendered) : Work Path := do
  let output := rendered.output
  -- A file is written only when all of its text is there.
  let written := (← Work.disk).writeFile output (Text.Utf8.encode rendered.text)
  let disk ← Work.grantedOr
    (fun e => .blueprint ⟨rendered.source, .unwritable output e⟩) written
  Work.setDisk disk
  return output

/-- Renders and writes one blueprint. -/
def build (defaults : Defaults) (source : Path) : Work Path := do
  let rendered ← render defaults source
  let output ← write rendered
  Work.tell .debug s!"Blueprint {source.text} -> {output.text}"
  return output

/--
Builds some blueprints one after the other, and counts those that failed.

What is wrong with one blueprint is told and does not stop the others.
-/
def buildEach (defaults : Defaults) : List Path → Work (List Path × Nat)
  | [] => pure ([], 0)
  | source :: rest => do
    -- Whatever is no blueprint's own failure goes on to whoever called for the batch.
    let built ← tryCatch (some <$> build defaults source) fun
      | .reported (.blueprint e) => do
        Work.tell .error e.message
        return none
      | other => throw other
    let (written, failed) ← buildEach defaults rest
    return match built with
      | some output => (output :: written, failed)
      -- A failure leaves no path behind, only a count.
      | none => (written, failed + 1)

/-- Builds some blueprints as one batch, and gives the paths that were written. -/
def buildAll (defaults : Defaults) (sources : List Path) : Work (List Path) := do
  let (written, failed) ← buildEach defaults sources
  Work.tell .info s!"Built {written.length} blueprint(s), {failed} failed"
  return written

end Blueprint

end Themer
