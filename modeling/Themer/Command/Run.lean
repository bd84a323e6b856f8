import Themer.Blueprint.Build
import Themer.Command.Arguments
import Themer.Script.Run
import Themer.Settings
import Themer.Setup

/-! The commands carried out, and what a whole run of the program leaves. -/

namespace Themer.Command

/-- What a batch of blueprints starts from, given settings that have been checked. -/
def defaultsOf (layout : Layout) (settings : Settings) : Defaults :=
  ⟨layout.home, settings.format.toOption.getD .hashed, layout.outDir⟩

/-- Takes a palette into use. -/
def adopt (palette : Palette) : Work Unit :=
  modify fun session => { session with palette }

/-- Saves the palette as the one loaded last; that this may fail is only worth a warning. -/
def remember (environment : Environment) (palette : Palette) (file : Path) : Work Unit :=
  tryCatch (do let _ ← Scheme.save environment.levels.make palette file) fun
    | .cutShort (.denied (.os e)) =>
      Work.tell .warning
        (s!"While storing a copy of the current colorscheme in `{file.text}`. " ++ e.message)
    -- Only a refusal of the system is worth no more than a warning.
    | other => throw other

/-- The script that the settings name. -/
def scriptOf (layout : Layout) (settings : Settings) : Work (Option Path) :=
  Work.ofExcept ((settings.script? layout).mapError fun e => .cutShort (.notMap e))

/-- Loads a colorscheme, builds all blueprints with it and runs the script. -/
def load (environment : Environment) (layout : Layout) (settings : Settings) (scheme : String) :
    Work Unit := do
  -- Nothing is remembered or built as long as the colorscheme cannot be loaded.
  let palette ← Scheme.load environment.levels.load (layout.schemeFile scheme)
  adopt palette
  Work.tell .info s!"Loaded colorscheme {scheme}"
  remember environment palette layout.currentScheme
  let sources ← Blueprint.discover layout.blueprintDirs
  -- Blueprints that fail do not keep the script from being run.
  let _ ← Blueprint.buildAll (defaultsOf layout settings) sources
  Script.runAfter environment (← scriptOf layout settings)

/-- The text of a value that is put to some use. -/
def Value.need (use : MissingValue) : Value → Except (Failure Problem) String
  | .given text => .ok text
  | .nothing => .error (.cutShort (.missingValue use))

/-- The blueprints of some names, in order. -/
def findEach (layout : Layout) : List Value → Work (List Path)
  | [] => pure []
  | name :: rest => do
    let path ← Blueprint.find layout (← Work.ofExcept (name.need .blueprintName))
    return path :: (← findEach layout rest)

/-- Builds the named blueprints, or all, with the colorscheme loaded last, and runs the script. -/
def reload (environment : Environment) (layout : Layout) (settings : Settings)
    (names : List Value) (withScript : Bool) : Work Unit := do
  -- It is the copy that is loaded, so a change of the original does not count here.
  let palette ← Scheme.load environment.levels.load layout.currentScheme
  adopt palette
  let sources ← if names.isEmpty then Blueprint.discover layout.blueprintDirs
    else findEach layout names
  let _ ← Blueprint.buildAll (defaultsOf layout settings) sources
  if withScript then Script.runAfter environment (← scriptOf layout settings)

/-- The table of the colorschemes there are. -/
def list (environment : Environment) (layout : Layout) (dark light : Bool) (order : Value) :
    Work (List String) := do
  let listings ← Listing.collect environment.levels.list layout.schemesDir
  -- The names of orders were checked with the command line.
  let order := (Order.ofName (← Work.ofExcept (order.need .order))).toOption.getD .name
  return Listing.table (Listing.sort order (Listing.filter dark light listings))

/-- Carries out an action, and gives the lines it prints. -/
def perform (environment : Environment) (layout : Layout) (settings : Settings) :
    Action → Work (List String)
  | .load scheme => do load environment layout settings scheme; return []
  | .reload names withScript => do
    reload environment layout settings names withScript
    return []
  | .list dark light order => list environment layout dark light order

/-- Carries out a request from the beginning: directories, settings and the action itself. -/
def Request.run (environment : Environment) (request : Request) : Work (List String) := do
  let layout ← Work.ofExcept
    ((Layout.ofEnvironment environment.bindings).mapError fun e => .reported (.setup e))
  -- Directories come first: they are there even where the settings turn out to be missing.
  layout.makeDirectories environment.levels.make
  let asked ← Work.ofExcept (request.config.mapM (Value.need .settingsPath))
  let asked := asked.map Path.ofString
  let settings ← Work.ofExcept
    (Settings.load environment.reader environment.levels.tell (← Work.disk) (some layout) asked)
  perform environment layout settings request.action

/-- Whether a notice is shown. -/
def Loudness.shows (loudness : Loudness) (notice : Notice) : Bool :=
  match loudness with
  | .quiet => false
  | .usual => Severity.info.rank ≤ notice.severity.rank
  | .verbose => true

/-- The line for a notice. -/
def noticeLine (notice : Notice) : String :=
  s!"{notice.severity.name}: {notice.text}"

/-- How a run ends: with a status, or by an interruption. -/
inductive Ending
  | status (code : Nat)
  | cutShort (cause : Interruption)
deriving DecidableEq, Repr

/-- What a run leaves: how it ended, what it printed on both streams, and the disk. -/
structure Outcome where
  ending : Ending
  output : String
  errors : String
  disk : Disk

/-- What a request leaves; a problem is told last of all. -/
def Request.outcome (environment : Environment) (disk : Disk) (request : Request) : Outcome :=
  let (result, session) := (request.run environment).run.run ⟨disk, ⟨[]⟩, []⟩
  let shown (last : List Notice) : String :=
    Usage.lines (((session.notices ++ last).filter request.loudness.shows).map noticeLine)
  match result with
  | .ok lines => ⟨.status 0, Usage.lines lines, shown [], session.disk⟩
  | .error (.reported problem) =>
    ⟨.status 1, "", shown [⟨.error, problem.message⟩], session.disk⟩
  -- An interruption has no notice, and what was done before it stays done.
  | .error (.cutShort cause) => ⟨.cutShort cause, "", shown [], session.disk⟩

/-- What a run of the program with some arguments leaves. -/
def run (environment : Environment) (arguments : List String) (disk : Disk) : Outcome :=
  match Request.read arguments with
  | .ok request => request.outcome environment disk
  -- Without a request nothing is looked at on the disk, and nothing is changed.
  | .error (.help grammar) => ⟨.status 0, grammar.helpText, "", disk⟩
  | .error (.mistaken grammar mistake) => ⟨.status 2, "", grammar.mistakeText mistake, disk⟩

end Themer.Command
