import Themer.Blueprint.Render
import Themer.DocumentReader
import Themer.Scheme.Reader
import Themer.Script.System

/-! Every problem that the program reports. -/

namespace Themer

/-- What is wrong with the file of a colorscheme. -/
inductive SchemeFault
  | unreadable (e : OsError)
  | notUtf8 (e : Text.Utf8.Failure)
  | content (fault : Scheme.Fault)
deriving Repr

/-- A colorscheme that cannot be loaded, and what is wrong with its file. -/
structure SchemeError where
  source : Path
  fault : SchemeFault
deriving Repr

/-- The message names the file. -/
def SchemeError.message (e : SchemeError) : String :=
  s!"Colorscheme `{e.source.text}`. " ++ match e.fault with
    | .unreadable e => s!"Can't read file: {e.message}"
    | .notUtf8 e => s!"Can't read file: {e.message}"
    | .content fault => fault.message

/-- What is wrong with the values of the settings. -/
inductive SettingsFault
  | badFormat (value : Datum)
  | scriptNotMapping (value : Datum)
  | enabledNotFlag
  | pathNotText
deriving Repr

/-- What keeps the value that a fault shows from being told, where so many levels are left. -/
def SettingsFault.unshown? (levels : Nat) : SettingsFault → Option Unshown
  | .badFormat value => value.unplain? levels
  | .scriptNotMapping value => value.unshown? levels
  | .enabledNotFlag | .pathNotText => none

/-- The words for a fault of the settings. -/
def SettingsFault.message : SettingsFault → String
  | .badFormat value =>
    s!"invalid color_format `{value.plain}`. Valid color formats are {Format.listed}"
  | .scriptNotMapping value =>
    s!"post_script must be a mapping with `enabled` and `path`, got {value.shown}"
  | .enabledNotFlag => "post_script.enabled must be true or false"
  | .pathNotText => "post_script.path must be a string"

/-- What is wrong with the surroundings of the program, outside of a single blueprint. -/
inductive SetupError
  | noHome
  | directoryNotMade (directory : Path) (e : OsError)
  | noBlueprint (name : String) (candidates : List Path)
  | noSettings (file : Path)
  | settingsUnreadable (file : Path) (e : OsError)
  | settingsMalformed (file : Path) (complaint : Complaint)
  | settingsNotMapping (file : Path)
  | settings (file : Path) (fault : SettingsFault)
  | schemesUnreadable (directory : Path) (e : OsError)
deriving Repr

/-- The message for each thing wrong with the surroundings. -/
def SetupError.message : SetupError → String
  | .noHome => "Can't find the $HOME directory"
  | .directoryNotMade directory e => s!"Can't create the `{directory.text}` directory: {e.message}"
  | .noBlueprint name candidates =>
    s!"Can't find blueprint `{name}`. Neither of the following files exists `" ++
      "`, `".intercalate (candidates.map Path.text) ++ "`"
  | .noSettings file => s!"Config file `{file.text}` doesn't exist"
  | .settingsUnreadable file e => s!"Can't load config `{file.text}`: {e.message}"
  | .settingsMalformed file complaint => s!"Can't load config `{file.text}`: {complaint.words}"
  | .settingsNotMapping file => s!"Config `{file.text}` must be a mapping"
  | .settings file fault => s!"Config `{file.text}`: {fault.message}"
  | .schemesUnreadable directory e => s!"Can't read `{directory.text}`: {e.message}"

/-- A problem that the program reports in a line of its own. -/
inductive Problem
  | blueprint (e : BlueprintError)
  | scheme (e : SchemeError)
  | script (e : ScriptError)
  | setup (e : SetupError)
deriving Repr

/-- The message of a problem. -/
def Problem.message : Problem → String
  | .blueprint e => e.message
  | .scheme e => e.message
  | .script e => e.message
  | .setup e => e.message

end Themer
