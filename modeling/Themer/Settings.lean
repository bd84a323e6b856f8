import Themer.Layout
import Themer.Problem

/-! The user's settings: read from a file, completed by the usual ones, and looked up. -/

namespace Themer

/-- Settings by name, in the order they came. -/
structure Settings where
  entries : List (Datum × Datum)
deriving Repr

/-- A value that names no format. -/
structure NotFormat where
  value : Datum
deriving Repr

/-- The message shows the value. -/
def NotFormat.message (e : NotFormat) : String :=
  s!"{e.value.shown} is not a valid ColorFormat"

namespace Settings

/-- The setting of the usual format. -/
def formatKey : Datum := .text "color_format"

/-- The setting of the script that runs after a build. -/
def scriptKey : Datum := .text "post_script"

/-- Whether that script runs at all. -/
def enabledKey : Datum := .text "enabled"

/-- Where that script is. -/
def pathKey : Datum := .text "path"

/-- The settings of somebody who has set nothing. -/
def usual : Settings :=
  ⟨[(formatKey, .text Format.hashed.name),
    (scriptKey, .map [(enabledKey, .flag true), (pathKey, .null)])]⟩

/-- Some entries with others set in them, one after the other. -/
def putAll (entries others : List (Datum × Datum)) : List (Datum × Datum) :=
  others.foldl (fun entries (key, value) => Datum.put entries key value) entries

/-- The settings with one of them set; a map set over a map keeps what it does not set itself. -/
def set (settings : Settings) (key value : Datum) : Settings :=
  match value, Datum.find? settings.entries key with
  -- Only one level is merged: a map within these maps replaces the one that was there.
  | .map others, some (.map entries) =>
    ⟨Datum.put settings.entries key (.map (putAll entries others))⟩
  | _, _ => ⟨Datum.put settings.entries key value⟩

/-- The usual settings with those of a document set in them. -/
def ofDocument (entries : List (Datum × Datum)) : Settings :=
  entries.foldl (fun settings (key, value) => settings.set key value) usual

/-- The value of a setting. -/
def find? (settings : Settings) (key : Datum) : Option Datum :=
  Datum.find? settings.entries key

/-- Whether a value is the name of a format. -/
def isFormat : Datum → Bool
  | .text name => (Format.ofName? name).isSome
  | _ => false

/-- Whether a value is true or false. -/
def isFlag : Datum → Bool
  | .flag _ => true
  | _ => false

/-- Whether a value is a text or null. -/
def isTextOrNull : Datum → Bool
  | .text _ | .null => true
  | _ => false

/-- The first thing wrong with the settings, the format coming first. -/
def fault? (settings : Settings) : Option SettingsFault :=
  -- A setting that is not there is judged as null, which is no format.
  let format := (settings.find? formatKey).getD .null
  if !isFormat format then some (.badFormat format)
  else match (settings.find? scriptKey).getD .null with
    | .map entries =>
      if !isFlag ((Datum.find? entries enabledKey).getD .null) then some .enabledNotFlag
      else if !isTextOrNull ((Datum.find? entries pathKey).getD .null) then some .pathNotText
      else none
    | other => some (.scriptNotMapping other)

/-- The settings of a file if nothing is wrong with them, with levels left to tell what is wrong. -/
def checked (levels : Nat) (file : Path) (settings : Settings) :
    Except (Failure Problem) Settings :=
  match settings.fault? with
  | some fault => match fault.unshown? levels with
    -- The message would show the value, which may be too long or too deep for that.
    | some reason => .error (.cutShort reason.interruption)
    | none => .error (.reported (.setup (.settings file fault)))
  | none => .ok settings

/-- The settings of a file's document; one that counts as nothing sets nothing. -/
def ofValue (levels : Nat) (file : Path) (document : Datum) :
    Except (Failure Problem) Settings :=
  -- An empty list counts as nothing too, so it is not told to be no mapping.
  if !document.isTruthy then checked levels file usual
  else match document with
    | .map entries => checked levels file (ofDocument entries)
    | _ => .error (.reported (.setup (.settingsNotMapping file)))

/-- The settings in a file, whose document somebody else reads. -/
def ofFile (reader : DocumentReader) (levels : Nat) (disk : Disk) (file : Path) :
    Except (Failure Problem) Settings :=
  match disk.readFile file with
  | .error (.os e) => .error (.reported (.setup (.settingsUnreadable file e)))
  | .error other => .error (.cutShort (.denied other))
  | .ok bytes => match reader.read bytes with
    | .error (.reported complaint) =>
      .error (.reported (.setup (.settingsMalformed file complaint)))
    -- What the reader does not call a fault of the document goes through as it is.
    | .error (.cutShort cause) => .error (.cutShort cause)
    | .ok document => ofValue levels file document

/--
The settings of a session.

A file that is asked for has to be there; without the usual one all settings are the usual ones.
-/
def load (reader : DocumentReader) (levels : Nat) (disk : Disk) (layout : Option Layout)
    (asked : Option Path) : Except (Failure Problem) Settings :=
  match asked, layout with
  -- A file that is asked for must be one; of the usual path it is enough that something is there.
  | some file, _ => match disk.isFile file with
    | .ok true => ofFile reader levels disk file
    | .ok false => .error (.reported (.setup (.noSettings file)))
    | .error e => .error (.cutShort (.denied (.os e)))
  | none, some layout => match disk.isThere layout.configFile with
    | .ok true => ofFile reader levels disk layout.configFile
    | .ok false => .ok usual
    | .error e => .error (.cutShort (.denied (.os e)))
  | none, none => .ok usual

/-- The format that blueprints start from. -/
def format (settings : Settings) : Except NotFormat Format :=
  let value := (settings.find? formatKey).getD (.text Format.hashed.name)
  match value with
  | .text name => match Format.ofName? name with
    | some format => .ok format
    | none => .error ⟨value⟩
  | _ => .error ⟨value⟩

/-- What is set for the script; a value that counts as nothing sets nothing. -/
def scriptEntries (settings : Settings) : Except NotMap (List (Datum × Datum)) :=
  match settings.find? scriptKey with
  | some (.map entries) => .ok entries
  -- Settings that were checked have a map here; what is not one is met only without the check.
  | some other => if other.isTruthy then .error ⟨other.kind⟩ else .ok []
  | none => .ok []

/-- The script to run after a build, unless there is to be none. -/
def script? (settings : Settings) (layout : Layout) : Except NotMap (Option Path) := do
  let entries ← settings.scriptEntries
  -- Without a word on it the script runs, from its usual place.
  if !((Datum.find? entries enabledKey).getD (.flag true)).isTruthy then return none
  let path := (Datum.find? entries pathKey).getD .null
  return some (if path.isTruthy then Path.expandHome layout.home path.plain else layout.postScript)

end Settings

end Themer
