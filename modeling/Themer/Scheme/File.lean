import Themer.Json.Writer
import Themer.Session

/-! Colorschemes kept in files: loading one, and saving the one in use. -/

namespace Themer

namespace Scheme

/-- The palette that the bytes of a file hold, where so many levels are left. -/
def ofBytes (levels : Nat) (bytes : Text.Bytes) : Except (Failure SchemeFault) Palette :=
  match Text.Utf8.decode bytes with
  | .error e => .error (.reported (.notUtf8 e))
  | .ok text =>
    -- Breaks are unified before the text is read, as in every file that is opened as text.
    (read levels (String.ofList (Text.unifyBreaks text))).mapError (·.map .content)

/-- The palette in the file at a path. -/
def ofFile (levels : Nat) (disk : Disk) (path : Path) : Except (Failure SchemeError) Palette :=
  match disk.readFile path with
  | .ok bytes => (ofBytes levels bytes).mapError (·.map (⟨path, ·⟩))
  | .error (.os e) => .error (.reported ⟨path, .unreadable e⟩)
  | .error other => .error (.cutShort (.denied other))

/-- Loads the palette in the file at a path. -/
def load (levels : Nat) (path : Path) : Work Palette := do
  Work.ofExcept ((ofFile levels (← Work.disk) path).mapError (·.map .scheme))

/-- The text that a palette is saved as: its own colors, without the mixes. -/
def fileText (palette : Palette) : List Char :=
  Json.writeObject (palette.base.map fun (name, color) => (name, color.write .hashed))

/-- Saves the colors of a palette in the file at a path, and makes the directories for it. -/
def save (levels : Nat) (palette : Palette) (path : Path) : Work Path := do
  -- The directories that could be made stay, whether the file can be written or not.
  let (made, disk) := (← Work.disk).ensurePath levels path.parent
  Work.setDisk disk
  Work.granted made
  let disk ← Work.granted (disk.writeFile path (Text.Utf8.encode (fileText palette)))
  Work.setDisk disk
  return path

end Scheme

end Themer
