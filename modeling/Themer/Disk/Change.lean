import Themer.Disk.Basic

/-! What differs between two trees of files, seen from the working directory. -/

namespace Themer

/-- The differences of a later tree: new directories, files new or altered, and files gone. -/
structure Change where
  newDirectories : List String
  files : List (String × Text.Bytes)
  gone : List String
deriving DecidableEq, Repr

namespace Disk

/-- The names from the working directory down to a place in it. -/
def below? (disk : Disk) (location : Location) : Option (List String) :=
  -- The working directory itself has no name below itself.
  if disk.workDir.isPrefixOf location && location.length != disk.workDir.length then
    some (location.drop disk.workDir.length)
  else none

/-- The places below the working directory, spelled as paths, with what is there. -/
def visible (disk : Disk) : List (String × Entry) :=
  let found := disk.entries.filterMap fun (location, entry) =>
    (disk.below? location).map fun names => ("/".intercalate names, entry)
  found.mergeSort fun a b => !(b.1 < a.1 : Bool)

/-- What differs in a later tree. -/
def change (before after : Disk) : Change :=
  let old := before.visible
  let new := after.visible
  { newDirectories := new.filterMap fun (path, entry) =>
      -- Directories count as new only, since none is ever removed or altered.
      if entry = .directory ∧ old.lookup path ≠ some .directory then some path else none
    files := new.filterMap fun (path, entry) => match entry with
      | .file content _ => match old.lookup path with
        -- A file written again with the same bytes has not changed.
        | some (.file earlier _) => if earlier = content then none else some (path, content)
        | _ => some (path, content)
      | _ => none
    gone := old.filterMap fun (path, entry) => match entry, new.lookup path with
      -- A file that something else has taken the place of is gone as a file.
      | .file _ _, some (.file _ _) => none
      | .file _ _, _ => some path
      | _, _ => none }

end Disk

end Themer
