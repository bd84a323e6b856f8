import Themer.Nesting
import Themer.Path
import Themer.Text.Utf8
import Themer.Text.Quoted

/-! A tree of files as one value, the places in it that paths lead to, and why they may not. -/

namespace Themer

/-- Where something is: the names that lead to it from the root. -/
abbrev Location := List String

/-- What is at a place: a directory, a file that may be run or not, or a device. -/
inductive Entry
  | directory
  | file (content : Text.Bytes) (executable : Bool)
  | device
deriving DecidableEq, Repr

/-- Why the system refuses an operation. -/
inductive OsCause
  | notFound
  | badFormat
  | notPermitted
  | alreadyThere
  | notDirectory
  | isDirectory
  | nameTooLong
  | tooManyLinks
deriving DecidableEq, Repr

/-- The number of a cause. -/
def OsCause.number : OsCause → Nat
  | .notFound => 2
  | .badFormat => 8
  | .notPermitted => 13
  | .alreadyThere => 17
  | .notDirectory => 20
  | .isDirectory => 21
  | .nameTooLong => 36
  | .tooManyLinks => 40

/-- The words for a cause. -/
def OsCause.text : OsCause → String
  | .notFound => "No such file or directory"
  | .badFormat => "Exec format error"
  | .notPermitted => "Permission denied"
  | .alreadyThere => "File exists"
  | .notDirectory => "Not a directory"
  | .isDirectory => "Is a directory"
  | .nameTooLong => "File name too long"
  | .tooManyLinks => "Too many levels of symbolic links"

/-- An operation that the system refused, and the path it was asked for. -/
structure OsError where
  cause : OsCause
  path : String
deriving DecidableEq, Repr

/-- The message gives the number, the words and the quoted path. -/
def OsError.message (e : OsError) : String :=
  s!"[Errno {e.cause.number}] {e.cause.text}: {Text.quoted e.path}"

/--
Why a path is not used.

It cannot be passed on at all, or the system refuses it, or too many directories above it are
missing.
-/
inductive Denial
  | nulByte
  | os (e : OsError)
  | tooDeep (e : TooDeep)
deriving DecidableEq, Repr

/-- The message of a denial. -/
def Denial.message : Denial → String
  | .nulByte => "embedded null byte"
  | .os e => e.message
  | .tooDeep e => e.message

/--
A tree of files, and the directory in it that relative paths start from.

The root is a directory without an entry of its own.
-/
structure Disk where
  workDir : Location
  entries : List (Location × Entry)
deriving Repr

/-- Where a path leads: to something, or to a free place in a directory. -/
inductive Spot
  | taken (location : Location) (entry : Entry)
  | free (location : Location)
deriving DecidableEq, Repr

namespace Disk

/-- The number of bytes that no name may exceed. -/
def nameLimit : Nat := 255

/-- The number of bytes that every path must stay below. -/
def pathLimit : Nat := 4096

/-- What is at a place. -/
def entry? (disk : Disk) (location : Location) : Option Entry :=
  -- The root is always there, and it is always a directory.
  if location = [] then some .directory else disk.entries.lookup location

/-- The entries with one set: a place already taken keeps its turn, a new one comes last. -/
def put (entries : List (Location × Entry)) (location : Location) (entry : Entry) :
    List (Location × Entry) :=
  match entries with
  | [] => [(location, entry)]
  | first :: rest =>
    if first.1 = location then (location, entry) :: rest else first :: put rest location entry

/-- The tree with something put at a place. -/
def set (disk : Disk) (location : Location) (entry : Entry) : Disk :=
  { disk with entries := put disk.entries location entry }

/-- Where some names lead from a place, one after the other. -/
def walk (disk : Disk) (here : Location) : List String → Except OsCause Spot
  | [] => match disk.entry? here with
    | some entry => .ok (.taken here entry)
    | none => .error .notFound
  | name :: rest =>
    -- A name leads on from a directory only, even the name that leads up again.
    if disk.entry? here ≠ some .directory then .error .notDirectory
    else if name = ".." then disk.walk here.dropLast rest
    else if nameLimit < name.utf8ByteSize then .error .nameTooLong
    else match disk.entry? (here ++ [name]) with
      | some _ => disk.walk (here ++ [name]) rest
      -- The last name may be free, but nothing can be reached through a place that is.
      | none => if rest.isEmpty then .ok (.free (here ++ [name])) else .error .notFound

/-- Where a path leads. -/
def spot (disk : Disk) (path : Path) : Except OsCause Spot :=
  -- The path as a whole is measured first, before any of its names is looked at.
  if pathLimit ≤ path.text.utf8ByteSize then .error .nameTooLong
  else disk.walk (if path.anchor = .here then disk.workDir else []) path.parts

/-- Whether a path has a character that no system call takes. -/
def hasNul (path : Path) : Bool :=
  path.parts.any fun part => part.toList.contains '\x00'

/-- A refusal for a given path. -/
def refuse (cause : OsCause) (path : Path) : Denial :=
  .os ⟨cause, path.text⟩

/-- Whether a cause only means that there is nothing at a path. -/
def isAbsence (cause : OsCause) : Bool :=
  cause == .notFound || cause == .notDirectory

/--
What is at a path, if anything.

A path with a NUL leads nowhere, and one that is too long is refused rather than absent.
-/
def look (disk : Disk) (path : Path) : Except OsError (Option Entry) :=
  -- A look never fails for a NUL, while reading and writing do.
  if hasNul path then .ok none
  else match disk.spot path with
    | .ok (.taken _ entry) => .ok (some entry)
    | .ok (.free _) => .ok none
    -- A way through a file leads to nothing, just as a missing directory does.
    | .error cause => if isAbsence cause then .ok none else .error ⟨cause, path.text⟩

/-- Whether there is something at a path. -/
def isThere (disk : Disk) (path : Path) : Except OsError Bool :=
  (disk.look path).map Option.isSome

/-- Whether there is a directory at a path. -/
def isDirectory (disk : Disk) (path : Path) : Except OsError Bool :=
  (disk.look path).map fun entry => entry == some .directory

/-- Whether there is a file at a path. -/
def isFile (disk : Disk) (path : Path) : Except OsError Bool :=
  (disk.look path).map fun
    | some (.file _ _) => true
    | _ => false

/-- The bytes of the file at a path; a device has none. -/
def readFile (disk : Disk) (path : Path) : Except Denial Text.Bytes :=
  if hasNul path then .error .nulByte
  else match disk.spot path with
    | .ok (.taken _ (.file content _)) => .ok content
    -- A device is at its end at once.
    | .ok (.taken _ .device) => .ok []
    | .ok (.taken _ .directory) => .error (refuse .isDirectory path)
    | .ok (.free _) => .error (refuse .notFound path)
    | .error cause => .error (refuse cause path)

/-- The tree after some bytes were written to the file at a path; a device takes them in. -/
def writeFile (disk : Disk) (path : Path) (content : Text.Bytes) : Except Denial Disk :=
  if hasNul path then .error .nulByte
  else match disk.spot path with
    | .ok (.taken location (.file _ executable)) =>
      -- A file that is written again may be run as before, and a new one may not.
      .ok (disk.set location (.file content executable))
    | .ok (.taken _ .device) => .ok disk
    | .ok (.taken _ .directory) => .error (refuse .isDirectory path)
    | .ok (.free location) => .ok (disk.set location (.file content false))
    | .error cause => .error (refuse cause path)

/-- The tree with a new directory at a path. -/
def makeDirectory (disk : Disk) (path : Path) : Except Denial Disk :=
  if hasNul path then .error .nulByte
  else match disk.spot path with
    | .ok (.free location) => .ok (disk.set location .directory)
    | .ok (.taken _ _) => .error (refuse .alreadyThere path)
    | .error cause => .error (refuse cause path)

/-- A new directory at a path, or the one that is already there. -/
def ensureDirectory (disk : Disk) (path : Path) : Except Denial Disk :=
  match disk.makeDirectory path with
  | .error (.os e) =>
    -- Unless something above is missing, a refusal does not matter where a directory is there.
    if e.cause ≠ .notFound ∧ (disk.isDirectory path).toOption = some true then .ok disk
    else .error (.os e)
  | other => other

/--
A directory at a path, with the directories it lies in, and the tree that is left.

The names are given from the last one on.
Where the lowest directory cannot be made for want of the one above, that one comes first, and takes
one of the levels that are left.
-/
def ensureUpwards (anchor : Anchor) : Nat → List String → Disk → Except Denial Unit × Disk
  | _, [], disk =>
    match disk.ensureDirectory ⟨anchor, []⟩ with
    | .ok disk => (.ok (), disk)
    | .error e => (.error e, disk)
  | levels, name :: above, disk =>
    let path : Path := ⟨anchor, (name :: above).reverse⟩
    match disk.ensureDirectory path with
    | .ok disk => (.ok (), disk)
    | .error (.os e) =>
      -- Only a missing directory above is made; any other refusal is final.
      if e.cause = .notFound then
        match levels with
        -- Nothing has been made by then, as the highest of the directories would have been first.
        | 0 => (.error (.tooDeep ⟨.call⟩), disk)
        | levels + 1 =>
          match ensureUpwards anchor levels above disk with
          | (.ok _, disk) =>
            match disk.ensureDirectory path with
            | .ok disk => (.ok (), disk)
            | .error e => (.error e, disk)
          -- What could be made above stays, though the lowest directory was not reached.
          | failed => failed
      else (.error (.os e), disk)
    | .error e => (.error e, disk)

/--
A directory at a path, with the directories it lies in, and the tree that is left.

Only so many of the directories it lies in may be missing as there are levels left.
-/
def ensurePath (disk : Disk) (levels : Nat) (path : Path) : Except Denial Unit × Disk :=
  ensureUpwards path.anchor levels path.parts.reverse disk

/-- The names of what lies in a directory, in order. -/
def namesIn (disk : Disk) (location : Location) : List String :=
  let names := disk.entries.filterMap fun (place, _) =>
    -- The place of what lies in a directory has one name more than the directory.
    if place ≠ [] ∧ place.dropLast = location then place.getLast? else none
  names.mergeSort fun a b => !(b < a : Bool)

/-- The names of what lies in the directory at a path, in order. -/
def list (disk : Disk) (path : Path) : Except Denial (List String) :=
  if hasNul path then .error .nulByte
  else match disk.spot path with
    | .ok (.taken location .directory) => .ok (disk.namesIn location)
    | .ok (.taken _ _) => .error (refuse .notDirectory path)
    | .ok (.free _) => .error (refuse .notFound path)
    | .error cause => .error (refuse cause path)

end Disk

end Themer
