import Themer.Script.Options
import Themer.Script.Pieces

/-! The programs that make, move, list and remove files. -/

namespace Themer.Script

open Themer.Text (Bytes)

/-- The disk without what is at a place and all that lies in it. -/
def without (disk : Disk) (location : Location) : Disk :=
  { disk with entries := disk.entries.filter fun entry => !location.isPrefixOf entry.1 }

/-- The disk with all that lies at one place at another one, where nothing may be. -/
def relocate (disk : Disk) (source target : Location) : Disk :=
  { disk with
    entries := disk.entries.map fun (location, entry) =>
      if source.isPrefixOf location then (target ++ location.drop source.length, entry)
      else (location, entry) }

/-- What lies at a place and in it, each with the names that lead there from the place. -/
def treeAt (disk : Disk) (location : Location) : List (List String × Entry) :=
  disk.entries.filterMap fun (place, entry) =>
    if location.isPrefixOf place then some (place.drop location.length, entry) else none

/-- A name with one more below it. -/
def below (directory name : Chars) : Chars :=
  if directory.getLast? = some '/' then directory ++ name else directory ++ '/' :: name

/-- A name without the slashes it ends in. -/
def trimSlashes (name : Chars) : Chars :=
  match (name.reverse.dropWhile (· == '/')).reverse with
  | [] => name.take 1
  | trimmed => trimmed

/-- The last part of a name. -/
def lastPart (name : Chars) : Chars :=
  let trimmed := trimSlashes name
  -- The root has no name but itself.
  if trimmed = ['/'] then trimmed else (trimmed.reverse.takeWhile (· != '/')).reverse

/-- A name without its last part. -/
def directoryPart (name : Chars) : Chars :=
  match (trimSlashes name).reverse.dropWhile (· != '/') with
  | [] => ['.']
  | before => trimSlashes before.reverse

/-- Refuses an option that is not among some letters, or goes on. -/
def withOptions (program taking others : String) (mixed : Bool) (words : List Chars)
    (act : Options → Act Nat) : Act Nat := do
  let options := Options.read taking.toList mixed words
  let isKnown (option : Char × Chars) : Bool := (taking ++ others).toList.contains option.1
  match options.letters.find? fun option => !isKnown option with
  | some option => Act.refuseOption program (if program = "ls" then 2 else 1) option
  | none => act options

/-- Moves what lies at one place to another one, in the place of what is there. -/
def moveOnDisk (source target : Location) : Act Unit :=
  modify fun shell =>
    -- A stream that is open stays with its file, wherever that goes.
    let follow (stream : Stream) : Stream := match stream with
      | .file location place appends =>
        if source.isPrefixOf location then
          .file (target ++ location.drop source.length) place appends
        else .file location place appends
      | stream => stream
    { shell with
      disk := relocate (without shell.disk target) source target
      streams := shell.streams.map follow }

/-- Changes the disk. -/
def changeDisk (change : Disk → Disk) : Act Unit :=
  modify fun shell => { shell with disk := change shell.disk }

/-- Tells why something is not done to a name. -/
def refuseName (program verb : String) (name : Chars) (cause : OsCause) : Act Nat := do
  Act.report program (verb.toList ++ ' ' :: quotedName name ++ ": ".toList ++ cause.text.toList)
  return 1

/-- Creates files that are not there. -/
def touch : Program := fun words =>
  withOptions "touch" "tdr" "acfmh" true words fun options => do
    if options.words.isEmpty then return ← Act.misuse "touch" 1 "missing file operand".toList
    Act.forAll options.words fun name => do
      let onlyTimes := options.has 'c' || name.getLast? == some '/'
      match (← get).spot name with
      | .ok (.taken _ _) => return 0
      | .ok (.free location) =>
        if !onlyTimes then
          changeDisk (·.set location (.file [] false))
          return 0
        else if options.has 'c' then return 0
        else refuseName "touch" "setting times of" name .notFound
      | .error cause =>
        if options.has 'c' && cause = .notFound then return 0
        else refuseName "touch" (if onlyTimes then "setting times of" else "cannot touch") name cause

/-- The names that lead to the directories on the way to a name, and the name itself. -/
def waysTo (name : Chars) : List Chars :=
  let ways := (List.range name.length).filter fun n =>
    0 < n && name[n]? == some '/' && name[n - 1]? != some '/' && (name.drop n).any (· != '/')
  ways.map name.take ++ [name]

/-- Makes a directory; one that is there already is only in the way if so asked. -/
def makeDirectory (announces mayBeThere : Bool) (name : Chars) : Act Nat := do
  let refuse (cause : OsCause) : Act Nat := do
    Act.report "mkdir" <| "cannot create directory ".toList ++ bentQuotes name ++
      ": ".toList ++ cause.text.toList
    return 1
  match (← get).spot name with
  | .ok (.free location) =>
    changeDisk (·.set location .directory)
    if announces then
      Act.write 1 ("mkdir: created directory ".toList ++ quotedName name ++ ['\n'])
    return 0
  | .ok (.taken _ .directory) => if mayBeThere then return 0 else refuse .alreadyThere
  | .ok (.taken _ _) => refuse .alreadyThere
  | .error cause => refuse cause

/-- Makes directories one inside the other, up to one that cannot be made. -/
def makeWays (announces : Bool) : List Chars → Act Nat
  | [] => return 0
  | [name] => makeDirectory announces true name
  | way :: rest => do
    match (← get).spot way with
    | .ok (.taken _ (.file _ _)) | .ok (.taken _ .device) =>
      Act.report "mkdir" <| "cannot create directory ".toList ++ bentQuotes way ++
        ": ".toList ++ OsCause.notDirectory.text.toList
      return 1
    | _ =>
      -- Nothing can be made below one that could not be made.
      if (← makeDirectory announces true way) = 0 then makeWays announces rest else return 1

/-- Makes directories, with those they lie in if so asked. -/
def makeDirectories : Program := fun words =>
  withOptions "mkdir" "m" "pv" true words fun options => do
    if options.words.isEmpty then return ← Act.misuse "mkdir" 1 "missing operand".toList
    Act.forAll options.words fun name =>
      if options.has 'p' then makeWays (options.has 'v') (waysTo name)
      else makeDirectory (options.has 'v') false name

/-- Removes directories one after the other, up to one that cannot be removed. -/
def removeWays (announces isFirst : Bool) : List Chars → Act Nat
  | [] => return 0
  | name :: rest => do
    if announces then
      Act.write 1 ("rmdir: removing directory, ".toList ++ quotedName name ++ ['\n'])
    let refuse (text : String) : Act Nat := do
      let verb := if isFirst then "failed to remove " else "failed to remove directory "
      Act.report "rmdir" (verb.toList ++ quotedName name ++ ": ".toList ++ text.toList)
      return 1
    match (← get).spot name with
    | .ok (.taken location .directory) =>
      if lastPart name = ['.'] then refuse "Invalid argument"
      -- The directory itself is counted as well.
      else if (treeAt (← get).disk location).length > 1 then refuse "Directory not empty"
      else
        changeDisk (without · location)
        removeWays announces false rest
    | .ok (.taken _ _) => refuse OsCause.notDirectory.text
    | .ok (.free _) => refuse OsCause.notFound.text
    | .error cause => refuse cause.text

/-- Removes directories that are empty, and then those they lie in if so asked. -/
def removeDirectories : Program := fun words =>
  withOptions "rmdir" "" "pv" true words fun options => do
    if options.words.isEmpty then return ← Act.misuse "rmdir" 1 "missing operand".toList
    Act.forAll options.words fun name =>
      removeWays (options.has 'v') true
        (if options.has 'p' then (waysTo name).reverse else [name])

/-- Removes files, and directories with all that lies in them if so asked. -/
def removeFiles : Program := fun words =>
  withOptions "rm" "" "rRfdvi" true words fun options => do
    if options.words.isEmpty && !options.has 'f' then
      return ← Act.misuse "rm" 1 "missing operand".toList
    let refuse := refuseName "rm" "cannot remove"
    let announce (kind : String) (name : Chars) : Act Unit := do
      if options.has 'v' then Act.write 1 (kind.toList ++ quotedName name ++ ['\n'])
    Act.forAll options.words fun name => do
      let last := lastPart name
      match (← get).spot name with
      | .ok (.taken location .directory) =>
        if options.has 'r' || options.has 'R' then
          -- The place where one stands is not taken away.
          if last = ['.'] || last = ['.', '.'] then
            Act.report "rm" <|
              "refusing to remove '.' or '..' directory: skipping ".toList ++ quotedName name
            return 1
          changeDisk (without · location)
          announce "removed directory " name
          return 0
        else if options.has 'd' && (treeAt (← get).disk location).length = 1 then
          changeDisk (without · location)
          announce "removed directory " name
          return 0
        else refuse name .isDirectory
      | .ok (.taken location _) =>
        changeDisk (without · location)
        announce "removed " name
        return 0
      | .ok (.free _) => if options.has 'f' then return 0 else refuse name .notFound
      | .error cause =>
        -- What was to be removed is not there, which is all that was wanted.
        if options.has 'f' && Disk.isAbsence cause then return 0 else refuse name cause

/-- Whether a text is a change of a mode: for whom, whether more or less, and what. -/
def isModeChange (text : Chars) : Bool :=
  match text.dropWhile ['u', 'g', 'o', 'a'].contains with
  | sign :: what =>
    ['+', '-', '='].contains sign && what.all ("rwxXstugo+-=".toList.contains ·)
  | [] => false

/-- Whether a text is a mode: octal digits, or changes of one. -/
def isMode (text : Chars) : Bool :=
  if text.head?.any Char.isDigit then text.all ("01234567".toList.contains ·) && text.length ≤ 5
  else (splitAt ',' text).all isModeChange

/-- Whether what some words of a mode ask for lets a file be run; nothing if they do not say. -/
def runnableBy? (mode : Chars) : Option Bool :=
  if mode.all Char.isDigit then
    some (mode.any fun c => c.toNat % 2 == 1)
  -- A change of something else leaves it as it was.
  else if !mode.any ['x', 'X'].contains then none
  else some (!mode.contains '-')

/-- Sets whether files may be run. -/
def changeModes : Program := fun words => do
  let isFlag (word : Chars) : Bool := [['-', 'R'], ['-', 'v'], ['-', 'f']].contains word
  let (flags, words) := (words.takeWhile isFlag, words.dropWhile isFlag)
  match words with
  | [] => Act.misuse "chmod" 1 "missing operand".toList
  | [mode] =>
    Act.misuse "chmod" 1 <|
      if mode.head? = some '-' then "missing operand".toList
      else "missing operand after ".toList ++ bentQuotes mode
  | mode :: names =>
    if !isMode mode then
      return ← Act.misuse "chmod" 1 ("invalid mode: ".toList ++ bentQuotes mode)
    Act.forAll names fun name => do
      let runnable (entry : Entry) : Entry :=
        match entry with
        | .file content executable => .file content ((runnableBy? mode).getD executable)
        | entry => entry
      match (← get).spot name with
      | .ok (.taken location entry) =>
        changeDisk fun disk =>
          if flags.contains ['-', 'R'] then
            { disk with entries := disk.entries.map fun (place, entry) =>
                (place, if location.isPrefixOf place then runnable entry else entry) }
          -- The root is on no list of entries.
          else if location = [] then disk else disk.set location (runnable entry)
        return 0
      | .ok (.free _) => refuseName "chmod" "cannot access" name .notFound
      | .error cause => refuseName "chmod" "cannot access" name cause

/-- Tells that something is not done, with the two names it is about. -/
def refusePair (program verb : String) (first : Chars) (middle : String) (second : Chars)
    (ending : String) : Act Nat := do
  Act.report program <|
    verb.toList ++ quotedName first ++ middle.toList ++ quotedName second ++ ending.toList
  return 1

/-- Tells that something is not done with a name, and why. -/
def refuseWith (program verb : String) (name : Chars) (ending : String) : Act Nat := do
  Act.report program (verb.toList ++ quotedName name ++ ending.toList)
  return 1

/-- Takes names to a target: one of their own each, or a directory that all go to. -/
def toTarget (program : String) (options : Options) (take : Chars → Chars → Act Nat) :
    Act Nat := do
  let isDirectory (name : Chars) : Act Bool := do
    return (← get).at? name == some .directory
  match options.argument? 't', options.words.reverse with
  | some target, words =>
    Act.forAll words.reverse fun name => take name (below target (lastPart name))
  | none, [] => Act.misuse program 1 "missing file operand".toList
  | none, [name] =>
    Act.misuse program 1 ("missing destination file operand after ".toList ++ quotedName name)
  | none, target :: sources =>
    if (← isDirectory target) && !options.has 'T' then
      Act.forAll sources.reverse fun name => take name (below target (lastPart name))
    else match sources with
      | [source] => take source target
      | _ => match (← get).at? target with
        | none => refuseWith program "target " target ": No such file or directory"
        | some _ => refuseWith program "target " target ": Not a directory"

/-- Moves a file or a directory from one name to another. -/
def moveTo (options : Options) (source target : Chars) : Act Nat := do
  let shell ← get
  let announce : Act Unit := do
    if options.has 'v' then
      Act.write 1 ("renamed ".toList ++ quotedName source ++ " -> ".toList ++ quotedName target ++
        ['\n'])
  match shell.spot source, shell.spot target with
  | .ok (.free _), _ => refuseName "mv" "cannot stat" source .notFound
  | .error cause, _ => refuseName "mv" "cannot stat" source cause
  | .ok (.taken from? entry), .ok spot =>
    let (place, found) := match spot with
      | .taken place found => (place, some found)
      | .free place => (place, none)
    -- By place and not by name, for several names may lead to one.
    if from? = place then refusePair "mv" "" source " and " target " are the same file"
    else if from?.isPrefixOf place && entry = .directory then
      refusePair "mv" "cannot move " source " to a subdirectory of itself, " target ""
    -- It is left alone without a word.
    else if options.has 'n' && found.isSome then return 0
    else match entry, found with
      -- Only an empty directory makes room for another one.
      | .directory, some .directory =>
        if (treeAt shell.disk place).length > 1 then
          refuseWith "mv" "cannot overwrite " target ": Directory not empty"
        else
          moveOnDisk from? place
          announce
          return 0
      | .directory, some _ =>
        refusePair "mv" "cannot overwrite non-directory " target " with directory " source ""
      | _, some .directory => refuseWith "mv" "cannot overwrite directory " target ""
      | _, _ =>
        moveOnDisk from? place
        announce
        return 0
  | .ok (.taken _ _), .error cause =>
    refusePair "mv" "cannot move " source " to " target s!": {cause.text}"

/-- Moves files and directories. -/
def moveFiles : Program := fun words =>
  withOptions "mv" "t" "fivnTu" true words fun options =>
    toTarget "mv" options (moveTo options)

/-- The disk with what lies at one place also at another; what is there already stays. -/
def duplicateTree (disk : Disk) (source target : Location) : Disk :=
  (treeAt disk source).foldl (fun disk (names, entry) =>
    let place := target ++ names
    match entry, disk.entry? place with
    | .directory, some _ => disk
    -- A file that is there only gets another content, and may be run or not as before.
    | .file content _, some (.file _ executable) => disk.set place (.file content executable)
    | entry, _ => disk.set place entry) disk

/-- Copies a file or a directory from one name to another. -/
def copyTo (options : Options) (source target : Chars) : Act Nat := do
  let shell ← get
  let announce : Act Unit := do
    if options.has 'v' then
      Act.write 1 (quotedName source ++ " -> ".toList ++ quotedName target ++ ['\n'])
  match shell.spot source with
  | .ok (.free _) => refuseName "cp" "cannot stat" source .notFound
  | .error cause => refuseName "cp" "cannot stat" source cause
  | .ok (.taken place .directory) =>
    if !(options.has 'r' || options.has 'R' || options.has 'a') then
      refuseWith "cp" "-r not specified; omitting directory " source ""
    else match shell.spot target with
      | .error cause => refuseName "cp" "cannot create directory" target cause
      | .ok (.taken _ (.file _ _)) | .ok (.taken _ .device) =>
        refusePair "cp" "cannot overwrite non-directory " target " with directory " source ""
      | .ok (.taken other .directory) | .ok (.free other) =>
        -- A copy inside of what is copied would have to hold itself.
        if place.isPrefixOf other then
          refusePair "cp" "cannot copy a directory, " source ", into itself, " target ""
        else
          changeDisk (duplicateTree · place other)
          announce
          return 0
  | .ok (.taken place entry) =>
    let (content, executable) := match entry with
      | .file content executable => (content, executable)
      | _ => ([], false)
    match shell.spot target with
    | .error cause => refuseName "cp" "cannot create regular file" target cause
    | .ok (.taken _ .directory) =>
      refuseWith "cp" "cannot overwrite directory " target " with non-directory"
    | .ok (.taken other found) =>
      if other = place then refusePair "cp" "" source " and " target " are the same file"
      else if options.has 'n' then return 0
      else
        let kept := match found with
          | .file _ executable => .file content executable
          | found => found
        changeDisk (·.set other kept)
        announce
        return 0
    | .ok (.free other) =>
      changeDisk (·.set other (.file content executable))
      announce
      return 0

/-- Copies files and directories. -/
def copyFiles : Program := fun words =>
  withOptions "cp" "t" "rRafipvnTudLP" true words fun options =>
    toTarget "cp" options (copyTo options)

/-- Some items as a listing has them, which may be turned around. -/
def inListing {α : Type} (options : Options) (items : List α) : List α :=
  if options.has 'r' then items.reverse else items

/-- A name with the mark of what it leads to. -/
def markedName (options : Options) (name : Chars) (entry : Option Entry) : Chars :=
  match entry with
  | some .directory =>
    if (options.has 'p' || options.has 'F') && name.getLast? != some '/' then name ++ ['/']
    else name
  | some (.file _ true) => if options.has 'F' then name ++ ['*'] else name
  | _ => name

/-- The lines that a listing of the names in a directory has. -/
def listedNames (options : Options) (directory : Disk) (location : Location) : List Chars :=
  let names := (directory.namesIn location).map charsOfString
  let showsAll := options.has 'a' || options.has 'A'
  let shown := names.filter fun name => showsAll || name.head? != some '.'
  let all := (if options.has 'a' then [['.'], ['.', '.']] else []) ++ shown
  let sorted := all.mergeSort fun a b => !(b < a : Bool)
  inListing options <| sorted.map fun name =>
    -- Those two are not on the disk under these names.
    let isDots := name == ['.'] || name == ['.', '.']
    markedName options name <|
      if isDots then some .directory else directory.entry? (location ++ [stringOf name])

/-- The directories below a place, named behind a name, for at most so many levels. -/
def directoriesBelow (options : Options) (disk : Disk) :
    Nat → Chars → Location → List (Chars × Location)
  | 0, _, _ => []
  | levels + 1, name, location =>
    let showsAll := options.has 'a' || options.has 'A'
    let children := (disk.namesIn location).filter fun child =>
      (showsAll || !child.startsWith ".") &&
        disk.entry? (location ++ [child]) == some .directory
    (name, location) :: (inListing options children).flatMap fun child =>
      directoriesBelow options disk levels (below name (charsOfString child)) (location ++ [child])

/-- Lists files, and the names in directories. -/
def listNames : Program := fun words =>
  withOptions "ls" "" "aA1dprFR" true words fun options => do
    let names := if options.words.isEmpty then [['.']] else options.words
    let names := names.mergeSort fun a b => !(b < a : Bool)
    let shell ← get
    let status ← Act.forAll names fun name => do
      let refuse (cause : OsCause) : Act Nat := do
        let _ ← refuseName "ls" "cannot access" name cause
        return 2
      match shell.spot name with
      | .ok (.taken _ _) => return 0
      | .ok (.free _) => refuse .notFound
      | .error cause => refuse cause
    let found := (inListing options names).filterMap fun name => match shell.spot name with
      | .ok (.taken location entry) => some (name, location, entry)
      | _ => none
    let isListed (entry : Entry) : Bool := entry == .directory && !options.has 'd'
    let files := found.filter fun (_, _, entry) => !isListed entry
    let directories := (found.filter fun (_, _, entry) => isListed entry).flatMap
      fun (name, location, _) =>
        if options.has 'R' then directoriesBelow options shell.disk 64 name location
        else [(name, location)]
    let fileLines := files.map fun (name, _, entry) => markedName options name (some entry)
    let listings := directories.map fun (name, location) =>
      let lines := listedNames options shell.disk location
      if names.length > 1 || options.has 'R' then (name ++ [':']) :: lines else lines
    let blocks := (if fileLines.isEmpty then [] else [fileLines]) ++ listings
    Act.write 1 ([['\n']].intercalate (blocks.map fun lines => lines.map (· ++ ['\n']))).flatten
    return status

end Themer.Script
