import Themer.Proofs.Disk.Names

/-! Trees of files: where the paths in them lead, and what writing one file does to the rest. -/

namespace Themer

namespace Disk

/-- A tree proper: only directories have anything below them, and relative paths start in one. -/
structure IsTree (disk : Disk) : Prop where
  workDir : disk.entry? disk.workDir = some .directory
  above : ∀ pair ∈ disk.entries, disk.entry? pair.1.dropLast = some .directory

instance (disk : Disk) : Decidable disk.IsTree :=
  decidable_of_iff (disk.entry? disk.workDir = some .directory ∧
      ∀ pair ∈ disk.entries, disk.entry? pair.1.dropLast = some .directory)
    ⟨fun ⟨workDir, above⟩ => ⟨workDir, above⟩, fun ⟨workDir, above⟩ => ⟨workDir, above⟩⟩

/-- Where paths of an anchor start. -/
def start (disk : Disk) (anchor : Anchor) : Location :=
  if anchor = .here then disk.workDir else []

/-- The place itself as the end of a path, taken or free. -/
def spotAt (disk : Disk) (location : Location) : Spot :=
  match disk.entry? location with
  | some entry => .taken location entry
  | none => .free location

/--
What the next name of a walk does to it, by the result that this has in the end.

It is refused, leads on from another place, or is the last one and leads to a free place.
-/
inductive Turn (disk : Disk) (here : Location) (name : String) (rest : List String) :
    Except OsCause Spot → Prop
  | outside (outside : disk.entry? here ≠ some .directory) :
      Turn disk here name rest (.error .notDirectory)
  | up {result : Except OsCause Spot} (inside : disk.entry? here = some .directory)
      (up : name = "..") (onward : disk.walk here.dropLast rest = result) :
      Turn disk here name rest result
  | long (inside : disk.entry? here = some .directory) (other : name ≠ "..")
      (long : nameLimit < name.utf8ByteSize) : Turn disk here name rest (.error .nameTooLong)
  | down {result : Except OsCause Spot} (inside : disk.entry? here = some .directory)
      (other : name ≠ "..") (short : name.utf8ByteSize ≤ nameLimit)
      (there : (disk.entry? (here ++ [name])).isSome)
      (onward : disk.walk (here ++ [name]) rest = result) : Turn disk here name rest result
  | free (inside : disk.entry? here = some .directory) (other : name ≠ "..")
      (short : name.utf8ByteSize ≤ nameLimit) (nothing : disk.entry? (here ++ [name]) = none)
      (last : rest = []) : Turn disk here name rest (.ok (.free (here ++ [name])))
  | lost (inside : disk.entry? here = some .directory) (other : name ≠ "..")
      (short : name.utf8ByteSize ≤ nameLimit) (nothing : disk.entry? (here ++ [name]) = none)
      (more : rest ≠ []) : Turn disk here name rest (.error .notFound)

/-- A later tree that differs in one place, where there now is a file with some bytes. -/
structure WrittenAt (before after : Disk) (location : Location) (content : Text.Bytes) :
    Prop where
  /-- The file is there, unless the place belongs to a device, which keeps nothing. -/
  held : if before.entry? location = some .device then after = before
    else ∃ executable, after.entry? location = some (.file content executable)
  /-- All else is as it was, directories included. -/
  kept : ∀ other, other ≠ location → after.entry? other = before.entry? other
  workDir : after.workDir = before.workDir

/-- What lies above something in a tree is a directory. -/
theorem IsTree.entry?_dropLast {disk : Disk} (tree : disk.IsTree) {location : Location}
    {entry : Entry} (there : disk.entry? location = some entry) :
    disk.entry? location.dropLast = some .directory := by
  by_cases root : location = []
  · -- Nothing is above the root, which stands for what is above itself.
    subst root
    rfl
  · unfold entry? at there
    rw [if_neg root] at there
    obtain ⟨before, after, split, _⟩ := List.lookup_eq_some_iff.mp there
    exact tree.above (location, entry) (by simp [split])

/-- A place with nothing is below the root. -/
theorem below_of_nothing {disk : Disk} {place : Location}
    (nothing : disk.entry? place = none) : place ≠ [] := by
  rintro rfl
  cases nothing

/-- Paths start at a directory. -/
theorem IsTree.entry?_start {disk : Disk} (tree : disk.IsTree) (anchor : Anchor) :
    disk.entry? (disk.start anchor) = some .directory := by
  -- Either the directory that relative paths start in, or the root.
  unfold start
  split
  · exact tree.workDir
  · rfl

/-- A path leads where its names lead from its start, unless it is too long. -/
theorem spot_eq_ok_iff {disk : Disk} {path : Path} {found : Spot} :
    disk.spot path = .ok found ↔
      path.text.utf8ByteSize < pathLimit ∧
        disk.walk (disk.start path.anchor) path.parts = .ok found := by
  -- The limit on the whole path is tested first, and what passes it is walked.
  rw [spot, start]
  split
  · simpa using fun short => absurd short (by omega)
  · simpa using fun _ => by omega

/-- Without names, a walk finds what is at the place it starts from. -/
theorem walk_nil_eq_ok_iff {disk : Disk} {here : Location} {found : Spot} :
    disk.walk here [] = .ok found ↔
      ∃ entry, disk.entry? here = some entry ∧ found = .taken here entry := by
  rw [walk]
  cases disk.entry? here with
  | none => simp
  | some entry => simp [eq_comm]

/-- Without names, a walk is only refused for want of anything at all. -/
theorem walk_nil_eq_error_iff {disk : Disk} {here : Location} {cause : OsCause} :
    disk.walk here [] = .error cause ↔ disk.entry? here = none ∧ cause = .notFound := by
  rw [walk]
  cases disk.entry? here with
  | none => simp [eq_comm]
  | some entry => simp

/-- A walk has the result that its next name gives it. -/
theorem walk_cons_eq_iff {disk : Disk} {here : Location} {name : String} {rest : List String}
    {result : Except OsCause Spot} :
    disk.walk here (name :: rest) = result ↔ disk.Turn here name rest result := by
  rw [walk]
  constructor
  · -- One case for each test that the walk makes, in its order.
    rintro rfl
    by_cases inside : disk.entry? here = some .directory
    · rw [if_neg (not_not_intro inside)]
      by_cases up : name = ".."
      · rw [if_pos up]
        exact .up inside up rfl
      rw [if_neg up]
      by_cases long : nameLimit < name.utf8ByteSize
      · rw [if_pos long]
        exact .long inside up long
      rw [if_neg long]
      have short := Nat.not_lt.mp long
      cases there : disk.entry? (here ++ [name]) with
      | some entry => exact .down inside up short (by rw [there]; rfl) rfl
      | none =>
        cases rest with
        | nil => exact .free inside up short there rfl
        | cons next rest => exact .lost inside up short there (List.cons_ne_nil next rest)
    · rw [if_pos inside]
      exact .outside inside
  · intro turn
    cases turn with
    | outside outside => simp [outside]
    | up inside up onward => simp [inside, up, onward]
    | long inside other long => simp [inside, other, long]
    | down inside other short there onward =>
      obtain ⟨entry, held⟩ := Option.isSome_iff_exists.mp there
      simp [inside, other, Nat.not_lt.mpr short, held, onward]
    | free inside other short nothing last =>
      simp [inside, other, Nat.not_lt.mpr short, nothing, last]
    | lost inside other short nothing more =>
      simp [inside, other, Nat.not_lt.mpr short, nothing, more]

/-- The names before the last lead to a directory, and the last one to a place right in it. -/
theorem walk_append_singleton {disk : Disk} {here : Location} {names : List String}
    {name : String} {found : Spot} (down : name ≠ "..")
    (led : disk.walk here (names ++ [name]) = .ok found) :
    ∃ place, disk.walk here names = .ok (.taken place .directory) ∧
      found = disk.spotAt (place ++ [name]) := by
  -- The walk goes from name to name, so the place it has come to stays quantified over.
  induction names generalizing here with
  | nil =>
    -- The one name left goes down from a directory, so this is the place before it.
    cases walk_cons_eq_iff.mp led with
    | up _ up => exact absurd up down
    | down inside _ _ _ onward =>
      obtain ⟨entry, there, rfl⟩ := walk_nil_eq_ok_iff.mp onward
      exact ⟨here, walk_nil_eq_ok_iff.mpr ⟨_, inside, rfl⟩, by rw [spotAt, there]⟩
    | free inside _ _ nothing =>
      exact ⟨here, walk_nil_eq_ok_iff.mpr ⟨_, inside, rfl⟩, by rw [spotAt, nothing]⟩
  | cons first rest ih =>
    -- More names follow, so the longer walk went on, and the shorter one passes the same tests.
    cases walk_cons_eq_iff.mp led with
    | up inside up onward =>
      obtain ⟨place, ledAbove, same⟩ := ih onward
      exact ⟨place, walk_cons_eq_iff.mpr (.up inside up ledAbove), same⟩
    | down inside other short there onward =>
      obtain ⟨place, ledAbove, same⟩ := ih onward
      exact ⟨place, walk_cons_eq_iff.mpr (.down inside other short there ledAbove), same⟩
    | free _ _ _ _ last => simp at last

/-- In a tree, names that end by going up lead to a directory. -/
theorem IsTree.walk_append_up {disk : Disk} (tree : disk.IsTree) {here : Location}
    {names : List String} {found : Spot} (led : disk.walk here (names ++ [".."]) = .ok found) :
    ∃ place, found = .taken place .directory := by
  -- All names but the last only move the place that the walk goes up from.
  induction names generalizing here with
  | nil =>
    -- The way up starts in a directory, and in a tree another one is above it.
    cases walk_cons_eq_iff.mp led with
    | up inside _ onward =>
      obtain ⟨entry, there, rfl⟩ := walk_nil_eq_ok_iff.mp onward
      obtain rfl := Option.some.inj (there.symm.trans (tree.entry?_dropLast inside))
      exact ⟨_, rfl⟩
    | down _ other => exact absurd rfl other
    | free _ other => exact absurd rfl other
  | cons first rest ih =>
    cases walk_cons_eq_iff.mp led with
    | up _ _ onward => exact ih onward
    | down _ _ _ _ onward => exact ih onward
    | free _ _ _ _ last => simp at last

/-- In a tree, a path to anything but a directory ends in the name that this has. -/
theorem IsTree.name_of_spot {disk : Disk} (tree : disk.IsTree) {path : Path} {place : Location}
    {entry : Entry} (led : disk.spot path = .ok (.taken place entry))
    (other : entry ≠ .directory) : path.name ∈ path.parts ∧ path.name ≠ ".." := by
  obtain ⟨_, led⟩ := spot_eq_ok_iff.mp led
  obtain none | ⟨names, name, split⟩ := path.parts.eq_nil_or_concat
  · -- Without a name, the path leads to its start.
    rw [none, walk, tree.entry?_start] at led
    cases led
    exact absurd rfl other
  · have last : path.name = name := by simp [Path.name, split]
    refine ⟨by simp [last, split], ?_⟩
    -- Were the last name two dots, the path would lead to a directory.
    rintro up
    rw [split, List.concat_eq_append, ← last, up] at led
    obtain ⟨above, found⟩ := tree.walk_append_up led
    cases found
    exact absurd rfl other

/-- A path that ends in a name leads right into the directory that the rest of it leads to. -/
theorem spot_entry {disk : Disk} {directory : Path} {name : String} {found : Spot}
    (named : name ≠ "") (down : name ≠ "..")
    (led : disk.spot (directory.entry name) = .ok found) :
    ∃ place, disk.spot directory = .ok (.taken place .directory) ∧
      found = disk.spotAt (place ++ [name]) := by
  -- The directory's path is no longer than the whole, so it is not refused for its length.
  obtain ⟨short, led⟩ := spot_eq_ok_iff.mp led
  obtain ⟨place, above, last⟩ := walk_append_singleton down led
  have shorter := directory.text_le_entry named
  exact ⟨place, spot_eq_ok_iff.mpr ⟨by omega, above⟩, last⟩

/-- Of the entries with one set, that one is the one set and all others are as they were. -/
theorem lookup_put (entries : List (Location × Entry)) (location other : Location)
    (entry : Entry) :
    (put entries location entry).lookup other =
      if other = location then some entry else entries.lookup other := by
  -- The entry goes to the first of its place or to the end, and a search stops at the first.
  induction entries with
  | nil =>
    by_cases same : other = location
    · simp [put, same]
    · simp [put, List.lookup_cons, beq_eq_false_iff_ne.mpr same, same]
  | cons first rest ih =>
    obtain ⟨taken, there⟩ := first
    by_cases here : taken = location
    · -- The entry set keeps the turn of the one that was there.
      subst here
      by_cases same : other = taken
      · simp [put, same]
      · simp [put, List.lookup_cons, beq_eq_false_iff_ne.mpr same, same]
    · -- The first entry stays as it is, whether it is the one asked for or not.
      rw [put, if_neg here, List.lookup_cons, List.lookup_cons, ih]
      by_cases same : other = taken
      · subst same
        simp [here]
      · simp [beq_eq_false_iff_ne.mpr same]

/-- With something put at a place below the root, that is there and all else as it was. -/
theorem entry?_set (disk : Disk) {location : Location} (below : location ≠ []) (entry : Entry)
    (other : Location) :
    Disk.entry? (disk.set location entry) other =
      if other = location then some entry else disk.entry? other := by
  -- The root is a directory without an entry, so nothing put elsewhere touches it.
  unfold entry?
  simp only [set, lookup_put]
  by_cases root : other = []
  · subst root
    simp [Ne.symm below]
  · simp [root]

/-- A file put at a place below the root, in the stead of a file or of nothing, is written there. -/
theorem WrittenAt.set (disk : Disk) {location : Location} (below : location ≠ [])
    (noDevice : disk.entry? location ≠ some .device) (content : Text.Bytes) (executable : Bool) :
    WrittenAt disk (disk.set location (.file content executable)) location content where
  held := by
    rw [if_neg noDevice]
    exact ⟨executable, by rw [entry?_set disk below, if_pos rfl]⟩
  kept other elsewhere := by rw [entry?_set disk below, if_neg elsewhere]
  workDir := rfl

/-- Writing what lies in a directory under a name changes that one place of the tree. -/
theorem writeFile_entry {disk after : Disk} {directory : Path} {name : String}
    {content : Text.Bytes} (named : name ≠ "") (down : name ≠ "..")
    (written : disk.writeFile (directory.entry name) content = .ok after) :
    ∃ place, disk.spot directory = .ok (.taken place .directory) ∧
      WrittenAt disk after (place ++ [name]) content := by
  rw [writeFile] at written
  split at written
  · cases written
  -- Only where the path leads somewhere is anything written.
  cases led : disk.spot (directory.entry name) with
  | error cause => simp [led] at written
  | ok found =>
    obtain ⟨place, above, last⟩ := spot_entry named down led
    refine ⟨place, above, ?_⟩
    have below : place ++ [name] ≠ [] := by simp
    rw [led, last, spotAt] at written
    -- What is at the place decides what is put there.
    cases there : disk.entry? (place ++ [name]) with
    | none =>
      rw [there] at written
      cases written
      exact .set disk below (by simp [there]) content false
    | some entry =>
      rw [there] at written
      cases entry with
      | directory => cases written
      | device =>
        cases written
        exact ⟨by rw [if_pos there], fun _ _ => rfl, rfl⟩
      | file earlier executable =>
        cases written
        exact .set disk below (by simp [there]) content executable

/-- Writing to a path without a NUL is refused by the system alone. -/
theorem writeFile_refused {disk : Disk} {path : Path} {content : Text.Bytes} {denial : Denial}
    (free : hasNul path = false) (refused : disk.writeFile path content = .error denial) :
    ∃ e, denial = .os e := by
  -- The one other denial is for a NUL, and that test comes first.
  rw [writeFile, free] at refused
  simp only [Bool.false_eq_true, if_false] at refused
  split at refused <;> cases refused <;> exact ⟨_, rfl⟩

/-- Reading at a path without a NUL is refused by the system alone. -/
theorem readFile_refused {disk : Disk} {path : Path} {denial : Denial}
    (free : hasNul path = false) (refused : disk.readFile path = .error denial) :
    ∃ e, denial = .os e := by
  rw [readFile, free] at refused
  simp only [Bool.false_eq_true, if_false] at refused
  split at refused <;> cases refused <;> exact ⟨_, rfl⟩

/-- What can be read is no directory. -/
theorem spot_of_readFile {disk : Disk} {path : Path} {content : Text.Bytes}
    (read : disk.readFile path = .ok content) :
    ∃ place entry, disk.spot path = .ok (.taken place entry) ∧ entry ≠ .directory := by
  -- Only a file or a device has bytes to give, if none.
  rw [readFile] at read
  split at read
  · cases read
  split at read <;> cases read
  · rename_i place _ led
    exact ⟨place, _, led, by simp⟩
  · rename_i place led
    exact ⟨place, _, led, by simp⟩

/-- What a walk through a tree does not get to has nothing below it. -/
theorem walk_append_of_notFound {disk : Disk} (tree : disk.IsTree) {here : Location}
    {names : List String} (there : (disk.entry? here).isSome = true)
    (missing : disk.walk here names = .error .notFound)
    (more : List String) : disk.walk here (names ++ more) = .error .notFound := by
  -- The walk goes on as before, up to the name that is missing.
  induction names generalizing here with
  | nil =>
    rw [(walk_nil_eq_error_iff.mp missing).1] at there
    cases there
  | cons name rest ih =>
    refine walk_cons_eq_iff.mpr ?_
    cases walk_cons_eq_iff.mp missing with
    | up inside up onward =>
      have above : (disk.entry? here.dropLast).isSome = true := by
        rw [tree.entry?_dropLast inside]
        rfl
      exact .up inside up (ih above onward)
    | down inside other short there onward => exact .down inside other short there (ih there onward)
    | lost inside other short nothing left =>
      exact .lost inside other short nothing (List.append_ne_nil_of_left_ne_nil left more)

/-- Below what a tree does not have there is nothing, as long as the path to it can be looked at. -/
theorem spot_append_of_notFound {disk : Disk} (tree : disk.IsTree) {anchor : Anchor}
    {names more : List String}
    (missing : disk.spot ⟨anchor, names⟩ = .error .notFound)
    (short : (⟨anchor, names ++ more⟩ : Path).text.utf8ByteSize < pathLimit) :
    disk.spot ⟨anchor, names ++ more⟩ = .error .notFound := by
  have there : (disk.entry? (disk.start anchor)).isSome = true := by
    rw [tree.entry?_start]
    rfl
  unfold spot at missing ⊢
  rw [if_neg (Nat.not_le.mpr short)]
  split at missing
  · cases missing
  · exact walk_append_of_notFound tree there missing more

end Disk

end Themer
