import Themer.Proofs.Disk.Place

/-! Trees that came about by putting files and directories where they fit, and what that leaves. -/

namespace Themer

namespace Disk

/-- What fits at a place: a file over a file of its kind, or anything new in a directory. -/
inductive Fits (disk : Disk) (place : Location) : Entry → Prop
  | replace {earlier content : Text.Bytes} {executable : Bool}
      (there : disk.entry? place = some (.file earlier executable)) :
      Fits disk place (.file content executable)
  | newFile {content : Text.Bytes} (inside : disk.entry? place.dropLast = some .directory)
      (nothing : disk.entry? place = none) : Fits disk place (.file content false)
  | newDirectory (inside : disk.entry? place.dropLast = some .directory)
      (nothing : disk.entry? place = none) : Fits disk place .directory

/-- A later tree, after things were put one by one where they fit and where they may be put. -/
inductive Changed (may : Location → Entry → Prop) (before : Disk) : Disk → Prop
  | same : Changed may before before
  | put {after : Disk} {place : Location} {entry : Entry} (earlier : Changed may before after)
      (fits : after.Fits place entry) (allowed : may place entry) :
      Changed may before (after.set place entry)

/-- Only files may be put anywhere. -/
def FilesOnly (may : Location → Entry → Prop) : Prop :=
  ∀ place entry, may place entry → entry ≠ .directory

/-- Nothing may be put where a path leads. -/
def Keeps (disk : Disk) (may : Location → Entry → Prop) (path : Path) : Prop :=
  ∀ place, disk.place? path = some place → ∀ entry, ¬ may place entry

/-- A file with some bytes may be put where a path leads. -/
def Takes (disk : Disk) (may : Location → Entry → Prop) (path : Path) (content : Text.Bytes) :
    Prop :=
  ∀ place, disk.place? path = some place → ∀ executable, may place (.file content executable)

namespace Fits

variable {disk : Disk} {place : Location} {entry : Entry}

/-- Something fits only where nothing is, or a file. -/
theorem entry? (fits : disk.Fits place entry) :
    disk.entry? place = none ∨ ∃ content executable,
      disk.entry? place = some (.file content executable) := by
  cases fits with
  | replace there => exact .inr ⟨_, _, there⟩
  | newFile _ nothing => exact .inl nothing
  | newDirectory _ nothing => exact .inl nothing

/-- Whatever fits somewhere fits below the root. -/
theorem below (fits : disk.Fits place entry) : place ≠ [] := by
  -- The root is a directory, over which nothing is put.
  rintro rfl
  obtain nothing | ⟨_, _, there⟩ := fits.entry?
  · cases nothing
  · cases there

/-- In a tree, whatever fits has a directory above it. -/
theorem inside (tree : disk.IsTree) (fits : disk.Fits place entry) :
    disk.entry? place.dropLast = some .directory := by
  cases fits with
  | replace there => exact tree.entry?_dropLast there
  | newFile inside _ => exact inside
  | newDirectory inside _ => exact inside

/-- Where something other than a file is, nothing fits, so that it stays. -/
theorem kept (fits : disk.Fits place entry) {other : Location} {there : Entry}
    (noFile : ∀ content executable, there ≠ .file content executable)
    (held : disk.entry? other = some there) :
    Disk.entry? (disk.set place entry) other = some there := by
  -- The only place that changes is the one where it fits, and there is a file there or nothing.
  rw [entry?_set disk fits.below]
  split
  · rename_i here
    subst here
    obtain nothing | ⟨content, executable, file⟩ := fits.entry?
    · cases held.symm.trans nothing
    · exact absurd (Option.some.inj (held.symm.trans file)) (noFile content executable)
  · exact held

end Fits

/-- Of the entries with one set, each is that one or was there before. -/
theorem mem_put {entries : List (Location × Entry)} {location : Location} {entry : Entry}
    {pair : Location × Entry} (among : pair ∈ put entries location entry) :
    pair ∈ entries ∨ pair = (location, entry) := by
  -- Either the entry takes the turn of the first, or it goes in among the rest.
  induction entries with
  | nil => exact .inr (List.mem_singleton.mp among)
  | cons first rest ih =>
    rw [put] at among
    split at among
    · obtain rfl | later := List.mem_cons.mp among
      · exact .inr rfl
      · exact .inl (List.mem_cons_of_mem _ later)
    · obtain rfl | later := List.mem_cons.mp among
      · exact .inl List.mem_cons_self
      · exact (ih later).imp_left (List.mem_cons_of_mem _)

/-- A tree stays one when something is put where it fits. -/
theorem IsTree.set {disk : Disk} (tree : disk.IsTree) {place : Location} {entry : Entry}
    (fits : disk.Fits place entry) : (disk.set place entry).IsTree where
  workDir := fits.kept (by simp) tree.workDir
  above := by
    -- What is above an entry was a directory before, and the new one fits in a directory.
    intro pair among
    apply fits.kept (by simp)
    obtain old | rfl := mem_put among
    · exact tree.above pair old
    · exact fits.inside tree

/-- The names in a directory are the same when something is put elsewhere. -/
theorem namesIn_set (disk : Disk) {place location : Location} (entry : Entry)
    (elsewhere : place.dropLast ≠ location) :
    namesIn (disk.set place entry) location = disk.namesIn location := by
  -- Of each entry only the place counts, so it is enough that the new place is passed over.
  have passed (entries : List (Location × Entry)) :
      ((put entries place entry).filterMap fun held =>
        if held.1 ≠ [] ∧ held.1.dropLast = location then held.1.getLast? else none) =
      entries.filterMap fun held =>
        if held.1 ≠ [] ∧ held.1.dropLast = location then held.1.getLast? else none := by
    induction entries with
    | nil => simp [put, elsewhere]
    | cons first rest ih =>
      rw [put]
      split
      · rename_i here
        simp [here, elsewhere]
      · simp only [List.filterMap_cons, ih]
  exact congrArg (fun names => names.mergeSort fun a b => !(b < a : Bool)) (passed disk.entries)

/-- Whether a file may be run is the same wherever something is put. -/
theorem isExecutableAt_set {disk : Disk} {place : Location} {entry : Entry}
    (fits : disk.Fits place entry) (other : Location) :
    isExecutableAt (disk.set place entry) other = disk.isExecutableAt other := by
  simp only [isExecutableAt, entry?_set disk fits.below]
  by_cases here : other = place
  · subst here
    rw [if_pos rfl]
    -- A file put over another keeps what it may, and anything new may not be run.
    cases fits with
    | replace there => rw [there]
    | newFile _ nothing => rw [nothing]
    | newDirectory _ nothing => rw [nothing]
  · rw [if_neg here]

/-- What some bytes would leave at a place is the same wherever something is put. -/
theorem entryWith_set {disk : Disk} {place : Location} {entry : Entry}
    (fits : disk.Fits place entry) (other : Location) (content : Text.Bytes) :
    entryWith (disk.set place entry) other content = disk.entryWith other content := by
  simp only [entryWith, isExecutableAt_set fits, entry?_set disk fits.below]
  by_cases here : other = place
  · subst here
    rw [if_pos rfl]
    -- There is no device at the place, neither before nor after.
    cases fits with
    | replace there => rw [there]
    | newFile _ nothing => rw [nothing]
    | newDirectory _ nothing => rw [nothing]
  · rw [if_neg here]

namespace Changed

variable {may : Location → Entry → Prop} {before after : Disk}

/-- What may be put where may be widened. -/
theorem mono {more : Location → Entry → Prop} (changed : Changed may before after)
    (wider : ∀ place entry, may place entry → more place entry) : Changed more before after := by
  induction changed with
  | same => exact .same
  | put _ fits allowed ih => exact .put ih fits (wider _ _ allowed)

/-- Changes after changes are changes. -/
theorem trans {last : Disk} (changed : Changed may before after)
    (again : Changed may after last) : Changed may before last := by
  -- The later changes are added one by one to the earlier ones.
  induction again with
  | same => exact changed
  | put _ fits allowed ih => exact .put ih fits allowed

/-- Relative paths start where they did. -/
theorem workDir (changed : Changed may before after) : after.workDir = before.workDir := by
  induction changed with
  | same => rfl
  | put _ _ _ ih => exact ih

/-- A tree stays one. -/
theorem isTree (changed : Changed may before after) (tree : before.IsTree) : after.IsTree := by
  induction changed with
  | same => exact tree
  | put _ fits _ ih => exact ih.set fits

/-- Directories and devices stay. -/
theorem held (changed : Changed may before after) {place : Location} {there : Entry}
    (noFile : ∀ content executable, there ≠ .file content executable)
    (held : before.entry? place = some there) : after.entry? place = some there := by
  induction changed with
  | same => exact held
  | put _ fits _ ih => exact fits.kept noFile ih

/-- Directories stay. -/
theorem directory (changed : Changed may before after) {place : Location}
    (there : before.entry? place = some .directory) : after.entry? place = some .directory :=
  changed.held (by simp) there

/-- Nothing is ever gone. -/
theorem isSome (changed : Changed may before after) {place : Location}
    (there : (before.entry? place).isSome) : (after.entry? place).isSome := by
  -- Each change fills one place, and all other places are as they were.
  induction changed with
  | same => exact there
  | put _ fits _ ih =>
    rw [entry?_set _ fits.below]
    split
    · rfl
    · exact ih

/-- Where nothing may be put, everything is as it was. -/
theorem kept (changed : Changed may before after) {place : Location}
    (never : ∀ entry, ¬ may place entry) : after.entry? place = before.entry? place := by
  induction changed with
  | same => rfl
  | put _ fits allowed ih =>
    -- The place of the change is one where something may be put, so it is another one.
    rw [entry?_set _ fits.below, if_neg, ih]
    rintro rfl
    exact never _ allowed

/-- What has changed at a place is something that may be put there. -/
theorem eq_or_may (changed : Changed may before after) (place : Location) :
    after.entry? place = before.entry? place ∨
      ∃ entry, after.entry? place = some entry ∧ may place entry := by
  induction changed with
  | same => exact .inl rfl
  | put _ fits allowed ih =>
    -- What is there now is what was put last, or what the changes before have left.
    rw [entry?_set _ fits.below]
    split
    · rename_i here
      subst here
      exact .inr ⟨_, rfl, allowed⟩
    · exact ih

/-- Where only files may be put, no directory is new, and so no device either. -/
theorem directory_iff (changed : Changed may before after) (files : FilesOnly may)
    (place : Location) :
    after.entry? place = some .directory ↔ before.entry? place = some .directory := by
  constructor
  · intro there
    obtain same | ⟨entry, put, allowed⟩ := changed.eq_or_may place
    · rw [← same, there]
    · -- Were it new, it would be a directory that may be put.
      obtain rfl : entry = .directory := Option.some.inj (put.symm.trans there)
      exact absurd rfl (files place _ allowed)
  · exact changed.directory

/-- What some bytes would leave at a place is as it was. -/
theorem entryWith (changed : Changed may before after) (place : Location)
    (content : Text.Bytes) : after.entryWith place content = before.entryWith place content := by
  induction changed with
  | same => rfl
  | put _ fits _ ih => rw [entryWith_set fits, ih]

/-- A directory that nothing may be put in has the names it had. -/
theorem namesIn (changed : Changed may before after) {location : Location}
    (never : ∀ place entry, may place entry → place.dropLast ≠ location) :
    after.namesIn location = before.namesIn location := by
  induction changed with
  | same => rfl
  | put _ _ allowed ih => rw [namesIn_set _ _ (never _ _ allowed), ih]

/-- Paths start where they did. -/
theorem start (changed : Changed may before after) (anchor : Anchor) :
    after.start anchor = before.start anchor := by
  simp only [Disk.start, changed.workDir]

/-- Names that led somewhere still lead there. -/
theorem walk_eq_ok (changed : Changed may before after) {here : Location} {names : List String}
    {found : Spot} (led : before.walk here names = .ok found) :
    after.walk here names = .ok (after.spotAt found.location) := by
  -- On its way a walk asks only for directories and for what is there, and both stay.
  induction names generalizing here with
  | nil =>
    obtain ⟨entry, there, rfl⟩ := walk_nil_eq_ok_iff.mp led
    have still : (after.entry? here).isSome := changed.isSome (by rw [there]; rfl)
    obtain ⟨later, held⟩ := Option.isSome_iff_exists.mp still
    exact walk_nil_eq_ok_iff.mpr ⟨later, held, by simp [spotAt, Spot.location, held]⟩
  | cons name rest ih =>
    rw [walk_cons_eq_iff] at led ⊢
    cases led with
    | up inside up onward => exact .up (changed.directory inside) up (ih onward)
    | down inside other short there onward =>
      exact .down (changed.directory inside) other short (changed.isSome there) (ih onward)
    | free inside other short _ last =>
      -- The walk has come to its end at a free place, which may have been filled since.
      have inside := changed.directory inside
      subst last
      rw [Spot.location, spotAt]
      cases held : after.entry? (here ++ [name]) with
      | none => exact .free inside other short held rfl
      | some entry =>
        exact .down inside other short (by rw [held]; rfl) (walk_nil_eq_ok_iff.mpr ⟨_, held, rfl⟩)

/-- A path that led to a place still leads there. -/
theorem place?_eq_some (changed : Changed may before after) {path : Path} {place : Location}
    (leads : before.place? path = some place) : after.place? path = some place := by
  obtain ⟨short, led⟩ := spot_eq_ok_iff.mp (place?_eq_some_iff.mp leads)
  have later := changed.walk_eq_ok led
  rw [spotAt_location, ← changed.start] at later
  exact place?_eq_some_iff.mpr (spot_eq_ok_iff.mpr ⟨short, later⟩)

/-- Where only files may be put, names that led nowhere still do, for as grave a cause. -/
theorem walk_eq_error (changed : Changed may before after) (files : FilesOnly may)
    (tree : before.IsTree) {here : Location} {names : List String} {cause : OsCause}
    (there : before.entry? here ≠ none) (led : before.walk here names = .error cause) :
    ∃ later, after.walk here names = .error later ∧
      (later = cause ∨ isAbsence later = true ∧ isAbsence cause = true) := by
  -- The walk stays among what was there before, until it ends at the latest where nothing was.
  induction names generalizing here with
  | nil => exact absurd (walk_nil_eq_error_iff.mp led).1 there
  | cons name rest ih =>
    simp only [walk_cons_eq_iff] at led ⊢
    cases led with
    | outside outside =>
      exact ⟨_, .outside (mt (changed.directory_iff files here).mp outside), .inl rfl⟩
    | up inside up onward =>
      obtain ⟨later, lost, alike⟩ := ih (by rw [tree.entry?_dropLast inside]; simp) onward
      exact ⟨later, .up (changed.directory inside) up lost, alike⟩
    | long inside other long => exact ⟨_, .long (changed.directory inside) other long, .inl rfl⟩
    | down inside other short held onward =>
      obtain ⟨later, lost, alike⟩ := ih (Option.isSome_iff_ne_none.mp held) onward
      exact ⟨later, .down (changed.directory inside) other short (changed.isSome held) lost, alike⟩
    | lost inside other short nothing more =>
      have inside := changed.directory inside
      cases still : after.entry? (here ++ [name]) with
      | none => exact ⟨_, .lost inside other short still more, .inl rfl⟩
      | some entry =>
        -- A file that has come into the way is no directory to go on from.
        have outside : after.entry? (here ++ [name]) ≠ some .directory := by
          rw [ne_eq, changed.directory_iff files, nothing]
          simp
        obtain ⟨next, further, rfl⟩ := List.exists_cons_of_ne_nil more
        have stops : after.walk (here ++ [name]) (next :: further) = .error .notDirectory :=
          walk_cons_eq_iff.mpr (.outside outside)
        exact ⟨_, .down inside other short (by rw [still]; rfl) stops, .inr ⟨rfl, rfl⟩⟩

/-- Where only files may be put, every path leads where it led, or nowhere as before. -/
theorem place?_eq (changed : Changed may before after) (files : FilesOnly may)
    (tree : before.IsTree) (path : Path) : after.place? path = before.place? path := by
  cases leads : before.place? path with
  | some place => exact changed.place?_eq_some leads
  | none =>
    cases later : after.place? path with
    | none => rfl
    | some place =>
      -- A path that leads nowhere is too long or its names lead nowhere, then as now.
      obtain ⟨short, found⟩ := spot_eq_ok_iff.mp (place?_eq_some_iff.mp later)
      obtain ⟨cause, led⟩ := spot_of_place?_eq_none leads
      cases walked : before.walk (before.start path.anchor) path.parts with
      | ok before =>
        rw [spot_eq_ok_iff.mpr ⟨short, walked⟩] at led
        cases led
      | error cause =>
        obtain ⟨cause, lost, _⟩ := changed.walk_eq_error files tree
          (by rw [tree.entry?_start]; simp) walked
        rw [← changed.start, found] at lost
        cases lost

/-- Where only files may be put, and not where a path leads, a look at it gives what it gave. -/
theorem look_eq (changed : Changed may before after) (files : FilesOnly may)
    (tree : before.IsTree) {path : Path}
    (kept : ∀ place, before.place? path = some place →
      after.entry? place = before.entry? place) :
    after.look path = before.look path := by
  cases nul : hasNul path with
  | true => simp [look, nul]
  | false =>
    cases leads : before.place? path with
    | some place =>
      rw [look_of_place? nul leads, look_of_place? nul (changed.place?_eq_some leads),
        kept place leads]
    | none =>
      -- The cause may be another one, but if so it is an absence both times.
      obtain ⟨cause, led⟩ := spot_of_place?_eq_none leads
      simp only [look, nul, Bool.false_eq_true, if_false, led]
      rw [spot] at led ⊢
      split at led
      · rename_i long
        cases led
        rw [if_pos long]
      · rename_i short
        rw [if_neg short]
        obtain ⟨later, lost, same | absent⟩ := changed.walk_eq_error files tree
          (by exact (tree.entry?_start path.anchor).symm ▸ by simp) led
        · rw [changed.workDir, lost, same]
        · rw [changed.workDir, lost]
          simp [absent]

/-- Where only files may be put, a path leads to a directory where it led to one. -/
theorem look_eq_directory_iff (changed : Changed may before after) (files : FilesOnly may)
    (tree : before.IsTree) (path : Path) :
    after.look path = .ok (some .directory) ↔ before.look path = .ok (some .directory) := by
  simp only [look_eq_some_iff, changed.place?_eq files tree, changed.directory_iff files]

/-- Where only files may be put, and not where a path leads, reading it gives what it gave. -/
theorem readFile_eq_ok_iff (changed : Changed may before after) (files : FilesOnly may)
    (tree : before.IsTree) {path : Path} {content : Text.Bytes}
    (kept : ∀ place, before.place? path = some place →
      after.entry? place = before.entry? place) :
    after.readFile path = .ok content ↔ before.readFile path = .ok content := by
  -- The path leads where it led, and what is there is the same.
  rw [Disk.readFile_eq_ok_iff, Disk.readFile_eq_ok_iff, changed.place?_eq files tree]
  constructor
  · rintro ⟨free, place, leads, holds⟩
    exact ⟨free, place, leads, by rw [← kept place leads, holds]⟩
  · rintro ⟨free, place, leads, holds⟩
    exact ⟨free, place, leads, by rw [kept place leads, holds]⟩

end Changed

/-- A file with some bytes, and nothing else, at one place, and nowhere else. -/
def FileAt (place : Location) (content : Text.Bytes) (other : Location) (entry : Entry) : Prop :=
  other = place ∧ ∃ executable, entry = .file content executable

/-- Writing changes the one place that the path leads to, and leaves the bytes there. -/
theorem changed_of_writeFile {disk after : Disk} {path : Path} {content : Text.Bytes}
    (written : disk.writeFile path content = .ok after) :
    ∃ place, disk.place? path = some place ∧ Changed (FileAt place content) disk after ∧
      after.entry? place = some (disk.entryWith place content) := by
  obtain ⟨_, place, leads, written⟩ := writeFile_eq_ok_iff.mp written
  -- What is at the place decides: a device takes the bytes in, and a file is put there otherwise.
  refine ⟨place, leads, ?_⟩
  unfold writeAt? at written
  unfold entryWith
  split at written
  · cases written
  · rename_i device
    cases written
    exact ⟨.same, by rw [device]⟩
  · rename_i noDirectory noDevice
    cases written
    -- A file may be there already, or nothing in a directory.
    have fits : disk.Fits place (.file content (disk.isExecutableAt place)) := by
      cases there : disk.entry? place with
      | none =>
        simp only [isExecutableAt, there]
        exact .newFile (inside_of_place? leads there) there
      | some entry =>
        cases entry with
        | directory => exact absurd there noDirectory
        | device => exact absurd there noDevice
        | file earlier executable =>
          simp only [isExecutableAt, there]
          exact .replace there
    refine ⟨.put .same fits ⟨rfl, _, rfl⟩, ?_⟩
    rw [entry?_set _ fits.below, if_pos rfl]
    split
    · rename_i device
      exact absurd device noDevice
    · rfl

/-- What is written to anything but a device can be read again. -/
theorem readFile_of_writeFile {disk after : Disk} {path : Path} {content : Text.Bytes}
    (written : disk.writeFile path content = .ok after)
    (noDevice : after.look path ≠ .ok (some .device)) : after.readFile path = .ok content := by
  -- The path still leads to the place, and what the bytes have left there is a file with them.
  obtain ⟨place, leads, changed, holds⟩ := changed_of_writeFile written
  have free := (writeFile_eq_ok_iff.mp written).1
  have leadsAfter := changed.place?_eq_some leads
  rw [look_of_place? free leadsAfter, holds] at noDevice
  rw [readFile_eq_ok_iff]
  refine ⟨free, place, leadsAfter, ?_⟩
  rw [holds]
  unfold entryWith at noDevice ⊢
  split
  · rename_i device
    rw [device] at noDevice
    exact absurd rfl noDevice
  · rfl

end Disk

end Themer
