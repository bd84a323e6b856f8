import Themer.Proofs.Disk.Changed

/-!
Directories made where they are missing, and nothing else touched.

A directory is made after those it lies in, so that each new one is one of these, as it is spelled.
None of them is made where more of them are missing than there are levels left.
-/

namespace Themer

/-- A path is spelled as the beginning of another: it is that one, or the other lies in it. -/
def Path.Begins (path other : Path) : Prop :=
  path.anchor = other.anchor ∧ path.parts <+: other.parts

/-- The names before the last one are a beginning, and so is each beginning of these. -/
theorem Path.Begins.above {path : Path} {anchor : Anchor} {name : String} {above : List String}
    (begins : path.Begins ⟨anchor, above.reverse⟩) :
    path.Begins ⟨anchor, (name :: above).reverse⟩ := by
  -- Given from the last one on, the names before the last come first once they are turned round.
  refine ⟨begins.1, begins.2.trans ?_⟩
  rw [List.reverse_cons]
  exact List.prefix_append _ _

namespace Disk

/-- A directory, at whatever place. -/
def DirectoryAnywhere (_ : Location) (entry : Entry) : Prop :=
  entry = .directory

/-- A later tree that has new directories at most: everything that was there is as it was. -/
structure OnlyDirectoriesNew (before after : Disk) : Prop where
  kept : ∀ place, after.entry? place = before.entry? place ∨
    before.entry? place = none ∧ after.entry? place = some .directory
  workDir : after.workDir = before.workDir

/-- A tree has nothing new compared with itself. -/
theorem OnlyDirectoriesNew.refl (disk : Disk) : OnlyDirectoriesNew disk disk :=
  ⟨fun _ => .inl rfl, rfl⟩

/-- Where only directories are put, they are all that is new. -/
theorem Changed.onlyDirectoriesNew {before after : Disk}
    (changed : Changed DirectoryAnywhere before after) : OnlyDirectoriesNew before after where
  workDir := changed.workDir
  kept place := by
    induction changed with
    | same => exact .inl rfl
    | @put middle other entry earlier fits allowed ih =>
      obtain rfl : entry = .directory := allowed
      rw [entry?_set _ fits.below]
      by_cases here : place = other
      · -- A directory fits only where nothing was, and so nothing was there at first.
        subst here
        rw [if_pos rfl]
        cases fits with
        | newDirectory _ nothing =>
          obtain same | ⟨absent, _⟩ := ih
          · exact .inr ⟨same.symm.trans nothing, rfl⟩
          · exact .inr ⟨absent, rfl⟩
      · rw [if_neg here]
        exact ih

/--
A later tree with new directories only, where some paths lead.

What was there before is as it was.
-/
structure GrownAt (paths : Path → Prop) (before after : Disk) : Prop where
  changed : Changed DirectoryAnywhere before after
  named : ∀ place, before.entry? place = none → after.entry? place ≠ none →
    ∃ path, paths path ∧ after.place? path = some place

namespace GrownAt

variable {paths : Path → Prop} {before after : Disk}

/-- Nothing is new in a tree compared with itself. -/
theorem refl (paths : Path → Prop) (disk : Disk) : GrownAt paths disk disk :=
  ⟨.same, fun _ nothing there => absurd nothing there⟩

/-- New directories after new directories are where one or the other of them were to be. -/
theorem trans {last : Disk} (first : GrownAt paths before after)
    (second : GrownAt paths after last) : GrownAt paths before last := by
  refine ⟨first.changed.trans second.changed, ?_⟩
  intro place nothing there
  by_cases between : after.entry? place = none
  · exact second.named place between there
  · -- What was new in between is where it was, and so its path still leads there.
    obtain ⟨path, known, leads⟩ := first.named place nothing between
    exact ⟨path, known, second.changed.place?_eq_some leads⟩

/-- The paths may be taken for more than they are. -/
theorem mono {more : Path → Prop} (grown : GrownAt paths before after)
    (wider : ∀ path, paths path → more path) : GrownAt more before after := by
  refine ⟨grown.changed, ?_⟩
  intro place nothing there
  obtain ⟨path, known, leads⟩ := grown.named place nothing there
  exact ⟨path, wider path known, leads⟩

/-- What is there, whatever it is, is there unchanged later. -/
theorem kept (grown : GrownAt paths before after) {place : Location} {entry : Entry}
    (there : before.entry? place = some entry) : after.entry? place = some entry := by
  rcases grown.changed.onlyDirectoriesNew.kept place with same | ⟨nothing, _⟩
  · rw [same, there]
  · cases nothing.symm.trans there

/-- What is new is a directory. -/
theorem isDirectory (grown : GrownAt paths before after) {place : Location}
    (nothing : before.entry? place = none) (there : after.entry? place ≠ none) :
    after.entry? place = some .directory := by
  rcases grown.changed.onlyDirectoriesNew.kept place with same | ⟨_, new⟩
  · exact absurd (same.trans nothing) there
  · exact new

end GrownAt

/-- Making a directory puts it where nothing was. -/
theorem makeDirectory_eq_ok_iff {disk after : Disk} {path : Path} :
    disk.makeDirectory path = .ok after ↔
      hasNul path = false ∧ ∃ place, disk.place? path = some place ∧
        disk.entry? place = none ∧ after = disk.set place .directory := by
  -- Only a free place takes a directory, and a path leads to one where it has a place at all.
  unfold makeDirectory
  cases nul : hasNul path with
  | true => simp
  | false =>
    simp only [Bool.false_eq_true, if_false, true_and]
    cases leads : disk.place? path with
    | none =>
      obtain ⟨cause, led⟩ := spot_of_place?_eq_none leads
      simp [led]
    | some place =>
      rw [place?_eq_some_iff.mp leads, spotAt]
      cases there : disk.entry? place <;> simp [there, eq_comm]

variable {disk after : Disk} {path : Path}

/-- A directory that is made is put where it fits. -/
theorem changed_of_makeDirectory (made : disk.makeDirectory path = .ok after) :
    Changed DirectoryAnywhere disk after := by
  obtain ⟨_, place, leads, nothing, rfl⟩ := makeDirectory_eq_ok_iff.mp made
  exact .put .same (.newDirectory (inside_of_place? leads nothing) nothing) rfl

/-- Where a directory is called for, there is one already, or it is made. -/
theorem ensureDirectory_eq_ok (ensured : disk.ensureDirectory path = .ok after) :
    disk.makeDirectory path = .ok after ∨
      after = disk ∧ disk.look path = .ok (some .directory) := by
  -- The system is only asked for what is there once it has refused to make a directory.
  unfold ensureDirectory at ensured
  cases made : disk.makeDirectory path with
  | ok new =>
    rw [made] at ensured
    exact .inl ensured
  | error denial =>
    cases denial with
    | nulByte | tooDeep =>
      rw [made] at ensured
      cases ensured
    | os e =>
      rw [made] at ensured
      dsimp only at ensured
      split at ensured
      · rename_i found
        cases ensured
        -- That it is a directory was seen by looking at it.
        refine .inr ⟨rfl, ?_⟩
        have seen := found.2
        unfold isDirectory at seen
        cases looked : disk.look path with
        | error e => simp [looked, Except.map, Except.toOption] at seen
        | ok entry =>
          simp only [looked, Except.map, Except.toOption, Option.some.injEq,
            beq_iff_eq] at seen
          rw [seen]
      · cases ensured

/-- A directory that is called for is put where it fits, if at all. -/
theorem changed_of_ensureDirectory (ensured : disk.ensureDirectory path = .ok after) :
    Changed DirectoryAnywhere disk after := by
  obtain made | ⟨rfl, _⟩ := ensureDirectory_eq_ok ensured
  · exact changed_of_makeDirectory made
  · exact .same

/-- A directory that is called for at a path is new there, if it is. -/
theorem grownAt_of_ensureDirectory {paths : Path → Prop} (known : paths path)
    (ensured : disk.ensureDirectory path = .ok after) : GrownAt paths disk after := by
  have changed := changed_of_ensureDirectory ensured
  refine ⟨changed, ?_⟩
  intro place nothing there
  rcases ensureDirectory_eq_ok ensured with made | ⟨rfl, _⟩
  · obtain ⟨_, own, leads, absent, rfl⟩ := makeDirectory_eq_ok_iff.mp made
    -- Of all places, only the one that the path leads to has something new.
    rw [entry?_set disk (below_of_nothing absent)] at there
    split at there
    · rename_i here
      exact ⟨path, known, here ▸ changed.place?_eq_some leads⟩
    · exact absurd nothing there
  · exact absurd nothing there

/-- However far the directories of a path can be made, they are where its beginnings lead. -/
theorem grownAt_of_ensureUpwards (anchor : Anchor) (levels : Nat) (names : List String)
    (disk : Disk) :
    GrownAt (fun path => path.Begins ⟨anchor, names.reverse⟩) disk
      (ensureUpwards anchor levels names disk).2 := by
  -- The names are given from the last one on, and the induction takes the last ones off.
  induction names generalizing levels disk with
  | nil =>
    rw [ensureUpwards]
    cases ensured : disk.ensureDirectory ⟨anchor, []⟩ with
    | ok after => exact grownAt_of_ensureDirectory ⟨rfl, List.prefix_rfl⟩ ensured
    | error denial => exact .refl _ disk
  | cons name above ih =>
    have self : Path.Begins ⟨anchor, (name :: above).reverse⟩ ⟨anchor, (name :: above).reverse⟩ :=
      ⟨rfl, List.prefix_rfl⟩
    rw [ensureUpwards.eq_def]
    dsimp only
    cases ensured : disk.ensureDirectory ⟨anchor, (name :: above).reverse⟩ with
    | ok after => exact grownAt_of_ensureDirectory self ensured
    | error denial =>
      cases denial with
      | nulByte | tooDeep => exact .refl _ disk
      | os e =>
        dsimp only
        split
        · cases levels with
          | zero => exact .refl _ disk
          | succ levels =>
            -- What was made above stays, whatever becomes of the directory itself after that.
            have higher : GrownAt (fun path => path.Begins ⟨anchor, (name :: above).reverse⟩) disk
                (ensureUpwards anchor levels above disk).2 :=
              (ih levels disk).mono fun _ begins => begins.above
            dsimp only
            cases upwards : ensureUpwards anchor levels above disk with
            | mk made between =>
              rw [upwards] at higher
              cases made with
              | error e => exact higher
              | ok done =>
                dsimp only
                cases again : between.ensureDirectory ⟨anchor, (name :: above).reverse⟩ with
                | ok after => exact higher.trans (grownAt_of_ensureDirectory self again)
                | error e => exact higher
        · exact .refl _ disk

/-- A directory and those it lies in are new, if they are, where the beginnings of its path lead. -/
theorem grownAt_of_ensurePath (disk : Disk) (levels : Nat) (path : Path) :
    GrownAt (fun other => other.Begins path) disk (disk.ensurePath levels path).2 := by
  have grown := grownAt_of_ensureUpwards path.anchor levels path.parts.reverse disk
  rwa [List.reverse_reverse] at grown

/-- Making a directory with those above it puts nothing but directories. -/
theorem changed_of_ensurePath (disk : Disk) (levels : Nat) (path : Path) :
    Changed DirectoryAnywhere disk (disk.ensurePath levels path).2 :=
  (grownAt_of_ensurePath disk levels path).changed

/-- Directories are still seen where they were, whatever was put since. -/
theorem Changed.look_directory {may : Location → Entry → Prop} (changed : Changed may disk after)
    (seen : disk.look path = .ok (some .directory)) :
    after.look path = .ok (some .directory) := by
  obtain ⟨free, place, leads, there⟩ := look_eq_some_iff.mp seen
  exact look_eq_some_iff.mpr
    ⟨free, place, changed.place?_eq_some leads, changed.directory there⟩

/-- Once a directory was called for, it is there. -/
theorem look_of_ensureDirectory (ensured : disk.ensureDirectory path = .ok after) :
    after.look path = .ok (some .directory) := by
  obtain made | ⟨rfl, seen⟩ := ensureDirectory_eq_ok ensured
  · have changed := changed_of_makeDirectory made
    obtain ⟨free, place, leads, nothing, rfl⟩ := makeDirectory_eq_ok_iff.mp made
    -- The path leads where it led, and there the directory is now.
    refine look_eq_some_iff.mpr ⟨free, place, changed.place?_eq_some leads, ?_⟩
    rw [entry?_set _ (below_of_nothing nothing), if_pos rfl]
  · exact seen

/-- Once a directory was called for with those above it, it is there. -/
theorem look_of_ensurePath {levels : Nat}
    (ensured : disk.ensurePath levels path = (.ok (), after)) :
    after.look path = .ok (some .directory) := by
  -- However many directories were made above, the path itself was called for last.
  have last : ∀ (names : List String) (before : Disk),
      ensureUpwards path.anchor levels names before = (.ok (), after) →
        after.look ⟨path.anchor, names.reverse⟩ = .ok (some .directory) := by
    intro names before upwards
    cases names with
    | nil =>
      rw [ensureUpwards] at upwards
      split at upwards <;> cases upwards
      rename_i ensured
      exact look_of_ensureDirectory ensured
    | cons name above =>
      rw [ensureUpwards.eq_def] at upwards
      dsimp only at upwards
      split at upwards
      · rename_i ensured
        cases upwards
        exact look_of_ensureDirectory ensured
      · split at upwards
        · split at upwards
          · cases upwards
          · split at upwards
            · split at upwards <;> cases upwards
              rename_i ensured
              exact look_of_ensureDirectory ensured
            · rename_i failed
              exact absurd upwards (failed () after)
        · cases upwards
      · cases upwards
  simpa using last path.parts.reverse disk ensured

/-- The path itself is called for first, and nothing else is unless the system refuses it. -/
theorem ensurePath_of_first {outcome : Except Denial Disk}
    (first : disk.ensureDirectory path = outcome) (settled : ∀ e, outcome ≠ .error (.os e))
    (levels : Nat) :
    disk.ensurePath levels path = (outcome.map fun _ => (), outcome.toOption.getD disk) := by
  -- The path is its names in reverse twice over, and it is the first that is tried.
  unfold ensurePath
  cases names : path.parts.reverse with
  | nil =>
    have whole : (⟨path.anchor, []⟩ : Path) = path := by
      rw [List.reverse_eq_nil_iff] at names
      rw [← names]
    rw [ensureUpwards, whole, first]
    cases outcome <;> rfl
  | cons name above =>
    have whole : (⟨path.anchor, (name :: above).reverse⟩ : Path) = path := by
      rw [← names, List.reverse_reverse]
    rw [ensureUpwards.eq_def]
    dsimp only
    rw [whole, first]
    cases outcome with
    | ok after => rfl
    | error denial =>
      cases denial with
      | os e => exact absurd rfl (settled e)
      | nulByte | tooDeep => rfl

/-- A directory that is there is called for in vain. -/
theorem ensurePath_of_look (seen : disk.look path = .ok (some .directory)) (levels : Nat) :
    disk.ensurePath levels path = (.ok (), disk) := by
  obtain ⟨free, place, leads, there⟩ := look_eq_some_iff.mp seen
  -- It cannot be made where it is, and then it is seen to be a directory.
  have taken : disk.spot path = .ok (.taken place .directory) := by
    rw [place?_eq_some_iff.mp leads, spotAt, there]
  have refused : disk.makeDirectory path = .error (refuse .alreadyThere path) := by
    simp [makeDirectory, free, taken]
  have found : (disk.isDirectory path).toOption = some true := by
    rw [isDirectory, seen]
    rfl
  have ensured : disk.ensureDirectory path = .ok disk := by
    unfold ensureDirectory
    rw [refused]
    simp [refuse, found]
  rw [ensurePath_of_first ensured (by simp)]
  rfl

/-- Making a directory at a path without a NUL is refused by the system alone. -/
theorem makeDirectory_refused {denial : Denial} (free : hasNul path = false)
    (refused : disk.makeDirectory path = .error denial) : ∃ e, denial = .os e := by
  rw [makeDirectory, free] at refused
  simp only [Bool.false_eq_true, if_false] at refused
  split at refused <;> cases refused <;> exact ⟨_, rfl⟩

/-- A directory that is refused for want of what it lies in has none of that in the tree. -/
theorem spot_of_ensureDirectory {e : OsError}
    (refused : disk.ensureDirectory path = .error (.os e)) (missing : e.cause = .notFound) :
    disk.spot path = .error .notFound := by
  have made : disk.makeDirectory path = .error (.os e) := by
    unfold ensureDirectory at refused
    split at refused
    · split at refused <;> cases refused
      assumption
    · exact refused
  unfold makeDirectory at made
  split at made
  · cases made
  · -- A place that is taken refuses for another cause, and a free one does not refuse.
    cases led : disk.spot path with
    | ok spot =>
      rw [led] at made
      cases spot <;> cases made
      cases missing
    | error cause =>
      rw [led] at made
      cases made
      exact congrArg Except.error missing

/-- A directory that is called for at a path without a NUL is refused by the system alone. -/
theorem ensureDirectory_refused {denial : Denial} (free : hasNul path = false)
    (refused : disk.ensureDirectory path = .error denial) : ∃ e, denial = .os e := by
  -- What is passed on is the refusal to make it, if it is not found to be there.
  unfold ensureDirectory at refused
  cases made : disk.makeDirectory path with
  | ok new =>
    rw [made] at refused
    cases refused
  | error cause =>
    obtain ⟨e, rfl⟩ := makeDirectory_refused free made
    rw [made] at refused
    dsimp only at refused
    split at refused <;> cases refused
    exact ⟨e, rfl⟩

/-- Whether a path lies in more directories that are missing than there are levels left. -/
structure IsTooDeep (disk : Disk) (levels : Nat) (path : Path) : Prop where
  length : levels < path.parts.length
  missing : disk.spot ⟨path.anchor, path.parts.take (path.parts.length - levels)⟩ =
    .error .notFound

/-- Where no name of a path has a NUL, none of those above it has one. -/
theorem hasNul_above {anchor : Anchor} {name : String} {above : List String}
    (free : hasNul ⟨anchor, (name :: above).reverse⟩ = false) :
    hasNul ⟨anchor, above.reverse⟩ = false := by
  simp only [hasNul, List.reverse_cons, List.any_append, Bool.or_eq_false_iff] at free ⊢
  exact free.1

/--
Where no name has a NUL, it is the system that refuses a directory or one it lies in.

Otherwise too many of these are missing, and then none of them is made.
-/
theorem ensureUpwards_refused {anchor : Anchor} {levels : Nat} {names : List String}
    {denial : Denial} (free : hasNul ⟨anchor, names.reverse⟩ = false)
    (refused : ensureUpwards anchor levels names disk = (.error denial, after)) :
    (∃ e, denial = .os e) ∨ denial = .tooDeep ⟨.call⟩ ∧ after = disk ∧
      disk.IsTooDeep levels ⟨anchor, names.reverse⟩ := by
  -- The names above are fewer, and none of them has a NUL either.
  induction names generalizing levels with
  | nil =>
    rw [ensureUpwards] at refused
    split at refused
    · cases refused
    · rename_i ensured
      cases refused
      exact .inl (ensureDirectory_refused free ensured)
  | cons name above ih =>
    rw [ensureUpwards.eq_def] at refused
    dsimp only at refused
    cases ensured : disk.ensureDirectory ⟨anchor, (name :: above).reverse⟩ with
    | ok after =>
      rw [ensured] at refused
      cases refused
    | error cause =>
      obtain ⟨e, rfl⟩ := ensureDirectory_refused free ensured
      rw [ensured] at refused
      dsimp only at refused
      -- The directory itself is refused, or one above it, or itself after those above were made.
      split at refused
      · rename_i missing
        cases levels with
        | zero =>
          cases refused
          refine .inr ⟨rfl, rfl, by simp, ?_⟩
          rw [Nat.sub_zero, List.take_length]
          exact spot_of_ensureDirectory ensured missing
        | succ levels =>
          dsimp only at refused
          cases upwards : ensureUpwards anchor levels above disk with
          | mk made between =>
            rw [upwards] at refused
            cases made with
            | error other =>
              cases refused
              -- Taking the name off takes as many levels off as names.
              refine (ih (hasNul_above free) upwards).imp_right ?_
              rintro ⟨same, unchanged, deep⟩
              refine ⟨same, unchanged, by simpa using deep.length, ?_⟩
              have shorter : (above.length + 1 - (levels + 1)) = above.length - levels := by omega
              have missing := deep.missing
              simp only [List.length_reverse, List.reverse_cons, List.length_append,
                List.length_singleton, shorter] at missing ⊢
              rwa [List.take_append_of_le_length (by simp)]
            | ok done =>
              dsimp only at refused
              split at refused
              · cases refused
              · rename_i again
                cases refused
                exact .inl (ensureDirectory_refused free again)
      · cases refused
        exact .inl ⟨e, rfl⟩

/-- Where a name has a NUL, nothing is made. -/
theorem ensurePath_of_hasNul (nul : hasNul path = true) (levels : Nat) :
    disk.ensurePath levels path = (.error .nulByte, disk) := by
  have denied : disk.ensureDirectory path = .error .nulByte := by
    rw [ensureDirectory, makeDirectory, if_pos nul]
  rw [ensurePath_of_first denied (by simp)]
  rfl

/--
A directory, or one that it lies in, is refused by the system, or for a NUL in its path.

Otherwise it lies too deep, and then nothing is made.
-/
theorem ensurePath_refused {levels : Nat} {denial : Denial}
    (refused : disk.ensurePath levels path = (.error denial, after)) :
    (∃ e, denial = .os e) ∨ (denial = .nulByte ∧ hasNul path = true) ∨
      denial = .tooDeep ⟨.call⟩ ∧ after = disk ∧ disk.IsTooDeep levels path := by
  cases nul : hasNul path with
  | true =>
    rw [ensurePath_of_hasNul nul] at refused
    cases refused
    exact .inr (.inl ⟨rfl, rfl⟩)
  | false =>
    have whole : (⟨path.anchor, path.parts.reverse.reverse⟩ : Path) = path := by
      rw [List.reverse_reverse]
    have ended := ensureUpwards_refused (whole.symm ▸ nul) refused
    rw [whole] at ended
    exact ended.imp_right .inr

/-- Where some names of a path lead nowhere in a tree, more names of it lead nowhere either. -/
theorem spot_take_of_notFound (tree : disk.IsTree) {path : Path}
    (named : ∀ name ∈ path.parts, name ≠ "") (short : path.text.utf8ByteSize < pathLimit)
    {fewer more : Nat} (atMost : fewer ≤ more)
    (missing : disk.spot ⟨path.anchor, path.parts.take fewer⟩ = .error .notFound) :
    disk.spot ⟨path.anchor, path.parts.take more⟩ = .error .notFound := by
  obtain ⟨between, same⟩ : path.parts.take fewer <+: path.parts.take more :=
    List.take_prefix_take_left atMost
  have below (name : String) (among : name ∈ path.parts.drop more) : name ≠ "" :=
    named name (List.mem_of_mem_drop among)
  have fits := Path.text_le_append path.anchor (path.parts.take more) below
  rw [List.take_append_drop] at fits
  rw [← same] at fits ⊢
  exact spot_append_of_notFound tree missing (Nat.lt_of_le_of_lt fits short)

/-- A directory is refused for want of what it lies in where the tree has none of that. -/
theorem ensureDirectory_of_notFound {path : Path} (free : hasNul path = false)
    (missing : disk.spot path = .error .notFound) :
    disk.ensureDirectory path = .error (refuse .notFound path) := by
  simp [ensureDirectory, makeDirectory, free, missing, refuse]

/-- Where more names are missing than there are levels left, none of their directories is made. -/
theorem ensureUpwards_of_notFound {anchor : Anchor} {levels : Nat} {names : List String}
    (free : hasNul ⟨anchor, names.reverse⟩ = false) (length : levels < names.length)
    (missing : ∀ count ≤ levels,
      disk.spot ⟨anchor, (names.drop count).reverse⟩ = .error .notFound) :
    ensureUpwards anchor levels names disk = (.error (.tooDeep ⟨.call⟩), disk) := by
  -- Each directory is refused for want of the one above, until the levels are used up.
  induction names generalizing levels with
  | nil => cases length
  | cons name above ih =>
    rw [ensureUpwards.eq_def]
    dsimp only
    rw [ensureDirectory_of_notFound free (missing 0 (Nat.zero_le _)), refuse]
    dsimp only
    rw [if_pos rfl]
    cases levels with
    | zero => rfl
    | succ levels =>
      rw [List.length_cons] at length
      dsimp only
      rw [ih (hasNul_above free) (by omega) fun count within => missing (count + 1) (by omega)]

/-- A path that lies too deep in a tree is not made, and neither is any directory it lies in. -/
theorem ensurePath_of_isTooDeep (tree : disk.IsTree) {levels : Nat} {path : Path}
    (free : hasNul path = false) (named : ∀ name ∈ path.parts, name ≠ "")
    (short : path.text.utf8ByteSize < pathLimit) (deep : disk.IsTooDeep levels path) :
    disk.ensurePath levels path = (.error (.tooDeep ⟨.call⟩), disk) := by
  have whole : (⟨path.anchor, path.parts.reverse.reverse⟩ : Path) = path := by
    rw [List.reverse_reverse]
  refine ensureUpwards_of_notFound (whole.symm ▸ free) (by simpa using deep.length) ?_
  -- The directories in between lie below one that is missing already.
  intro count within
  rw [List.drop_reverse, List.reverse_reverse]
  exact spot_take_of_notFound tree named short (by omega) deep.missing

end Disk

end Themer
