import Themer.Proofs.Blueprint.Discovered
import Themer.Proofs.Blueprint.Searched

/-!
Blueprints found again by their names: how the search by a name agrees with the discovery.

Both go through the same directories, but the discovery keeps to files.
-/

namespace Themer

namespace Disk

variable {disk : Disk} {directory : Path} {names : List String}

/-- A tree whose names are names: each has something in it but slashes, and none leads up. -/
def HasNames (disk : Disk) : Prop :=
  ∀ pair ∈ disk.entries, ∀ name ∈ pair.1, Path.IsCleanName name ∧ name ≠ ".."

instance (disk : Disk) : Decidable disk.HasNames :=
  inferInstanceAs (Decidable (∀ pair ∈ disk.entries, ∀ name ∈ pair.1,
    Path.IsCleanName name ∧ name ≠ ".."))

/-- What a directory lists are names of the tree. -/
theorem HasNames.of_list (named : disk.HasNames) (listed : disk.list directory = .ok names) :
    ∀ name ∈ names, Path.IsCleanName name ∧ name ≠ ".." := by
  intro name among
  obtain ⟨_, place, _, _, rfl⟩ := list_eq_ok_iff.mp listed
  -- A listed name is the last one of the place of an entry.
  have below : place ++ [name] ≠ [] := by simp
  rw [mem_namesIn, entry?, if_neg below, List.lookup_isSome_iff] at among
  obtain ⟨⟨location, entry⟩, inTree, same⟩ := among
  obtain rfl : place ++ [name] = location := by simpa using same
  exact named _ inTree name (by simp)

end Disk

namespace Blueprint

variable {directories sources : List Path} {session after : Session}

/-- What is discovered are the files that the directories list, of those that can be listed. -/
theorem mem_discover_iff
    (ended : (discover directories).runIn session = (.ok sources, after)) :
    after.disk = session.disk ∧ ∀ path, path ∈ sources ↔
      session.disk.isFile path = .ok true ∧ ∃ directory ∈ directories, ∃ names,
        session.disk.list directory = .ok names ∧ ∃ name ∈ names, directory.entry name = path := by
  -- A directory that cannot be listed is told of, so that the session changes but not its disk.
  induction directories generalizing session sources with
  | nil =>
    cases ended
    exact ⟨rfl, by simp⟩
  | cons directory rest ih =>
    obtain ⟨disk, _, looked, ended⟩ := Work.ok_of_bind ended
    cases looked
    cases listed : session.disk.list directory with
    | ok names =>
      rw [listed] at ended
      obtain ⟨found, between, told, goesOn⟩ := Work.ok_of_bind ended
      obtain ⟨rfl, files⟩ := mem_filesAmong told
      obtain ⟨more, last, others, done⟩ := Work.ok_of_bind goesOn
      cases done
      obtain ⟨same, inOthers⟩ := ih others
      refine ⟨same, fun path => ?_⟩
      -- A file is among the names of this directory, or of one of those after it.
      rw [List.mem_append, files, inOthers, and_comm, ← and_or_left, List.exists_mem_cons_iff]
      simp [listed]
    | error denial =>
      rw [listed] at ended
      cases denial with
      | nulByte | tooDeep => cases ended
      | os e =>
        obtain ⟨_, between, told, others⟩ := Work.ok_of_bind ended
        cases told
        obtain ⟨same, inOthers⟩ := ih others
        refine ⟨same, fun path => ?_⟩
        rw [inOthers, List.exists_mem_cons_iff]
        simp [listed]

/-- Every blueprint is a file of its name in one of the directories. -/
theorem entry_of_mem_discover (named : session.disk.HasNames)
    (ended : (discover directories).runIn session = (.ok sources, after)) {source : Path}
    (among : source ∈ sources) :
    session.disk.isFile source = .ok true ∧
      (∃ directory ∈ directories, source = directory.entry source.name) ∧
      Path.IsCleanName source.name ∧ source.name ≠ ".." := by
  -- It is the entry of a listed name, and by that name it is called.
  obtain ⟨isFile, directory, searched, names, listed, name, inside, rfl⟩ :=
    ((mem_discover_iff ended).2 source).mp among
  rw [Path.name_entry]
  exact ⟨isFile, ⟨directory, searched, rfl⟩, named.of_list listed name inside⟩

/-- Of what is in the directories, all that is a file is discovered. -/
theorem entry_mem_discover_iff
    (ended : (discover directories).runIn session = (.ok sources, after)) {directory : Path}
    (searched : directory ∈ directories) {name : String} (clean : Path.IsCleanName name)
    (down : name ≠ "..") :
    directory.entry name ∈ sources ↔ session.disk.isFile (directory.entry name) = .ok true := by
  rw [(mem_discover_iff ended).2]
  -- To see a file in a directory is to see this directory, so that it is listed.
  refine and_iff_left_of_imp fun isFile => ?_
  obtain ⟨names, listed, inside⟩ := Disk.exists_list_of_isFile clean.ne_empty down isFile
  exact ⟨directory, searched, names, listed, name, inside, rfl⟩

end Blueprint

/--
The search by the name of a discovered blueprint, next to what the discovery has found.

The blueprint lies in the user's own directory or in the shared one.
By its name, the one in the user's own directory is found if that was discovered too, and else the
blueprint itself, as long as nothing else is in its way: a directory or a device of this name in
the user's own directory, which is found instead, or a path there that is too long, at which the
search is cut short.
-/
theorem discovered_found_by_name (layout : Layout) (session after : Session)
    (sources : List Path) (listed : Path) (named : session.disk.HasNames)
    (ended : (Blueprint.discover layout.blueprintDirs).runIn session = (.ok sources, after))
    (among : listed ∈ sources) :
    let own := layout.ownBlueprintsDir.entry listed.name
    let shared := layout.sharedBlueprintsDir.entry listed.name
    let wanted := if own ∈ sources then own else listed
    let found := (Blueprint.find layout listed.name).runIn after
    after.disk = session.disk ∧ (listed = own ∨ listed = shared) ∧
    (own ∈ sources ↔ session.disk.isFile own = .ok true) ∧
    (found = (.ok wanted, after) ↔ own ∈ sources ∨ session.disk.isThere own = .ok false) ∧
    (session.disk.isThere own = .ok true → found = (.ok own, after)) ∧
    (∀ e, session.disk.isThere own = .error e →
      found = (.error (.cutShort (.denied (.os e))), after)) := by
  intro own shared wanted found
  obtain ⟨isFile, ⟨directory, searched, listedIs⟩, clean, down⟩ :=
    Blueprint.entry_of_mem_discover named ended among
  obtain ⟨same, _⟩ := Blueprint.mem_discover_iff ended
  rw [Layout.blueprintDirs, List.mem_pair] at searched
  have inOne : listed = own ∨ listed = shared := by
    obtain rfl | rfl := searched
    · exact .inl listedIs
    · exact .inr listedIs
  have ownIs := Blueprint.entry_mem_discover_iff ended
    (by simp [Layout.blueprintDirs] : layout.ownBlueprintsDir ∈ layout.blueprintDirs) clean down
  -- The discovery may have told something, but it has left the tree alone.
  have foundIs : found = _ := Blueprint.runIn_find_of_known clean inOne
    (by rw [same]; exact Disk.isThere_of_isFile isFile)
  rw [same] at foundIs
  refine ⟨same, inOne, ownIs, ?_, fun there => ?_, fun e refused => ?_⟩
  · -- What is wanted is the blueprint itself exactly where its own directory has no other.
    constructor
    · intro right
      rw [foundIs] at right
      cases there : session.disk.isThere own with
      | error e =>
        rw [there] at right
        cases right
      | ok answer =>
        cases answer with
        | false => exact .inr rfl
        | true =>
          rw [there] at right
          have same : own = wanted := Except.ok.inj (Prod.mk.inj right).1
          by_contra outside
          rw [not_or] at outside
          have wantedIs : wanted = listed := if_neg outside.1
          exact outside.1 (by rw [same, wantedIs]; exact among)
    · rintro (inSources | absent)
      · have wantedIs : wanted = own := if_pos inSources
        rw [foundIs, wantedIs, Disk.isThere_of_isFile (ownIs.mp inSources)]
      · have outside : own ∉ sources := by
          intro inSources
          cases absent.symm.trans (Disk.isThere_of_isFile (ownIs.mp inSources))
        have wantedIs : wanted = listed := if_neg outside
        rw [foundIs, wantedIs, absent]
  · rw [foundIs, there]
  · rw [foundIs, refused]

/-- Of two blueprints of one name, the name of either leads to the one of the user. -/
theorem discovered_found_by_name_pair :
    let layout : Layout := ⟨Path.ofString "/home", Path.ofString "/home/config",
      Path.ofString "/home/cache"⟩
    let disk : Disk := ⟨["home"], [(["home"], .directory), (["home", "config"], .directory),
      (["home", "config", "blueprints"], .directory),
      (["home", "config", "blueprints", "ink"], .file [] false),
      (["home", "cache"], .directory), (["home", "cache", "blueprints"], .directory),
      (["home", "cache", "blueprints", "ink"], .file [] false)]⟩
    let own := layout.ownBlueprintsDir.entry "ink"
    let shared := layout.sharedBlueprintsDir.entry "ink"
    let session : Session := ⟨disk, ⟨[]⟩, []⟩
    let after := ((Blueprint.discover layout.blueprintDirs).runIn session).2
    disk.HasNames ∧
    (Blueprint.discover layout.blueprintDirs).runIn session = (.ok [own, shared], after) ∧
    shared.name = "ink" ∧ (Blueprint.find layout "ink").runIn after = (.ok own, after) := by
  intro layout disk own shared session after
  have named : session.disk.HasNames := by decide
  have discovered : ((Blueprint.discover layout.blueprintDirs).runIn session).1.toOption =
      some [own, shared] := by decide +kernel
  have ended : (Blueprint.discover layout.blueprintDirs).runIn session =
      (.ok [own, shared], after) := Prod.ext (ok_of_toOption discovered) rfl
  have name : shared.name = "ink" := Path.name_entry _ _
  obtain ⟨_, _, _, found, _⟩ :=
    discovered_found_by_name layout session after [own, shared] shared named ended (by simp)
  rw [name] at found
  have inSources : own ∈ [own, shared] := by simp
  rw [if_pos inSources] at found
  exact ⟨named, ended, name, found.mpr (.inl inSources)⟩

/-- A directory of the user's own hides a discovered blueprint, and is found by the name instead. -/
theorem discovered_hidden_by_directory :
    let layout : Layout := ⟨Path.ofString "/home", Path.ofString "/home/config",
      Path.ofString "/home/cache"⟩
    let disk : Disk := ⟨["home"], [(["home"], .directory), (["home", "config"], .directory),
      (["home", "config", "blueprints"], .directory),
      (["home", "config", "blueprints", "ink"], .directory),
      (["home", "cache"], .directory), (["home", "cache", "blueprints"], .directory),
      (["home", "cache", "blueprints", "ink"], .file [] false)]⟩
    let own := layout.ownBlueprintsDir.entry "ink"
    let shared := layout.sharedBlueprintsDir.entry "ink"
    let session : Session := ⟨disk, ⟨[]⟩, []⟩
    ((Blueprint.discover layout.blueprintDirs).runIn session).1 = .ok [shared] ∧
    shared.name = "ink" ∧ ((Blueprint.find layout "ink").runIn session).1 = .ok own ∧
    own ∉ [shared] := by
  intro layout disk own shared session
  have discovered : ((Blueprint.discover layout.blueprintDirs).runIn session).1.toOption =
      some [shared] := by decide +kernel
  have found : ((Blueprint.find layout "ink").runIn session).1.toOption = some own := by
    decide +kernel
  exact ⟨ok_of_toOption discovered, by decide, ok_of_toOption found, by decide⟩

end Themer
