import Themer.Blueprint.Build
import Themer.Proofs.Disk.Changed
import Themer.Proofs.Disk.Listed
import Themer.Proofs.Session.Work

/-! The blueprints that are found in directories, and where they are found again. -/

namespace Themer

namespace Blueprint

variable {may : Location → Entry → Prop} {session later after : Session}

/-- The files among some paths are told without touching the session, and no file is left out. -/
theorem mem_filesAmong {paths found : List Path}
    (ended : (filesAmong paths).runIn session = (.ok found, after)) :
    after = session ∧
      ∀ path, path ∈ found ↔ path ∈ paths ∧ session.disk.isFile path = .ok true := by
  -- No path changes the session, so that all of them are looked at in the first one.
  induction paths generalizing found after with
  | nil =>
    cases ended
    exact ⟨rfl, by simp⟩
  | cons path rest ih =>
    obtain ⟨disk, _, looked, ended⟩ := Work.ok_of_bind ended
    cases looked
    cases isFile : session.disk.isFile path with
    | error e =>
      rw [isFile] at ended
      cases ended
    | ok answer =>
      rw [isFile] at ended
      obtain ⟨_, _, answered, ended⟩ := Work.ok_of_bind ended
      cases answered
      obtain ⟨more, between, others, done⟩ := Work.ok_of_bind ended
      obtain ⟨rfl, files⟩ := ih others
      cases done
      refine ⟨rfl, fun other => ?_⟩
      -- Where the first path is no file, all that was found was found among the others.
      cases answer with
      | true =>
        rw [if_pos rfl, List.mem_cons, List.mem_cons, files other, or_and_right]
        refine or_congr ⟨?_, And.left⟩ .rfl
        rintro rfl
        exact ⟨rfl, isFile⟩
      | false =>
        rw [if_neg Bool.false_ne_true, files other, List.mem_cons, or_and_right]
        refine (or_iff_right ?_).symm
        rintro ⟨rfl, isThere⟩
        cases isFile.symm.trans isThere

/-- The same files are told in another session where each path is a file or none as before. -/
theorem filesAmong_again {paths found : List Path}
    (ended : (filesAmong paths).runIn session = (.ok found, after))
    (same : ∀ path ∈ paths, later.disk.isFile path = session.disk.isFile path) :
    (filesAmong paths).runIn later = (.ok found, later) := by
  -- The answer is the same at each path, and so is what is kept of them.
  induction paths generalizing found after with
  | nil =>
    cases ended
    rfl
  | cons path rest ih =>
    rw [List.forall_mem_cons] at same
    obtain ⟨disk, _, looked, ended⟩ := Work.ok_of_bind ended
    cases looked
    rw [filesAmong, Work.runIn_bind_of_ok (Work.runIn_disk later), same.1]
    cases isFile : session.disk.isFile path with
    | error e =>
      rw [isFile] at ended
      cases ended
    | ok answer =>
      rw [isFile] at ended
      obtain ⟨_, _, answered, ended⟩ := Work.ok_of_bind ended
      cases answered
      obtain ⟨more, between, others, done⟩ := Work.ok_of_bind ended
      obtain ⟨rfl, _⟩ := mem_filesAmong others
      cases done
      exact Work.runIn_bind_of_ok (ih others same.2) _

variable {directories : List Path}

/-- What a directory that can be seen holds comes first, and then what the others hold. -/
theorem split_of_discover {directory : Path} {sources : List Path}
    (seen : session.disk.look directory = .ok (some .directory))
    (ended : (discover (directory :: directories)).runIn session = (.ok sources, after)) :
    ∃ place found more, session.disk.place? directory = some place ∧
      session.disk.entry? place = some .directory ∧ sources = found ++ more ∧
      (∀ path, path ∈ found ↔ (∃ name ∈ session.disk.namesIn place, directory.entry name = path) ∧
        session.disk.isFile path = .ok true) ∧
      (discover directories).runIn session = (.ok more, after) := by
  obtain ⟨free, place, leads, there⟩ := Disk.look_eq_some_iff.mp seen
  -- It is listed, the files among its names are told, and then the others are gone through.
  obtain ⟨disk, _, looked, ended⟩ := Work.ok_of_bind ended
  cases looked
  rw [Disk.list_of_place? free leads there] at ended
  obtain ⟨found, between, told, goesOn⟩ := Work.ok_of_bind ended
  obtain ⟨rfl, files⟩ := mem_filesAmong told
  obtain ⟨more, last, others, done⟩ := Work.ok_of_bind goesOn
  cases done
  refine ⟨place, found, more, leads, there, rfl, fun path => ?_, others⟩
  rw [files, List.mem_map]

/-- Directories that can be seen are searched for their files without touching the session. -/
theorem mem_of_discover {sources : List Path}
    (seen : ∀ directory ∈ directories, session.disk.look directory = .ok (some .directory))
    (ended : (discover directories).runIn session = (.ok sources, after)) :
    after = session ∧ ∀ source ∈ sources, session.disk.isFile source = .ok true ∧
      ∃ directory ∈ directories, ∃ name, source = directory.entry name := by
  -- What a directory holds comes before what the others hold, and neither changes the session.
  induction directories generalizing sources after with
  | nil =>
    cases ended
    exact ⟨rfl, by simp⟩
  | cons directory rest ih =>
    rw [List.forall_mem_cons] at seen
    obtain ⟨_, found, more, _, _, rfl, files, others⟩ := split_of_discover seen.1 ended
    obtain ⟨rfl, inOthers⟩ := ih seen.2 others
    refine ⟨rfl, fun source among => ?_⟩
    obtain here | later := List.mem_append.mp among
    · obtain ⟨⟨name, _, rfl⟩, isFile⟩ := (files source).mp here
      exact ⟨isFile, directory, by simp, name, rfl⟩
    · obtain ⟨isFile, other, among, name⟩ := inOthers source later
      exact ⟨isFile, other, by simp [among], name⟩

/-- Every file that is found lies right in one of the directories, and has no NUL in its path. -/
theorem place_of_discover {sources : List Path} (tree : session.disk.IsTree)
    (seen : ∀ directory ∈ directories, session.disk.look directory = .ok (some .directory))
    (ended : (discover directories).runIn session = (.ok sources, after)) :
    ∀ source ∈ sources, Disk.hasNul source = false ∧ ∃ place,
      session.disk.place? source = some place ∧
      ∃ directory ∈ directories, session.disk.place? directory = some place.dropLast := by
  intro source among
  obtain ⟨isFile, directory, searched, name, rfl⟩ := (mem_of_discover seen ended).2 source among
  obtain ⟨content, executable, looked⟩ := Disk.isFile_eq_true_iff.mp isFile
  obtain ⟨free, place, leads, there⟩ := Disk.look_eq_some_iff.mp looked
  obtain ⟨_, above, leadsAbove, _⟩ := Disk.look_eq_some_iff.mp (seen directory searched)
  refine ⟨free, place, leads, directory, searched, ?_⟩
  -- A name leads into the directory, or else to a directory, which is no file.
  obtain inside | held := tree.of_place?_entry leadsAbove leads
  · rw [leadsAbove, inside]
  · cases there.symm.trans held

/-- No file of a directory that is searched is left out. -/
theorem mem_discover {sources : List Path} {directory : Path} {name : String} (down : name ≠ "..")
    (seen : ∀ directory ∈ directories, session.disk.look directory = .ok (some .directory))
    (ended : (discover directories).runIn session = (.ok sources, after))
    (among : directory ∈ directories)
    (isFile : session.disk.isFile (directory.entry name) = .ok true) :
    directory.entry name ∈ sources := by
  -- By induction on the directories, up to the one that the file lies in.
  induction directories generalizing sources after with
  | nil => cases among
  | cons first rest ih =>
    rw [List.forall_mem_cons] at seen
    obtain ⟨place, found, more, leads, _, rfl, files, others⟩ := split_of_discover seen.1 ended
    obtain rfl | later := List.mem_cons.mp among
    · -- The file is seen right in the directory, whose names have its name among them.
      refine List.mem_append_left _ ((files _).mpr ⟨⟨name, ?_, rfl⟩, isFile⟩)
      obtain ⟨content, executable, looked⟩ := Disk.isFile_eq_true_iff.mp isFile
      obtain ⟨_, inner, leadsIn, there⟩ := Disk.look_eq_some_iff.mp looked
      rw [Disk.mem_namesIn, ← Disk.eq_of_place?_entry down leads leadsIn, there]
      rfl
    · exact List.mem_append_right _ (ih seen.2 others later)

/-- A search of directories that can be seen leaves the session alone. -/
theorem runIn_discover_of_seen {sources : List Path}
    (seen : ∀ directory ∈ directories, session.disk.look directory = .ok (some .directory))
    (found : ((discover directories).runIn session).1 = .ok sources) :
    (discover directories).runIn session = (.ok sources, session) := by
  cases ended : (discover directories).runIn session with
  | mk outcome after =>
    rw [ended] at found
    subst found
    rw [(mem_of_discover seen ended).1]

/-- The same blueprints are found where other files were written, none of them beside these. -/
theorem discover_again {sources : List Path}
    (seen : ∀ directory ∈ directories, session.disk.look directory = .ok (some .directory))
    (ended : (discover directories).runIn session = (.ok sources, after))
    (changed : Disk.Changed may session.disk later.disk) (files : Disk.FilesOnly may)
    (tree : session.disk.IsTree)
    (apart : ∀ directory ∈ directories, ∀ place entry, may place entry →
      session.disk.place? directory ≠ some place.dropLast) :
    (discover directories).runIn later = (.ok sources, later) := by
  -- Both searches go through the directories side by side, and neither changes its session.
  induction directories generalizing sources after with
  | nil =>
    cases ended
    rfl
  | cons directory rest ih =>
    rw [List.forall_mem_cons] at seen apart
    obtain ⟨free, place, leads, there⟩ := Disk.look_eq_some_iff.mp seen.1
    obtain ⟨disk, _, looked, ended⟩ := Work.ok_of_bind ended
    cases looked
    rw [Disk.list_of_place? free leads there] at ended
    obtain ⟨found, between, told, goesOn⟩ := Work.ok_of_bind ended
    obtain ⟨rfl, _⟩ := mem_filesAmong told
    obtain ⟨more, last, others, done⟩ := Work.ok_of_bind goesOn
    cases done
    -- Nothing may be put in the directory, so it has the same names, and these lead to the same.
    have never : ∀ inner entry, may inner entry → inner.dropLast ≠ place := by
      rintro inner entry allowed rfl
      exact apart.1 inner entry allowed leads
    have listed : later.disk.list directory = .ok (between.disk.namesIn place) := by
      rw [Disk.list_of_place? free (changed.place?_eq_some leads) (changed.directory there),
        changed.namesIn never]
    have same : ∀ path ∈ (between.disk.namesIn place).map directory.entry,
        later.disk.isFile path = between.disk.isFile path := by
      intro path among
      obtain ⟨name, _, rfl⟩ := List.mem_map.mp among
      rw [Disk.isFile, Disk.isFile, changed.look_eq files tree]
      -- What a name leads to lies in the directory or is one itself, and both are kept.
      intro inner leadsIn
      obtain inside | held := tree.of_place?_entry leads leadsIn
      · exact changed.kept fun entry allowed => never inner entry allowed inside
      · rw [held, changed.directory held]
    rw [discover, Work.runIn_bind_of_ok (Work.runIn_disk later), listed]
    dsimp only
    rw [Work.runIn_bind_of_ok (filesAmong_again told same),
      Work.runIn_bind_of_ok (ih seen.2 others apart.2)]
    rfl

end Blueprint

end Themer
