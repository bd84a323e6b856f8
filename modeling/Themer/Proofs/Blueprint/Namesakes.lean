import Themer.Proofs.Blueprint.Batch
import Themer.Proofs.Blueprint.Discovered
import Themer.Proofs.Blueprint.Searched

/-! Blueprints of one name: which of them is found, and which is the last to go to a place. -/

namespace Themer

namespace Blueprint

/-- Whether the output of a blueprint, built on its own, is at a place. -/
def GoesTo (defaults : Defaults) (session : Session) (place : Location) (source : Path) : Prop :=
  (output? defaults session source).bind session.disk.place? = some place

/-- A blueprint, built on its own, has a text written to a place. -/
def Puts (defaults : Defaults) (session : Session) (place : Location) (source : Path)
    (text : List Char) : Prop :=
  ∃ rendered, product? defaults session source = some rendered ∧
    session.disk.place? rendered.output = some place ∧ rendered.text = text

variable {defaults : Defaults} {begun : Session} {sources : List Path} {place : Location}
  {source : Path} {text : List Char}

/-- A blueprint goes where it has a text written. -/
theorem goesTo_iff (free : Disk.hasNul source = false)
    (usual : Disk.hasNul defaults.directory = false) :
    GoesTo defaults begun place source ↔ ∃ text, Puts defaults begun place source text := by
  rw [GoesTo, output?_eq free usual]
  unfold Puts
  cases product? defaults begun source <;> simp

/-- The place that a blueprint goes to has the name of the blueprint. -/
theorem Puts.getLast?_place (puts : Puts defaults begun place source text)
    (clean : Path.IsCleanName source.name) (down : source.name ≠ "..") :
    place.getLast? = some source.name := by
  -- The output lies in its directory under the name of the blueprint, and there the path leads.
  obtain ⟨rendered, made, leads, _⟩ := puts
  obtain ⟨ended, _⟩ := product?_eq_some_iff.mp made
  obtain ⟨_, _, _, _, whole⟩ := Defaults.whole_of_renderFile ended
  obtain ⟨sourceIs, _, _⟩ := Defaults.directory_of_renderText whole
  rw [Rendered.output, sourceIs, Path.child_of_isCleanName _ clean] at leads
  obtain ⟨above, _, found⟩ :=
    Disk.spot_entry clean.ne_empty down (Disk.place?_eq_some_iff.mp leads)
  have here : place = above ++ [source.name] := by
    rw [← begun.disk.spotAt_location place, found, Disk.spotAt_location]
  rw [here, List.getLast?_concat]

/-- A blueprint that is built alone has the text that it puts at a place there in the end. -/
theorem Puts.buildEach (puts : Puts defaults begun place source text) :
    ∃ after written failed,
      (Blueprint.buildEach defaults [source]).runIn begun = (.ok (written, failed), after) ∧
      after.disk.entry? place = some (begun.disk.entryWith place (Text.Utf8.encode text)) := by
  -- The attempt writes the text where its output leads, which is the place.
  obtain ⟨rendered, made, leads, rfl⟩ := puts
  obtain ⟨after, attempted, written, _⟩ := runIn_attempt_of_product made
  obtain ⟨there, leadsThere, _, held⟩ := Disk.changed_of_writeFile written
  cases leads.symm.trans leadsThere
  refine ⟨after, [rendered.output], 0, ?_, held⟩
  rw [buildEach_cons, Work.runIn_bind_of_ok attempted]
  rfl

/-- The last blueprint into a place is one of them and goes there. -/
theorem goesTo_of_lastInto? (last : lastInto? defaults begun sources place = some source) :
    source ∈ sources ∧ GoesTo defaults begun place source := by
  obtain ⟨among, goes⟩ := List.mem_filter.mp (List.mem_of_getLast? last)
  exact ⟨among, by simpa only [GoesTo, decide_eq_true_eq] using goes⟩

/-- There is no last blueprint into a place only if none goes there. -/
theorem lastInto?_eq_none_iff :
    lastInto? defaults begun sources place = none ↔
      ∀ source ∈ sources, ¬ GoesTo defaults begun place source := by
  rw [lastInto?, List.getLast?_eq_none_iff, List.filter_eq_nil_iff]
  simp only [decide_eq_true_eq, GoesTo]

/-- A blueprint that goes to a place is the last one if no other goes there. -/
theorem lastInto?_of_alone (among : source ∈ sources) (goes : GoesTo defaults begun place source)
    (alone : ∀ other ∈ sources, GoesTo defaults begun place other → other = source) :
    lastInto? defaults begun sources place = some source := by
  -- There is a last one, since one goes there, and it is none but this.
  cases last : lastInto? defaults begun sources place with
  | none => exact absurd goes (lastInto?_eq_none_iff.mp last source among)
  | some other =>
    obtain ⟨there, goesToo⟩ := goesTo_of_lastInto? last
    rw [alone other there goesToo]

/-- A place is settled with the text that the last blueprint into it puts there. -/
theorem SettledAt.of_puts {earlier after : Disk}
    (settled : SettledAt defaults begun sources earlier after place)
    (last : lastInto? defaults begun sources place = some source)
    (puts : Puts defaults begun place source text) :
    after.entry? place = some (begun.disk.entryWith place (Text.Utf8.encode text)) := by
  rw [SettledAt, last] at settled
  obtain ⟨rendered, ended, held⟩ := settled
  obtain ⟨other, made, _, rfl⟩ := puts
  cases ended.symm.trans (product?_eq_some_iff.mp made).1
  exact held

/--
Blueprints that are discovered in some directories as they should be.

Each has a proper name, and nothing that one of them puts lies in any of the directories.
-/
structure Discovers (defaults : Defaults) (directories : List Path) (begun : Session)
    (sources : List Path) : Prop where
  found : ((discover directories).runIn begun).1 = .ok sources
  proper : ∀ source ∈ sources, Path.IsCleanName source.name ∧ source.name ≠ ".."
  apart : ∀ source ∈ sources, ∀ place text, Puts defaults begun place source text →
    ∀ directory ∈ directories, begun.disk.place? directory ≠ some place.dropLast

/-- Blueprints are discovered as they should be if no product of theirs lies in a directory. -/
theorem discovers_of_products {directories : List Path}
    (found : ((discover directories).runIn begun).1 = .ok sources)
    (proper : ∀ source ∈ sources, Path.IsCleanName source.name ∧ source.name ≠ "..")
    (apart : ∀ source ∈ sources, ∀ rendered ∈ product? defaults begun source,
      ∀ place ∈ begun.disk.place? rendered.output, ∀ directory ∈ directories,
        begun.disk.place? directory ≠ some place.dropLast) :
    Discovers defaults directories begun sources := by
  refine ⟨found, proper, ?_⟩
  rintro source among place _ ⟨rendered, made, leads, _⟩
  exact apart source among rendered made place leads

namespace Discovers

variable {directories : List Path} (discovers : Discovers defaults directories begun sources)
  (seen : ∀ directory ∈ directories, begun.disk.look directory = .ok (some .directory))
include discovers seen

/-- A discovered blueprint is a file of its own name in one of the directories. -/
theorem entry_of_mem (among : source ∈ sources) :
    begun.disk.isFile source = .ok true ∧
      ∃ directory ∈ directories, source = directory.entry source.name := by
  -- Only files are discovered, each under a name that its directory lists.
  have ended := runIn_discover_of_seen seen discovers.found
  obtain ⟨isFile, directory, searched, name, rfl⟩ := (mem_of_discover seen ended).2 source among
  refine ⟨isFile, directory, searched, ?_⟩
  rw [Path.name_entry]

/-- The path of a discovered blueprint has no NUL. -/
theorem free (among : source ∈ sources) : Disk.hasNul source = false := by
  obtain ⟨_, _, looked⟩ := Disk.isFile_eq_true_iff.mp (discovers.entry_of_mem seen among).1
  exact (Disk.look_eq_some_iff.mp looked).1

variable (usual : Disk.hasNul defaults.directory = false)
include usual

/-- Discovered blueprints that are built in a row come to what each of them came to on its own. -/
theorem buildEach (tree : begun.disk.IsTree) :
    ∃ after written failed,
      (Blueprint.buildEach defaults sources).runIn begun = (.ok (written, failed), after) ∧
      ∀ place, SettledAt defaults begun sources begun.disk after.disk place := by
  -- Files may be put where the discovered blueprints go, and none of these lies there.
  let may (place : Location) (entry : Entry) : Prop :=
    entry ≠ .directory ∧ ∃ source ∈ sources, ∃ text, Puts defaults begun place source text
  have files : Disk.FilesOnly may := fun _ _ allowed => allowed.1
  have follows : begun.Follows may begun := ⟨.same, .refl _⟩
  have placed := place_of_discover tree seen (runIn_discover_of_seen seen discovers.found)
  -- A blueprint stays as it is, since no product comes into the directory that it lies in.
  have kept : ∀ source ∈ sources, begun.disk.Keeps may source := by
    rintro source among place leads entry ⟨_, other, listed, text, puts⟩
    obtain ⟨_, _, leadsHere, directory, searched, inside⟩ := placed source among
    cases leads.symm.trans leadsHere
    exact discovers.apart other listed place text puts directory searched inside
  have allowed : ∀ source ∈ sources, ∀ rendered, product? defaults begun source = some rendered →
      begun.disk.Takes may rendered.output (Text.Utf8.encode rendered.text) :=
    fun source among rendered made place leads _ =>
      ⟨by simp, source, among, rendered.text, rendered, made, leads, rfl⟩
  obtain ⟨after, failed, _, ran, _, _, _, settled⟩ :=
    follows.buildEach files tree usual sources (fun _ among => discovers.free seen among) kept
      allowed
  exact ⟨after, _, failed, ran, settled⟩

/-- A discovered blueprint goes only to places of its own name. -/
theorem getLast?_of_goesTo (among : source ∈ sources)
    (goes : GoesTo defaults begun place source) : place.getLast? = some source.name := by
  obtain ⟨text, puts⟩ := (goesTo_iff (discovers.free seen among) usual).mp goes
  obtain ⟨clean, down⟩ := discovers.proper source among
  exact puts.getLast?_place clean down

end Discovers

/-- Of two directories, those blueprints come first that the first one holds. -/
theorem split_of_discover_pair {own shared : Path}
    (seen : ∀ directory ∈ [own, shared], begun.disk.look directory = .ok (some .directory))
    (found : ((discover [own, shared]).runIn begun).1 = .ok sources) :
    ∃ first second, sources = first ++ second ∧
      (∀ source ∈ first, source = own.entry source.name) ∧
      ∀ source ∈ second, source = shared.entry source.name := by
  -- What is discovered of a directory has a name in it, and that is the last name of its path.
  have inDirectory {directory : Path} {place : Location} {source : Path}
      (inside : ∃ name ∈ begun.disk.namesIn place, directory.entry name = source) :
      source = directory.entry source.name := by
    obtain ⟨name, _, rfl⟩ := inside
    rw [Path.name_entry]
  have ended := runIn_discover_of_seen seen found
  rw [List.forall_mem_cons, List.forall_mem_singleton] at seen
  obtain ⟨_, first, _, _, _, rfl, inOwn, ended⟩ := split_of_discover seen.1 ended
  obtain ⟨_, second, _, _, _, rfl, inShared, ended⟩ := split_of_discover seen.2 ended
  cases ended
  rw [List.append_nil]
  exact ⟨first, second, rfl, fun source among => inDirectory ((inOwn source).mp among).1,
    fun source among => inDirectory ((inShared source).mp among).1⟩

/-- A blueprint of the second directory is the last of all that go where it goes. -/
theorem Discovers.lastInto?_of_shared {own shared : Path} {name : String}
    (discovers : Discovers defaults [own, shared] begun sources)
    (seen : ∀ directory ∈ [own, shared], begun.disk.look directory = .ok (some .directory))
    (usual : Disk.hasNul defaults.directory = false) (among : shared.entry name ∈ sources)
    (goes : GoesTo defaults begun place (shared.entry name)) :
    lastInto? defaults begun sources place = some (shared.entry name) := by
  -- All that go to one place have its last name, so that one directory holds at most one of them.
  have named {other : Path} (amongToo : other ∈ sources)
      (goesToo : GoesTo defaults begun place other) : other.name = name := by
    have last := discovers.getLast?_of_goesTo seen usual among goes
    rw [Path.name_entry] at last
    have lastToo := discovers.getLast?_of_goesTo seen usual amongToo goesToo
    exact Option.some.inj (lastToo.symm.trans last)
  obtain ⟨first, second, rfl, inOwn, inShared⟩ := split_of_discover_pair seen discovers.found
  have alone : ∀ other ∈ second, GoesTo defaults begun place other →
      other = shared.entry name := by
    intro other there goesToo
    rw [inShared other there, named (List.mem_append_right _ there) goesToo]
  rw [lastInto?_append]
  by_cases here : shared.entry name ∈ second
  · rw [lastInto?_of_alone here goes alone, Option.some_or]
  · -- Then both directories have one path, and the blueprint is found in the first of them.
    have inFirst := (List.mem_append.mp among).resolve_right here
    have same := inOwn _ inFirst
    rw [Path.name_entry] at same
    have aloneInFirst : ∀ other ∈ first, GoesTo defaults begun place other →
        other = shared.entry name := by
      intro other there goesToo
      rw [inOwn other there, named (List.mem_append_left _ there) goesToo, same]
    have none : lastInto? defaults begun second place = none := by
      refine lastInto?_eq_none_iff.mpr fun other there goesToo => here ?_
      rwa [← alone other there goesToo]
    rw [none, Option.none_or, lastInto?_of_alone inFirst goes aloneInFirst]

/-- A blueprint in the user's own directory is found first, and then one in the shared directory. -/
theorem entry_of_find {layout : Layout} {name : String} {after : Session}
    (clean : Path.IsCleanName name)
    (known : ∃ directory ∈ layout.blueprintDirs,
      begun.disk.isThere (directory.entry name) = .ok true)
    (ended : (find layout name).runIn begun = (.ok source, after)) :
    source = layout.ownBlueprintsDir.entry name ∨
      source = layout.sharedBlueprintsDir.entry name ∧
        begun.disk.isThere (layout.ownBlueprintsDir.entry name) = .ok false := by
  obtain ⟨gets, _⟩ := find_eq_ok_iff.mp (congrArg Prod.fst ended)
  simp only [candidates, Layout.blueprintDirs, List.map_cons, List.map_nil, List.cons_append,
    Path.child_of_isCleanName _ clean, Disk.getsTo_cons] at gets
  -- Nothing is at the paths that were passed over, so that not both directories were.
  obtain own | ⟨ownAbsent, shared | ⟨sharedAbsent, _⟩⟩ := gets
  · exact .inl own
  · exact .inr ⟨shared, ownAbsent⟩
  · obtain ⟨directory, listed, isThere⟩ := known
    rw [Layout.blueprintDirs, List.mem_pair] at listed
    obtain rfl | rfl := listed
    · cases isThere.symm.trans ownAbsent
    · cases isThere.symm.trans sharedAbsent

/--
The name of a discovered blueprint leads to a blueprint of this name in one of the directories.

Any other that is discovered under the name is in the shared directory.
-/
theorem Discovers.entry_of_find {layout : Layout} {listed : Path} {after : Session}
    (discovers : Discovers defaults layout.blueprintDirs begun sources)
    (seen : ∀ directory ∈ layout.blueprintDirs,
      begun.disk.look directory = .ok (some .directory)) (among : listed ∈ sources)
    (ended : (find layout listed.name).runIn begun = (.ok source, after)) :
    (∃ directory ∈ layout.blueprintDirs, source = directory.entry listed.name) ∧
      ∀ other ∈ sources, other.name = listed.name →
        other = source ∨ other = layout.sharedBlueprintsDir.entry listed.name := by
  -- A blueprint of the name is there in the directory that it was discovered in.
  have isThere {other : Path} (amongToo : other ∈ sources) (named : other.name = listed.name) :
      ∃ directory ∈ layout.blueprintDirs, other = directory.entry listed.name ∧
        begun.disk.isThere (directory.entry listed.name) = .ok true := by
    obtain ⟨isFile, directory, searched, otherIs⟩ := discovers.entry_of_mem seen amongToo
    rw [named] at otherIs
    exact ⟨directory, searched, otherIs, otherIs ▸ Disk.isThere_of_isFile isFile⟩
  obtain ⟨directory, searched, _, known⟩ := isThere among rfl
  have entry := Blueprint.entry_of_find (discovers.proper listed among).1
    ⟨directory, searched, known⟩ ended
  refine ⟨?_, fun other amongToo named => ?_⟩
  · obtain sourceIs | ⟨sourceIs, _⟩ := entry
    · exact ⟨layout.ownBlueprintsDir, by simp [Layout.blueprintDirs], sourceIs⟩
    · exact ⟨layout.sharedBlueprintsDir, by simp [Layout.blueprintDirs], sourceIs⟩
  · obtain ⟨directory, searched, otherIs, known⟩ := isThere amongToo named
    rw [Layout.blueprintDirs, List.mem_pair] at searched
    obtain rfl | rfl := searched
    · -- In the user's own directory, it is what the search comes to first.
      obtain found | ⟨_, absent⟩ := entry
      · exact .inl (otherIs.trans found.symm)
      · cases known.symm.trans absent
    · exact .inr otherIs

namespace Discovers

variable {layout : Layout} {listed : Path} {after : Session}
  (discovers : Discovers defaults layout.blueprintDirs begun sources)
  (seen : ∀ directory ∈ layout.blueprintDirs, begun.disk.look directory = .ok (some .directory))
  (usual : Disk.hasNul defaults.directory = false) (among : listed ∈ sources)
  (ended : (find layout listed.name).runIn begun = (.ok source, after))
  (puts : Puts defaults begun place source text)
include discovers seen among ended

/-- What the name of a discovered blueprint leads to is discovered if it is a file. -/
theorem mem_iff_of_find : source ∈ sources ↔ begun.disk.isFile source = .ok true := by
  refine ⟨fun inSources => (discovers.entry_of_mem seen inSources).1, fun isFile => ?_⟩
  obtain ⟨⟨directory, searched, rfl⟩, _⟩ := discovers.entry_of_find seen among ended
  exact mem_discover (discovers.proper listed among).2 seen
    (runIn_discover_of_seen seen discovers.found) searched isFile

include usual puts

/-- Where the blueprint of a name goes, only the one in the shared directory may go as well. -/
theorem eq_or_shared_of_goesTo {other : Path} (amongToo : other ∈ sources)
    (goes : GoesTo defaults begun place other) :
    other = source ∨ other = layout.sharedBlueprintsDir.entry listed.name := by
  obtain ⟨⟨directory, _, sourceIs⟩, others⟩ := discovers.entry_of_find seen among ended
  have named : source.name = listed.name := by rw [sourceIs, Path.name_entry]
  refine others other amongToo ?_
  -- Both have the last name of the place.
  obtain ⟨clean, down⟩ := discovers.proper listed among
  rw [← named] at clean down ⊢
  have last := puts.getLast?_place clean down
  rw [discovers.getLast?_of_goesTo seen usual amongToo goes] at last
  exact Option.some.inj last

/-- Where none of the shared directory goes, the last blueprint is the one of the name. -/
theorem lastInto?_of_find (inSources : source ∈ sources)
    (elsewhere : layout.sharedBlueprintsDir.entry listed.name ∈ sources →
      ¬ GoesTo defaults begun place (layout.sharedBlueprintsDir.entry listed.name)) :
    lastInto? defaults begun sources place = some source := by
  -- It goes there itself, and no other does but one that is excluded.
  have goes := (goesTo_iff (discovers.free seen inSources) usual).mpr ⟨text, puts⟩
  refine lastInto?_of_alone inSources goes fun other amongToo goesToo => ?_
  obtain same | rfl := discovers.eq_or_shared_of_goesTo seen usual among ended puts amongToo goesToo
  · exact same
  · exact absurd goesToo (elsewhere amongToo)

/-- If the blueprint of the name is not discovered, then no blueprint goes there. -/
theorem lastInto?_eq_none_of_find (outside : source ∉ sources)
    (elsewhere : layout.sharedBlueprintsDir.entry listed.name ∈ sources →
      ¬ GoesTo defaults begun place (layout.sharedBlueprintsDir.entry listed.name)) :
    lastInto? defaults begun sources place = none := by
  refine lastInto?_eq_none_iff.mpr fun other amongToo goesToo => ?_
  obtain rfl | rfl := discovers.eq_or_shared_of_goesTo seen usual among ended puts amongToo goesToo
  · exact outside amongToo
  · exact elsewhere amongToo goesToo

end Discovers

end Blueprint

end Themer
