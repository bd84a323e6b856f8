import Mathlib.Algebra.GroupWithZero.Nat
import Themer.Disk.Basic
import Themer.Layout

/-! The names in a path: a text spells clean ones, and no character comes in but from a text. -/

namespace Themer

namespace Path

/-- A name that leads somewhere by itself: nothing in it ends it early. -/
def IsCleanName (name : String) : Prop :=
  isName name.toList = true ∧ '/' ∉ name.toList

instance (name : String) : Decidable (IsCleanName name) :=
  inferInstanceAs (Decidable (_ ∧ _))

/-- A clean name is not empty. -/
theorem IsCleanName.ne_empty {name : String} (clean : IsCleanName name) : name ≠ "" := by
  rintro rfl
  exact absurd clean.1 (by decide)

/-- A path of clean names, as every path is that a text spells. -/
def IsClean (path : Path) : Prop :=
  ∀ name ∈ path.parts, IsCleanName name

instance (path : Path) : Decidable path.IsClean :=
  inferInstanceAs (Decidable (∀ name ∈ path.parts, IsCleanName name))

/-- A text without a slash is a single piece. -/
theorem pieces_of_not_mem {text : List Char} (whole : '/' ∉ text) : pieces text = [text] := by
  -- Without slashes, each character joins the one piece that the rest is.
  induction text with
  | nil => rfl
  | cons c rest ih =>
    rw [List.mem_cons, not_or] at whole
    obtain ⟨other, wholeRest⟩ := whole
    simp [pieces, Ne.symm other, ih wholeRest]

/-- Up to a slash, a text without one is a piece of its own. -/
theorem pieces_append_slash {text : List Char} (whole : '/' ∉ text) (rest : List Char) :
    pieces (text ++ '/' :: rest) = text :: pieces rest := by
  -- Each character joins the piece that what follows it starts with.
  induction text with
  | nil => simp [pieces]
  | cons c text ih =>
    rw [List.mem_cons, not_or] at whole
    obtain ⟨other, wholeText⟩ := whole
    simp [pieces, Ne.symm other, ih wholeText]

/-- Names with slashes between them are the pieces of what they are joined to. -/
theorem pieces_intercalate {names : List String} (filled : names ≠ [])
    (whole : ∀ name ∈ names, '/' ∉ name.toList) :
    pieces ("/".intercalate names).toList = names.map String.toList := by
  induction names with
  | nil => exact absurd rfl filled
  | cons name rest ih =>
    obtain ⟨first, others⟩ := List.forall_mem_cons.mp whole
    cases rest with
    | nil => simp [pieces_of_not_mem first]
    | cons next more =>
      have slash : "/".toList = ['/'] := rfl
      rw [String.intercalate_cons_cons, String.toList_append, String.toList_append, slash,
        List.append_assoc, List.singleton_append, pieces_append_slash first,
        ih (List.cons_ne_nil _ _) others]
      rfl

/-- The pieces between slashes have the characters of the text, without the slashes. -/
theorem of_mem_pieces {text piece : List Char} (among : piece ∈ pieces text) {c : Char}
    (inside : c ∈ piece) : c ∈ text ∧ c ≠ '/' := by
  -- The first piece grows from the back, so the piece looked at stays quantified over.
  induction text generalizing piece with
  | nil =>
    obtain rfl : piece = [] := by simpa [pieces] using among
    cases inside
  | cons first rest ih =>
    rw [pieces] at among
    split at among
    · -- A slash ends an empty piece, and all others lie behind it.
      obtain rfl | later := List.mem_cons.mp among
      · cases inside
      · exact ⟨List.mem_cons_of_mem _ (ih later inside).1, (ih later inside).2⟩
    · rename_i noSlash
      -- Any other character joins the piece it stands in front of.
      cases split : pieces rest with
      | nil =>
        obtain rfl : piece = [first] := by simpa [split] using among
        obtain rfl : c = first := by simpa using inside
        exact ⟨List.mem_cons_self, noSlash⟩
      | cons next more =>
        rw [split] at among ih
        obtain rfl | later := List.mem_cons.mp among
        · -- The rest of that piece is a piece of the rest of the text.
          obtain rfl | after := List.mem_cons.mp inside
          · exact ⟨List.mem_cons_self, noSlash⟩
          · have kept := ih List.mem_cons_self after
            exact ⟨List.mem_cons_of_mem _ kept.1, kept.2⟩
        · have kept := ih (List.mem_cons_of_mem _ later) inside
          exact ⟨List.mem_cons_of_mem _ kept.1, kept.2⟩

/-- The names of a spelled path are the pieces of its text that lead anywhere. -/
theorem mem_parts_ofString {text name : String} (among : name ∈ (ofString text).parts) :
    name.toList ∈ pieces text.toList ∧ isName name.toList = true := by
  obtain ⟨piece, found, rfl⟩ := List.mem_map.mp among
  rw [String.toList_ofList]
  exact List.mem_filter.mp found

/-- Every text spells a path of clean names. -/
theorem isClean_ofString (text : String) : (ofString text).IsClean := by
  -- The names of the path were chosen among the pieces, and no piece has a slash.
  intro name among
  obtain ⟨piece, leads⟩ := mem_parts_ofString among
  exact ⟨leads, fun slash => (of_mem_pieces piece slash).2 rfl⟩

/-- What a text spells is clean where the path is that it is seen from. -/
theorem isClean_child {path : Path} (clean : path.IsClean) (text : String) :
    (path.child text).IsClean := by
  unfold child join
  split
  · -- The names of both are put one after the other.
    intro name among
    obtain above | below := List.mem_append.mp among
    · exact clean name above
    · exact isClean_ofString text name below
  · exact isClean_ofString text

/-- A clean name, read as a path, is that name alone. -/
theorem ofString_of_isCleanName {name : String} (clean : IsCleanName name) :
    ofString name = ⟨.here, [name]⟩ := by
  obtain ⟨leads, whole⟩ := clean
  -- A path starts at a root only for a slash in front.
  have anchored : anchorOf name.toList = .here := by
    cases spelled : name.toList with
    | nil => rfl
    | cons c rest =>
      have other : c ≠ '/' := by
        rintro rfl
        simp [spelled] at whole
      unfold anchorOf
      split <;> simp_all
  simp [ofString, anchored, pieces_of_not_mem whole, leads]

/-- Clean names with slashes between them spell the path that has them as its names. -/
theorem ofString_intercalate {names : List String} (filled : names ≠ [])
    (clean : ∀ name ∈ names, IsCleanName name) :
    ofString ("/".intercalate names) = ⟨.here, names⟩ := by
  have inPieces := pieces_intercalate filled fun name among => (clean name among).2
  -- A slash in front would make the first piece an empty one, which no name is.
  have anchored : anchorOf ("/".intercalate names).toList = .here := by
    obtain ⟨name, rest, rfl⟩ := List.exists_cons_of_ne_nil filled
    cases spelled : ("/".intercalate (name :: rest)).toList with
    | nil => rfl
    | cons c text =>
      have other : c ≠ '/' := by
        rintro rfl
        rw [spelled, pieces, if_pos rfl, List.map_cons, List.cons.injEq] at inPieces
        exact (clean name List.mem_cons_self).ne_empty (String.toList_eq_nil_iff.mp inPieces.1.symm)
      unfold anchorOf
      split <;> simp_all
  have kept : (names.map String.toList).filter isName = names.map String.toList := by
    rw [List.filter_eq_self, List.forall_mem_map]
    exact fun name among => (clean name among).1
  rw [ofString, anchored, inPieces, kept, List.map_map]
  simp

/-- What a clean name spells lies right in the directory it is seen from. -/
theorem child_of_isCleanName (directory : Path) {name : String} (clean : IsCleanName name) :
    directory.child name = directory.entry name := by
  simp [child, join, entry, ofString_of_isCleanName clean]

/-- The last name of what lies in a directory is the one it has there. -/
@[simp] theorem name_entry (directory : Path) (name : String) :
    (directory.entry name).name = name := by
  simp [Path.name, Path.entry]

/-- The path of what lies in a directory is spelled no shorter than that of the directory. -/
theorem text_le_entry (directory : Path) {name : String} (named : name ≠ "") :
    directory.text.utf8ByteSize ≤ (directory.entry name).text.utf8ByteSize := by
  -- A name takes a byte at least, as much as the dot that stands for nothing.
  have filled : 0 < name.utf8ByteSize := by
    rw [Nat.pos_iff_ne_zero, ne_eq, String.utf8ByteSize_eq_zero_iff]
    exact named
  obtain ⟨anchor, parts⟩ := directory
  cases parts with
  | nil =>
    -- The directory is its anchor, or a dot where the anchor is not written.
    have dot : ".".utf8ByteSize = 1 := rfl
    cases anchor <;> simp [text, entry, dot]
    omega
  | cons part rest =>
    -- Otherwise a slash and the name come behind what was there.
    have longer : "/".intercalate (part :: rest ++ [name]) =
        "/".intercalate (part :: rest) ++ "/" ++ "/".intercalate [name] :=
      String.intercalate_append_of_ne_nil (by simp) (by simp)
    rw [List.cons_append] at longer
    cases anchor <;> simp [text, entry, longer] <;> omega

/-- A path is spelled in no more bytes than its names, a slash for each, and those in front. -/
theorem utf8ByteSize_text_le (path : Path) :
    path.text.utf8ByteSize ≤ (path.parts.map fun name => name.utf8ByteSize + 1).sum + 2 := by
  obtain ⟨anchor, parts⟩ := path
  have joined (names : List String) : ("/".intercalate names).utf8ByteSize ≤
      (names.map fun name => name.utf8ByteSize + 1).sum := by
    induction names with
    | nil => simp
    | cons name rest ih =>
      cases rest with
      | nil => simp
      | cons next more =>
        have slash : "/".utf8ByteSize = 1 := rfl
        rw [String.intercalate_cons_cons, String.utf8ByteSize_append, String.utf8ByteSize_append,
          List.map_cons, List.sum_cons, slash]
        omega
  have front (anchor : Anchor) : (Anchor.text anchor).utf8ByteSize ≤ 2 := by
    cases anchor <;> decide
  unfold text
  split
  · exact Nat.le_trans (by decide : ".".utf8ByteSize ≤ 2) (Nat.le_add_left ..)
  · have names := joined parts
    have root := front anchor
    rw [String.utf8ByteSize_append]
    dsimp only
    omega

/-- A path is spelled no shorter than one that it begins with. -/
theorem text_le_append (anchor : Anchor) (names : List String) {more : List String}
    (named : ∀ name ∈ more, name ≠ "") :
    (⟨anchor, names⟩ : Path).text.utf8ByteSize ≤
      (⟨anchor, names ++ more⟩ : Path).text.utf8ByteSize := by
  -- The names are added one after the other, each to those before it.
  induction more generalizing names with
  | nil => exact Nat.le_of_eq (by rw [List.append_nil])
  | cons name rest ih =>
    obtain ⟨first, others⟩ := List.forall_mem_cons.mp named
    have longer := ih (names ++ [name]) others
    rw [List.append_assoc, List.singleton_append] at longer
    exact Nat.le_trans (text_le_entry ⟨anchor, names⟩ first) longer

/-- A character is in no name of a path. -/
def Lacks (path : Path) (c : Char) : Prop :=
  ∀ name ∈ path.parts, c ∉ name.toList

/-- A text without a character spells a path without it. -/
theorem lacks_ofString {text : String} {c : Char} (free : c ∉ text.toList) :
    (ofString text).Lacks c := by
  -- A character of a name would be one of the text that the name is a piece of.
  intro name among inside
  exact free (of_mem_pieces (mem_parts_ofString among).1 inside).1

/-- Seen from a path without a character, a text without it spells a path without it. -/
theorem Lacks.child {path : Path} {text : String} {c : Char} (lacks : path.Lacks c)
    (free : c ∉ text.toList) : (path.child text).Lacks c := by
  have below := lacks_ofString free
  unfold Path.child Path.join
  split
  · -- The names of the text come behind those of the path.
    intro name among
    rcases List.mem_append.mp among with above | added
    · exact lacks name above
    · exact below name added
  · exact below

end Path

namespace Disk

/-- A path has no NUL exactly where no name in it has one. -/
theorem hasNul_eq_false_iff {path : Path} : hasNul path = false ↔ path.Lacks '\x00' := by
  simp [hasNul, Path.Lacks]

/-- A text without a NUL spells a path without one. -/
theorem hasNul_ofString {text : String} (free : '\x00' ∉ text.toList) :
    hasNul (Path.ofString text) = false :=
  hasNul_eq_false_iff.mpr (Path.lacks_ofString free)

/-- What lies in a directory has a NUL in its path only through the directory or its own name. -/
theorem hasNul_entry (directory : Path) (name : String) :
    hasNul (directory.entry name) = (hasNul directory || name.toList.contains '\x00') := by
  simp [hasNul, Path.entry]

/-- No name in a path without a NUL has one. -/
theorem not_contains_of_hasNul {path : Path} (free : hasNul path = false) {name : String}
    (among : name ∈ path.parts) : name.toList.contains '\x00' = false := by
  -- Had any name one, the path would have it.
  rw [hasNul, List.any_eq_false] at free
  exact Bool.eq_false_iff.mpr (free name among)

/-- Seen from a path without a NUL, a text without one spells a path without one. -/
theorem hasNul_child {path : Path} {text : String} (free : hasNul path = false)
    (freeText : '\x00' ∉ text.toList) : hasNul (path.child text) = false :=
  hasNul_eq_false_iff.mpr ((hasNul_eq_false_iff.mp free).child freeText)

end Disk

namespace Layout

/-- Variables without a NUL in their values, as the system hands them on. -/
def IsFreeOfNul (environment : List (String × String)) : Prop :=
  ∀ setting ∈ environment, '\x00' ∉ setting.2.toList

instance (environment : List (String × String)) : Decidable (IsFreeOfNul environment) :=
  inferInstanceAs (Decidable (∀ setting ∈ environment, '\x00' ∉ setting.2.toList))

/-- The names that the program adds to the paths it is given. -/
def ownNames : List String :=
  [appName, ".config", ".cache", "colorschemes", "blueprints", "out", "current.json",
    "config.yaml", postScriptName]

/-- The variables of the environment that say where everything lies. -/
def placeVariables : List String := ["HOME", "XDG_CONFIG_HOME", "XDG_CACHE_HOME"]

section

variable {environment : List (String × String)} {c : Char}

/-- The value of a variable lacks a character where every value does. -/
theorem not_mem_of_filled? (free : ∀ setting ∈ environment, c ∉ setting.2.toList) (name : String) :
    ∀ text ∈ filled? environment name, c ∉ text.toList := by
  intro text found
  unfold filled? at found
  -- An empty value counts as none, and any other is a value of the environment.
  split at found
  · cases found
  · obtain ⟨before, after, split, _⟩ := List.lookup_eq_some_iff.mp found
    exact free (name, text) (by simp [split])

variable (free : ∀ name ∈ placeVariables, ∀ text ∈ filled? environment name, c ∉ text.toList)

include free

/-- The path of the directory for a purpose lacks it, whether it is a usual one or asked for. -/
theorem lacks_baseDir {home : Path} (lacks : home.Lacks c) {name : String}
    (asked : name ∈ placeVariables) {usual : String} (freeUsual : c ∉ usual.toList) :
    (baseDir environment home name usual).Lacks c := by
  -- What is asked for is a path by itself, and the usual directory lies in the home directory.
  unfold baseDir
  split
  · rename_i text found
    exact Path.lacks_ofString (free name asked text found)
  · exact lacks.child freeUsual

/-- Neither the home directory nor those of the program have a character that no value has. -/
theorem lacks_of_environment {layout : Layout} (made : ofEnvironment? environment = some layout)
    (plain : ∀ name ∈ ownNames, c ∉ name.toList) :
    layout.home.Lacks c ∧ layout.configDir.Lacks c ∧ layout.cacheDir.Lacks c := by
  -- All three are made of values of the environment and of names of the program's own.
  obtain ⟨text, found, rfl⟩ := Option.map_eq_some_iff.mp made
  have home := Path.lacks_ofString (free "HOME" (by decide) text found)
  have app := plain appName (by decide)
  exact ⟨home, (lacks_baseDir free home (by decide) (plain ".config" (by decide))).child app,
    (lacks_baseDir free home (by decide) (plain ".cache" (by decide))).child app⟩

/-- No directory that is made has a character in its path that no value has. -/
theorem lacks_of_mem_directories {layout : Layout}
    (made : ofEnvironment? environment = some layout)
    (plain : ∀ name ∈ ownNames, c ∉ name.toList) :
    ∀ directory ∈ layout.directories, directory.Lacks c := by
  obtain ⟨_, config, cache⟩ := lacks_of_environment free made plain
  have blueprints := plain "blueprints" (by decide)
  -- Each of them lies in one of the program's own two directories, or is one.
  simp only [directories, List.forall_mem_cons]
  exact ⟨config, config.child (plain "colorschemes" (by decide)), config.child blueprints, cache,
    cache.child (plain "out" (by decide)), cache.child blueprints, by simp⟩

end

/-- The directories that an environment asks for are at clean paths. -/
theorem isClean_of_environment {environment : List (String × String)} {layout : Layout}
    (asked : ofEnvironment? environment = some layout) :
    layout.home.IsClean ∧ layout.configDir.IsClean := by
  obtain ⟨text, _, rfl⟩ := Option.map_eq_some_iff.mp asked
  have home := Path.isClean_ofString text
  refine ⟨home, Path.isClean_child ?_ appName⟩
  unfold baseDir
  split
  · exact Path.isClean_ofString _
  · exact Path.isClean_child home _

/-- An environment without NULs puts both directories of the program where none is in the path. -/
theorem hasNul_of_environment {environment : List (String × String)}
    (free : IsFreeOfNul environment) {layout : Layout}
    (made : ofEnvironment? environment = some layout) :
    Disk.hasNul layout.configDir = false ∧ Disk.hasNul layout.cacheDir = false := by
  obtain ⟨_, config, cache⟩ :=
    lacks_of_environment (fun name _ => not_mem_of_filled? free name) made (by decide)
  exact ⟨Disk.hasNul_eq_false_iff.mpr config, Disk.hasNul_eq_false_iff.mpr cache⟩

/-- An environment without NULs puts the output of blueprints where no NUL is in the path. -/
theorem hasNul_outDir {environment : List (String × String)} (free : IsFreeOfNul environment)
    {layout : Layout} (made : ofEnvironment? environment = some layout) :
    Disk.hasNul layout.outDir = false :=
  Disk.hasNul_child (hasNul_of_environment free made).2 (by decide)

/-- An environment without NULs has none in the paths of all directories that are made. -/
theorem hasNul_of_mem_directories {environment : List (String × String)}
    (free : IsFreeOfNul environment) {layout : Layout}
    (made : ofEnvironment? environment = some layout) :
    ∀ directory ∈ layout.directories, Disk.hasNul directory = false := fun directory among =>
  Disk.hasNul_eq_false_iff.mpr (lacks_of_mem_directories
    (fun name _ => not_mem_of_filled? free name) made (by decide) directory among)

end Layout

end Themer
