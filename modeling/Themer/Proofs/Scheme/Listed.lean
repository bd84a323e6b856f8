import Mathlib.Data.List.Sort
import Themer.Listing
import Themer.Proofs.Disk.Listed
import Themer.Proofs.Json.Bounds
import Themer.Proofs.Scheme.Saved

/-! A listing of colorschemes accounts for every file: it is shown, or it is warned of. -/

namespace Themer

namespace Disk

/-- A directory that can be listed, each name in it once and each answered for by the system. -/
structure IsListable (disk : Disk) (directory : Path) (place : Location) : Prop where
  free : hasNul directory = false
  leads : disk.place? directory = some place
  isDirectory : disk.entry? place = some .directory
  once : (disk.namesIn place).Nodup
  down : ".." ∉ disk.namesIn place
  answered : ∀ name ∈ disk.namesIn place, ∃ answer, disk.look (directory.entry name) = .ok answer
  /-- Only what is no file may have a NUL in its name. -/
  plain : ∀ name content executable,
    disk.entry? (place ++ [name]) = some (.file content executable) → '\x00' ∉ name.toList

/-- Whether there is a file at a place. -/
def isFileAt (disk : Disk) (place : Location) : Bool :=
  match disk.entry? place with
  | some (.file _ _) => true
  | _ => false

/-- A place with a file is one with an entry of that kind. -/
theorem isFileAt_iff {disk : Disk} {place : Location} :
    disk.isFileAt place = true ↔
      ∃ content executable, disk.entry? place = some (.file content executable) := by
  unfold isFileAt
  split
  · rename_i content executable there
    simp [there]
  · rename_i other
    simpa using fun content executable there => other content executable there

namespace IsListable

variable {disk : Disk} {directory : Path} {place : Location}

/-- A directory that is seen can be listed, if all of its names are among some proper ones. -/
theorem of_names {names : List String} (free : hasNul directory = false)
    (leads : disk.place? directory = some place)
    (isDirectory : disk.entry? place = some .directory) (once : (disk.namesIn place).Nodup)
    (among : ∀ name ∈ disk.namesIn place, name ∈ names)
    (proper : ∀ name ∈ names, name ≠ ".." ∧ '\x00' ∉ name.toList ∧
      ∃ answer, disk.look (directory.entry name) = .ok answer) :
    disk.IsListable directory place where
  free := free
  leads := leads
  isDirectory := isDirectory
  once := once
  down up := (proper _ (among _ up)).1 rfl
  answered name inside := (proper name (among name inside)).2.2
  plain name content executable there :=
    (proper name (among name (mem_namesIn.mpr (by rw [there]; rfl)))).2.1

/-- What a name without a NUL leads to in a directory is what lies there. -/
theorem place?_entry (listable : disk.IsListable directory place) {name : String}
    (among : name ∈ disk.namesIn place) (plain : '\x00' ∉ name.toList) :
    hasNul (directory.entry name) = false ∧
      disk.place? (directory.entry name) = some (place ++ [name]) := by
  have free : hasNul (directory.entry name) = false := by
    simp [hasNul_entry, listable.free, plain]
  have down : name ≠ ".." := by
    rintro rfl
    exact listable.down among
  refine ⟨free, Disk.place?_entry down listable.leads listable.isDirectory
    (mem_namesIn.mp among) ?_⟩
  -- A name or a path that is too long would not be answered for.
  intro tooLong
  obtain ⟨answer, seen⟩ := listable.answered name among
  simp [look, free, tooLong, isAbsence] at seen

/-- The system says of a name in a directory whether a file lies there. -/
theorem isFile_entry (listable : disk.IsListable directory place) {name : String}
    (among : name ∈ disk.namesIn place) :
    disk.isFile (directory.entry name) = .ok (disk.isFileAt (place ++ [name])) := by
  by_cases plain : '\x00' ∈ name.toList
  · -- With a NUL in its name, nothing is seen, and what lies there is no file.
    have nothing : disk.isFileAt (place ++ [name]) = false := by
      rw [← Bool.not_eq_true, isFileAt_iff]
      rintro ⟨content, executable, there⟩
      exact listable.plain name content executable there plain
    simp [isFile, look, hasNul_entry, plain, nothing, Except.map]
  · obtain ⟨free, leads⟩ := listable.place?_entry among plain
    rw [isFile, look_of_place? free leads, isFileAt]
    rfl

end IsListable

end Disk

/-- A text within bounds that is no colorscheme is at fault itself. -/
theorem Scheme.reported_of_read {levels : Nat} {text : String} {failure : Failure Fault}
    (within : Json.WithinBounds levels text.toList) (failed : read levels text = .error failure) :
    ∃ fault, failure = .reported fault := by
  unfold read at failed
  -- Only the reader of documents could cut the work short, and not within its bounds.
  cases documentRead : Json.read levels true text with
  | error e =>
    rw [documentRead] at failed
    obtain ⟨cause, place, rfl⟩ | ⟨name, rfl⟩ :=
      Json.malformed_or_repeated_of_read within documentRead
    all_goals
      cases failed
      exact ⟨_, rfl⟩
  | ok document =>
    rw [documentRead] at failed
    dsimp only at failed
    cases ofDocument : ofDatum document with
    | ok palette =>
      rw [ofDocument] at failed
      cases failed
    | error fault =>
      rw [ofDocument] at failed
      cases failed
      exact ⟨fault, rfl⟩

/-- What is wrong with a file is reported with its path. -/
theorem Scheme.source_of_ofFile {levels : Nat} {disk : Disk} {path : Path} {e : SchemeError}
    (failed : ofFile levels disk path = .error (.reported e)) : ∃ fault, e = ⟨path, fault⟩ := by
  unfold ofFile at failed
  -- Its content is at fault, or the system refuses to read it, or the path has a NUL in it.
  split at failed
  · obtain ⟨fault, _, rfl⟩ := reported_of_mapError failed
    exact ⟨fault, rfl⟩
  · cases failed
    exact ⟨_, rfl⟩
  · cases failed

/-- Bytes that hold no colorscheme are at fault themselves, if their text is within bounds. -/
theorem Scheme.reported_of_ofBytes {levels : Nat} {bytes : Text.Bytes}
    {failure : Failure SchemeFault}
    (within : ∀ text, Text.Utf8.decode bytes = .ok text →
      Json.WithinBounds levels (Text.unifyBreaks text))
    (failed : ofBytes levels bytes = .error failure) : ∃ fault, failure = .reported fault := by
  unfold ofBytes at failed
  split at failed
  · -- What is no text is reported whatever its length.
    cases failed
    exact ⟨_, rfl⟩
  · rename_i text decoded
    cases accepted : read levels (String.ofList (Text.unifyBreaks text)) with
    | ok palette =>
      rw [accepted] at failed
      cases failed
    | error other =>
      obtain ⟨fault, rfl⟩ := reported_of_read (by simpa using within text decoded) accepted
      rw [accepted] at failed
      cases failed
      exact ⟨_, rfl⟩

/-- A file with a number of too many digits is not read to its end. -/
theorem Scheme.ofBytes_of_digits (levels : Nat) {count : Nat} (beyond : digitLimit < count) :
    ofBytes levels (Text.Utf8.encode (List.replicate count '1')) =
      .error (.cutShort (.tooManyDigits ⟨count⟩)) := by
  -- All of its characters are one digit, so that its line breaks need no unifying.
  have noReturn : '\r' ∉ List.replicate count '1' := by
    intro among
    exact absurd (List.eq_of_mem_replicate among) (by decide)
  rw [ofBytes, Text.Utf8.decode_encode]
  dsimp only
  rw [Text.unifyBreaks_eq_self noReturn, read, Json.read_of_digits levels true beyond]
  rfl

/-- A file that can be read cuts no work short, if its text is within bounds. -/
theorem Scheme.not_cutShort_of_readFile {levels : Nat} {disk : Disk} {path : Path}
    {content : Text.Bytes} (read : disk.readFile path = .ok content)
    (within : ∀ text, Text.Utf8.decode content = .ok text →
      Json.WithinBounds levels (Text.unifyBreaks text)) (cause : Interruption) :
    ofFile levels disk path ≠ .error (.cutShort cause) := by
  intro cut
  -- With its bytes read, all that can be wrong is what they hold.
  rw [ofFile, read] at cut
  dsimp only at cut
  cases held : ofBytes levels content with
  | ok palette =>
    rw [held] at cut
    cases cut
  | error failure =>
    obtain ⟨fault, rfl⟩ := reported_of_ofBytes within held
    rw [held] at cut
    cases cut

namespace Listing

/-- A whole palette has both of the colors that are shown of it. -/
theorem ofPalette?_of_isWhole (path : Path) {palette : Palette} (whole : palette.IsWhole) :
    ∃ listing, ofPalette? path palette = some listing := by
  -- Every name of a color has an entry, the two that are shown among them.
  have shown : ∀ name ∈ Scheme.names, ∃ color, palette.get? name = some color := by
    intro name among
    obtain ⟨entry, found, rfl⟩ := List.mem_map.mp (whole.every name among)
    rw [← Option.isSome_iff_exists, Palette.get?, List.lookup_isSome_iff]
    exact ⟨entry, found, by simp⟩
  obtain ⟨background, backgroundIs⟩ := shown Scheme.background (by decide)
  obtain ⟨foreground, foregroundIs⟩ := shown Scheme.foreground (by decide)
  simp [ofPalette?, backgroundIs, foregroundIs]

/-- What is shown of a palette are its name and the two colors. -/
theorem spec_of_ofPalette? {path : Path} {palette : Palette} {listing : Listing}
    (shown : ofPalette? path palette = some listing) :
    listing.name = path.stem ∧ palette.get? Scheme.background = some listing.background ∧
      palette.get? Scheme.foreground = some listing.foreground := by
  unfold ofPalette? at shown
  split at shown
  · rename_i background foreground
    cases shown
    exact ⟨rfl, background, foreground⟩
  · cases shown

/--
Some files accounted for in their order.

Each one that holds a colorscheme has one listing, and each other one has one warning.
-/
inductive AccountsFor (levels : Nat) (disk : Disk) :
    List Path → List Listing → List Notice → Prop
  | none : AccountsFor levels disk [] [] []
  | listed {path : Path} {rest : List Path} {palette : Palette} {listing : Listing}
      {listings : List Listing} {warnings : List Notice}
      (valid : Scheme.ofFile levels disk path = .ok palette)
      (shown : ofPalette? path palette = some listing)
      (later : AccountsFor levels disk rest listings warnings) :
      AccountsFor levels disk (path :: rest) (listing :: listings) warnings
  | warned {path : Path} {rest : List Path} {fault : SchemeFault}
      {listings : List Listing} {warnings : List Notice}
      (invalid : Scheme.ofFile levels disk path = .error (.reported ⟨path, fault⟩))
      (later : AccountsFor levels disk rest listings warnings) :
      AccountsFor levels disk (path :: rest) listings
        (⟨.warning, SchemeError.message ⟨path, fault⟩⟩ :: warnings)

/-- A session that some warnings were given in. -/
def warnedOf (session : Session) (warnings : List Notice) : Session :=
  { session with notices := session.notices ++ warnings }

/-- Some files are all accounted for, unless one of them cuts the work short. -/
theorem runIn_ofFiles (levels : Nat) (paths : List Path) (session : Session) :
    (∃ listings warnings,
      (ofFiles levels paths).runIn session = (.ok listings, warnedOf session warnings) ∧
      AccountsFor levels session.disk paths listings warnings) ∨
    ∃ path ∈ paths, ∃ cause after,
      Scheme.ofFile levels session.disk path = .error (.cutShort cause) ∧
      (ofFiles levels paths).runIn session = (.error (.cutShort cause), after) := by
  -- Each warning changes the session, so this stays quantified over.
  induction paths generalizing session with
  | nil => exact .inl ⟨[], [], by simp [ofFiles, warnedOf], .none⟩
  | cons path rest ih =>
    rw [ofFiles, Work.runIn_bind_of_ok (Work.runIn_disk session)]
    cases held : Scheme.ofFile levels session.disk path with
    | ok palette =>
      -- It is listed, and the rest starts from the session as it is.
      obtain ⟨listing, shown⟩ := ofPalette?_of_isWhole path (Scheme.isWhole_of_ofFile held)
      dsimp only
      obtain ⟨listings, warnings, ran, accounts⟩ | ⟨other, among, cause, after, cut, ran⟩ :=
        ih session
      · refine .inl ⟨listing :: listings, warnings, ?_, .listed held shown accounts⟩
        rw [Work.runIn_bind_of_ok ran, shown]
        rfl
      · exact .inr ⟨other, by simp [among], cause, after, cut, Work.runIn_bind_of_error ran _⟩
    | error failure =>
      cases failure with
      | cutShort cause => exact .inr ⟨path, by simp, cause, session, held, rfl⟩
      | reported e =>
        -- It is warned of, and the rest starts from a session with that warning.
        obtain ⟨fault, rfl⟩ := Scheme.source_of_ofFile held
        dsimp only
        rw [Work.runIn_bind_of_ok (Work.runIn_tell _ _ _)]
        obtain ⟨listings, warnings, ran, accounts⟩ | ⟨other, among, cause, after, cut, ran⟩ :=
          ih (warnedOf session [⟨.warning, SchemeError.message ⟨path, fault⟩⟩])
        · refine .inl ⟨listings, _, ran.trans ?_, .warned held accounts⟩
          simp [warnedOf]
        · exact .inr ⟨other, by simp [among], cause, after, cut, ran⟩

/-- Where each name in a directory is answered for, its files are those answered to be some. -/
theorem filesAmong_of_answered {disk : Disk} {directory : Path} {names : List String}
    {isThat : String → Bool}
    (answered : ∀ name ∈ names, disk.isFile (directory.entry name) = .ok (isThat name)) :
    filesAmong disk (names.map directory.entry) =
      .ok ((names.filter isThat).map directory.entry) := by
  -- No answer fails, so each step keeps its name or drops it, as `filter` does.
  induction names with
  | nil => rfl
  | cons name rest ih =>
    rw [List.forall_mem_cons] at answered
    rw [List.map_cons, filesAmong, answered.1, ih answered.2, List.filter_cons]
    cases isThat name <;> rfl

variable {session : Session} {directory : Path} {place : Location}

/-- What is collected of a directory that can be listed is what becomes of the files in it. -/
theorem runIn_collect (listable : session.disk.IsListable directory place) (levels : Nat) :
    (collect levels directory).runIn session =
      (ofFiles levels (((session.disk.namesIn place).filter fun name =>
        session.disk.isFileAt (place ++ [name])).map directory.entry)).runIn session := by
  -- Neither listing the directory nor looking at its names can fail here.
  have listed := Disk.list_of_place? listable.free listable.leads listable.isDirectory
  have files := filesAmong_of_answered fun name among => listable.isFile_entry among
  rw [collect, Work.runIn_bind_of_ok (Work.runIn_disk session), listed,
    Work.runIn_bind_of_ok (Work.runIn_grantedOr _ _ _), files]
  dsimp only [Except.mapError]
  rw [Work.runIn_bind_of_ok (Work.runIn_grantedOr _ _ _)]

end Listing

/--
A bad colorscheme hides no other.

Whatever the files in a directory hold, those of them that are colorschemes are all listed,
in the order of their names, and each of the others is warned of once.
Only a text beyond the bounds that the reader of documents keeps would be in the way: a number of
too many digits, or values that are nested too deep for the levels that are left.
-/
theorem collect_accounts_for_all (levels : Nat) (session : Session) (directory : Path)
    (place : Location) (listable : session.disk.IsListable directory place)
    (within : ∀ name content executable,
      session.disk.entry? (place ++ [name]) = some (.file content executable) →
      ∀ text, Text.Utf8.decode content = .ok text →
        Json.WithinBounds levels (Text.unifyBreaks text)) :
    ∃ (names : List String) (listings : List Listing) (warnings : List Notice),
      (Listing.collect levels directory).runIn session =
        (.ok listings, { session with notices := session.notices ++ warnings }) ∧
      names.Pairwise (· < ·) ∧
      (∀ name, name ∈ names ↔ ∃ content executable,
        session.disk.entry? (place ++ [name]) = some (.file content executable)) ∧
      Listing.AccountsFor levels session.disk (names.map directory.entry) listings warnings := by
  let names := (session.disk.namesIn place).filter fun name =>
    session.disk.isFileAt (place ++ [name])
  have are (name : String) : name ∈ names ↔ ∃ content executable,
      session.disk.entry? (place ++ [name]) = some (.file content executable) := by
    rw [List.mem_filter, Disk.isFileAt_iff, Disk.mem_namesIn, and_iff_right_iff_imp]
    rintro ⟨content, executable, there⟩
    simp [there]
  -- Each of them is read where it lies, and its text is within the bounds.
  have readable : ∀ path ∈ names.map directory.entry, ∀ cause,
      Scheme.ofFile levels session.disk path ≠ .error (.cutShort cause) := by
    rintro path among cause cut
    obtain ⟨name, isFile, rfl⟩ := List.mem_map.mp among
    obtain ⟨content, executable, there⟩ := (are name).mp isFile
    obtain ⟨free, leads⟩ := listable.place?_entry (List.mem_filter.mp isFile).1
      (listable.plain name content executable there)
    have read : session.disk.readFile (directory.entry name) = .ok content :=
      Disk.readFile_eq_ok_iff.mpr ⟨free, _, leads, by rw [there]; rfl⟩
    exact Scheme.not_cutShort_of_readFile read (within name content executable there) cause cut
  rw [Listing.runIn_collect listable]
  obtain ⟨listings, warnings, ran, accounts⟩ | ⟨path, among, cause, _, cut, _⟩ :=
    Listing.runIn_ofFiles levels (names.map directory.entry) session
  · exact ⟨names, listings, warnings, ran, (Disk.pairwise_namesIn listable.once).filter _, are,
      accounts⟩
  · exact absurd cut (readable path among cause)

/-- A file that is no text is warned of, and the colorscheme behind it is listed all the same. -/
theorem collect_accounts_for_all_one_good :
    let night : Palette := ⟨Scheme.names.map fun name => (name, ⟨161, 178, 195⟩)⟩
    let place : Location := ["themes"]
    let directory := Path.ofString "/themes"
    let disk : Disk := ⟨[], [(place, .directory), (place ++ ["d.json"], .directory),
      (place ++ ["b.json"], .file (Text.Utf8.encode (Scheme.fileText night)) false),
      (place ++ ["a.json"], .file [0xFF] false)]⟩
    let session : Session := ⟨disk, night, []⟩
    disk.IsListable directory place ∧
    (∀ name content executable,
      disk.entry? (place ++ [name]) = some (.file content executable) →
      ∀ text, Text.Utf8.decode content = .ok text →
        Json.WithinBounds 987 (Text.unifyBreaks text)) ∧
    ∃ (listing : Listing) (warning : Notice),
      (Listing.collect 987 directory).runIn session = (.ok [listing], ⟨disk, night, [warning]⟩) ∧
      listing.name = "b" := by
  intro night place directory disk session
  have whole : night.IsWhole := ⟨by decide, by decide, by decide⟩
  -- The directory has three names, two of them of files.
  have names : ∀ name ∈ disk.namesIn place, name ∈ ["d.json", "b.json", "a.json"] := by
    intro name among
    rw [Disk.namesIn, List.mem_mergeSort] at among
    revert name
    decide
  have good : disk.entry? (place ++ ["b.json"]) =
      some (.file (Text.Utf8.encode (Scheme.fileText night)) false) := by rfl
  have bad : disk.entry? (place ++ ["a.json"]) = some (.file [0xFF] false) := by rfl
  have files : ∀ name content executable,
      disk.entry? (place ++ [name]) = some (.file content executable) →
        name = "a.json" ∧ content = [0xFF] ∨
          name = "b.json" ∧ content = Text.Utf8.encode (Scheme.fileText night) := by
    intro name content executable there
    have among := names name (Disk.mem_namesIn.mpr (by rw [there]; rfl))
    simp only [List.mem_cons, List.not_mem_nil, or_false] at among
    obtain rfl | rfl | rfl := among
    · cases there
    · rw [good] at there
      cases there
      exact .inr ⟨rfl, rfl⟩
    · rw [bad] at there
      cases there
      exact .inl ⟨rfl, rfl⟩
  have once : (disk.namesIn place).Nodup := by
    rw [Disk.namesIn, (List.mergeSort_perm _ _).nodup_iff]
    decide
  have listable : disk.IsListable directory place := by
    refine .of_names (by decide) (by decide) (by decide) once names ?_
    simp only [List.forall_mem_cons]
    exact ⟨⟨by decide, by decide, _, rfl⟩, ⟨by decide, by decide, _, rfl⟩,
      ⟨by decide, by decide, _, rfl⟩, by simp⟩
  have within : ∀ name content executable,
      disk.entry? (place ++ [name]) = some (.file content executable) →
      ∀ text, Text.Utf8.decode content = .ok text →
        Json.WithinBounds 987 (Text.unifyBreaks text) := by
    intro name content executable there text decoded
    obtain ⟨_, rfl⟩ | ⟨_, rfl⟩ := files name content executable there
    · cases decoded
    · rw [Text.Utf8.decode_encode] at decoded
      cases decoded
      exact Json.withinBounds_of_length_le (by decide +kernel) (by decide +kernel)
  obtain ⟨found, listings, warnings, ran, ordered, are, accounts⟩ :=
    collect_accounts_for_all 987 session directory place listable within
  -- Two lists in order with the same members are equal.
  have foundIs : found = ["a.json", "b.json"] := by
    have inOrder : ["a.json", "b.json"].Pairwise (· < ·) := by decide
    refine ordered.eq_of_mem_iff inOrder fun name => (are name).trans ⟨?_, ?_⟩
    · rintro ⟨content, executable, there⟩
      obtain ⟨rfl, _⟩ | ⟨rfl, _⟩ := files name content executable there <;> simp
    · intro among
      simp only [List.mem_cons, List.not_mem_nil, or_false] at among
      obtain rfl | rfl := among
      · exact ⟨_, _, bad⟩
      · exact ⟨_, _, good⟩
  have goodHeld : Scheme.ofFile 987 disk (directory.entry "b.json") = .ok night :=
    Scheme.ofFile_of_saved (by decide) whole (Disk.readFile_eq_ok_iff.mpr
      ⟨by decide, _, (listable.place?_entry (Disk.mem_namesIn.mpr (by rw [good]; rfl))
        (by decide)).2, by rw [good]; rfl⟩)
  have badHeld : (Scheme.ofFile 987 disk (directory.entry "a.json")).toOption = none := by rfl
  refine ⟨listable, within, ?_⟩
  rw [foundIs] at accounts
  cases accounts with
  | listed valid =>
    rw [valid] at badHeld
    cases badHeld
  | warned _ later =>
    cases later with
    | warned invalid => cases goodHeld.symm.trans invalid
    | listed valid shown last =>
      cases last
      refine ⟨_, _, ran, ?_⟩
      rw [(Listing.spec_of_ofPalette? shown).1]
      decide

/-- One number of too many digits keeps the colorscheme behind it from being listed. -/
theorem collect_cut_short_by_digits :
    let night : Palette := ⟨Scheme.names.map fun name => (name, ⟨161, 178, 195⟩)⟩
    let place : Location := ["themes"]
    let directory := Path.ofString "/themes"
    let disk : Disk := ⟨[], [(place, .directory),
      (place ++ ["a.json"], .file (Text.Utf8.encode (List.replicate 4301 '1')) false),
      (place ++ ["b.json"], .file (Text.Utf8.encode (Scheme.fileText night)) false)]⟩
    let session : Session := ⟨disk, night, []⟩
    disk.IsListable directory place ∧
      Scheme.ofFile 987 disk (directory.entry "b.json") = .ok night ∧
      (Listing.collect 987 directory).runIn session =
        (.error (.cutShort (.tooManyDigits ⟨4301⟩)), session) := by
  intro night place directory disk session
  have whole : night.IsWhole := ⟨by decide, by decide, by decide⟩
  have bad : disk.entry? (place ++ ["a.json"]) =
      some (.file (Text.Utf8.encode (List.replicate 4301 '1')) false) := by rfl
  have good : disk.entry? (place ++ ["b.json"]) =
      some (.file (Text.Utf8.encode (Scheme.fileText night)) false) := by rfl
  have once : (disk.namesIn place).Nodup := by
    rw [Disk.namesIn, (List.mergeSort_perm _ _).nodup_iff]
    decide
  have namesAre : disk.namesIn place = ["a.json", "b.json"] := by
    have inOrder : ["a.json", "b.json"].Pairwise (· < ·) := by decide
    refine (Disk.pairwise_namesIn once).eq_of_mem_iff inOrder fun name => ?_
    rw [Disk.namesIn, List.mem_mergeSort]
    exact .rfl
  have listable : disk.IsListable directory place := by
    refine .of_names (by decide) (by decide) (by decide) once
      (fun name among => by rwa [namesAre] at among) ?_
    simp only [List.forall_mem_cons]
    exact ⟨⟨by decide, by decide, _, rfl⟩, ⟨by decide, by decide, _, rfl⟩, by simp⟩
  -- Each of the two files is read where it lies.
  have held {name : String} {content : Text.Bytes} (among : name ∈ disk.namesIn place)
      (plain : '\x00' ∉ name.toList)
      (there : disk.entry? (place ++ [name]) = some (.file content false)) :
      disk.readFile (directory.entry name) = .ok content := by
    obtain ⟨free, leads⟩ := listable.place?_entry among plain
    exact Disk.readFile_eq_ok_iff.mpr ⟨free, _, leads, by rw [there]; rfl⟩
  have beyond : Scheme.ofFile 987 disk (directory.entry "a.json") =
      .error (.cutShort (.tooManyDigits ⟨4301⟩)) := by
    rw [Scheme.ofFile, held (by rw [namesAre]; decide) (by decide) bad]
    dsimp only
    rw [Scheme.ofBytes_of_digits 987 (by decide)]
    rfl
  refine ⟨listable, Scheme.ofFile_of_saved (by decide) whole
    (held (by rw [namesAre]; decide) (by decide) good), ?_⟩
  have files : (disk.namesIn place).filter (fun name => disk.isFileAt (place ++ [name])) =
      ["a.json", "b.json"] := by
    rw [namesAre]
    rfl
  rw [Listing.runIn_collect listable, files, List.map_cons, Listing.ofFiles,
    Work.runIn_bind_of_ok (Work.runIn_disk session), beyond]
  rfl

end Themer
