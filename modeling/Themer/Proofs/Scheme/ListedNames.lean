import Themer.Layout
import Themer.Proofs.Scheme.Listed

/-! A colorscheme is loaded by the name it is listed under, if its file has the extension. -/

namespace Themer

/-- The extension that the files of colorschemes are looked for with. -/
def Scheme.extension : String := ".json"

/-- Without the extension, a name is what the extension was put behind, unless that is nothing. -/
theorem Path.stemOf_append_extension {short : List Char} (some : short ≠ []) :
    stemOf (short ++ Scheme.extension.toList) = short := by
  have filled : 0 < short.length := List.length_pos_iff.mpr some
  have size : (short ++ Scheme.extension.toList).length = short.length + 5 := by
    rw [List.length_append]
    rfl
  -- Read from the end, the last dot comes behind the four letters of the extension.
  have dot : lastDot? (short ++ Scheme.extension.toList) = .some short.length := by
    have backwards : (short ++ Scheme.extension.toList).reverse =
        ['n', 'o', 's', 'j', '.'] ++ short.reverse := by
      rw [List.reverse_append]
      rfl
    rw [lastDot?, backwards, size]
    simp [List.findIdx?_cons]
  have within : short.length < (short ++ Scheme.extension.toList).length - 1 := by omega
  rw [stemOf, dot]
  dsimp only
  rw [if_pos ⟨filled, within⟩, List.take_left' rfl]

namespace Listing

variable {session after : Session} {directory : Path} {listings : List Listing}

/-- Among files that are accounted for, every listing is of one that holds its colorscheme. -/
theorem AccountsFor.of_mem {levels : Nat} {disk : Disk} {paths : List Path}
    {warnings : List Notice} (accounts : AccountsFor levels disk paths listings warnings)
    {listing : Listing} (among : listing ∈ listings) :
    ∃ path ∈ paths, ∃ palette, Scheme.ofFile levels disk path = .ok palette ∧
      ofPalette? path palette = some listing := by
  -- By induction on the account, which goes through the files in their order.
  induction accounts with
  | none => cases among
  | listed valid shown _ ih =>
    obtain rfl | later := List.mem_cons.mp among
    · exact ⟨_, by simp, _, valid, shown⟩
    · obtain ⟨path, inRest, found⟩ := ih later
      exact ⟨path, by simp [inRest], found⟩
  | warned _ _ ih =>
    obtain ⟨path, inRest, found⟩ := ih among
    exact ⟨path, by simp [inRest], found⟩

/-- What the system tells to be files are paths that it was asked about. -/
theorem mem_of_filesAmong {disk : Disk} {paths found : List Path}
    (told : filesAmong disk paths = .ok found) :
    ∀ path ∈ found, path ∈ paths ∧ disk.isFile path = .ok true := by
  -- One path a step; an error at any of them would have left nothing found.
  induction paths generalizing found with
  | nil =>
    cases told
    simp
  | cons path rest ih =>
    rw [filesAmong] at told
    cases isFile : disk.isFile path with
    | error e =>
      rw [isFile] at told
      cases told
    | ok answer =>
      cases others : filesAmong disk rest with
      | error e =>
        rw [isFile, others] at told
        cases told
      | ok more =>
        rw [isFile, others] at told
        have kept := ih others
        -- The path itself comes first if it is one of a file.
        cases answer <;> cases told
        · exact fun other among => ⟨by simp [(kept other among).1], (kept other among).2⟩
        · rw [if_pos rfl, List.forall_mem_cons]
          exact ⟨⟨by simp, isFile⟩, fun other among =>
            ⟨by simp [(kept other among).1], (kept other among).2⟩⟩

/-- Whatever is listed of a directory lies in it, as a file with a colorscheme. -/
theorem of_mem_collect {levels : Nat}
    (ended : (collect levels directory).runIn session = (.ok listings, after)) :
    (∃ warnings, after = warnedOf session warnings) ∧
    ∃ names, session.disk.list directory = .ok names ∧ ∀ listing ∈ listings, ∃ name ∈ names,
      session.disk.isFile (directory.entry name) = .ok true ∧
      ∃ palette, Scheme.ofFile levels session.disk (directory.entry name) = .ok palette ∧
        ofPalette? (directory.entry name) palette = some listing := by
  -- Collecting has ended well, and so has each of its steps: names, files, and what they hold.
  rw [collect, Work.runIn_bind_of_ok (Work.runIn_disk session)] at ended
  obtain ⟨names, _, named, ended⟩ := Work.ok_of_bind ended
  obtain ⟨files, _, told, ended⟩ := Work.ok_of_bind ended
  cases known : session.disk.list directory with
  | error denial =>
    rw [known] at named
    cases denial <;> cases named
  | ok own =>
    rw [known] at named
    cases named
    cases among : filesAmong session.disk (names.map directory.entry) with
    | error e =>
      rw [among] at told
      cases told
    | ok found =>
      rw [among] at told
      cases told
      obtain ⟨_, warnings, ran, accounts⟩ | ⟨_, _, _, _, _, ran⟩ :=
        runIn_ofFiles levels files session
      · cases ended.symm.trans ran
        -- A listing is of a file, that of a path asked about, and that of a name listed.
        refine ⟨⟨warnings, rfl⟩, names, rfl, fun listing listed => ?_⟩
        obtain ⟨path, inFiles, held⟩ := accounts.of_mem listed
        obtain ⟨inside, isFile⟩ := mem_of_filesAmong among path inFiles
        obtain ⟨name, inNames, rfl⟩ := List.mem_map.mp inside
        exact ⟨name, inNames, isFile, held⟩
      · cases ended.symm.trans ran

/-- A directory in which one file lies, and that holds a colorscheme, is listed as that one. -/
theorem runIn_collect_of_alone {levels : Nat} (session : Session) {place : Location}
    {name : String} {palette : Palette} (listable : session.disk.IsListable directory place)
    (alone : session.disk.namesIn place = [name])
    (isFile : session.disk.isFileAt (place ++ [name]) = true)
    (valid : Scheme.ofFile levels session.disk (directory.entry name) = .ok palette) :
    ∃ listing, (collect levels directory).runIn session = (.ok [listing], session) ∧
      ofPalette? (directory.entry name) palette = some listing := by
  obtain ⟨listing, shown⟩ :=
    ofPalette?_of_isWhole (directory.entry name) (Scheme.isWhole_of_ofFile valid)
  refine ⟨listing, ?_, shown⟩
  have files : [name].filter (fun name => session.disk.isFileAt (place ++ [name])) = [name] := by
    simp [isFile]
  rw [runIn_collect listable, alone, files, List.map_singleton, ofFiles,
    Work.runIn_bind_of_ok (Work.runIn_disk session), valid]
  dsimp only
  rw [ofFiles, Work.runIn_bind_of_ok (Work.runIn_pure _ _), shown]
  rfl

end Listing

/--
A listed colorscheme is loaded under the name it is listed by.

Its file has to have that name with the extension behind it, as loading looks for no other file.
-/
theorem listed_loads (levels : Levels) (layout : Layout) (session after : Session)
    (names : List String) (listings : List Listing)
    (known : session.disk.list layout.schemesDir = .ok names)
    (whole : ∀ name ∈ names, '/' ∉ name.toList)
    (ended : (Listing.collect levels.list layout.schemesDir).runIn session =
      (.ok listings, after)) :
    ∀ listing ∈ listings, ∃ name ∈ names,
      session.disk.isFile (layout.schemesDir.entry name) = .ok true ∧
      listing.name = String.ofList (Path.stemOf name.toList) ∧
      ∀ short, short ≠ "" → name = short ++ Scheme.extension →
        listing.name = short ∧ ∃ palette,
          (Scheme.load levels.load (layout.schemeFile listing.name)).runIn after =
            (.ok palette, after) ∧
          palette.get? Scheme.background = some listing.background ∧
          palette.get? Scheme.foreground = some listing.foreground := by
  obtain ⟨⟨warnings, rfl⟩, own, alike, listed⟩ := Listing.of_mem_collect ended
  obtain rfl : own = names := Except.ok.inj (alike.symm.trans known)
  intro listing among
  obtain ⟨name, inside, isFile, palette, valid, shown⟩ := listed listing among
  obtain ⟨nameIs, background, foreground⟩ := Listing.spec_of_ofPalette? shown
  rw [Path.stem, Path.name_entry] at nameIs
  refine ⟨name, inside, isFile, nameIs, ?_⟩
  rintro short some rfl
  have filled : short.toList ≠ [] := by simpa using some
  have shortIs : listing.name = short := by
    rw [nameIs, String.toList_append, Path.stemOf_append_extension filled, String.ofList_toList]
  refine ⟨shortIs, palette, ?_, background, foreground⟩
  -- The file that is looked for under the short name is the very one that was listed.
  have clean : Path.IsCleanName (short ++ Scheme.extension) := by
    refine ⟨?_, whole _ inside⟩
    rw [String.toList_append, Path.isName]
    cases spelled : short.toList with
    | nil => exact absurd spelled filled
    | cons c rest => simp [Scheme.extension]
  have same : layout.schemeFile short = layout.schemesDir.entry (short ++ Scheme.extension) :=
    Path.child_of_isCleanName _ clean
  rw [shortIs, Scheme.runIn_load, same]
  have held : Scheme.ofFile levels.load (Listing.warnedOf session warnings).disk
      (layout.schemesDir.entry (short ++ Scheme.extension)) = .ok palette :=
    Scheme.ofFile_of_le levels.list_le_load valid
  rw [held]
  rfl

/-- A file whose short name has a dot of its own is listed under that, and loaded by it. -/
theorem listed_loads_dotted :
    let night : Palette := ⟨Scheme.names.map fun name => (name, ⟨161, 178, 195⟩)⟩
    let layout : Layout := ⟨Path.ofString "/home", Path.ofString "/config", Path.ofString "/cache"⟩
    let place : Location := ["config", "colorschemes"]
    let disk : Disk := ⟨[], [(["config"], .directory), (place, .directory),
      (place ++ ["night.v2.json"], .file (Text.Utf8.encode (Scheme.fileText night)) false)]⟩
    let levels : Levels := ⟨989, 987, 989, 994, by decide⟩
    let session : Session := ⟨disk, ⟨[]⟩, []⟩
    disk.list layout.schemesDir = .ok ["night.v2.json"] ∧
    (∀ name ∈ ["night.v2.json"], '/' ∉ name.toList) ∧
    ∃ listing palette,
      (Listing.collect levels.list layout.schemesDir).runIn session = (.ok [listing], session) ∧
      listing.name = "night.v2" ∧
      (Scheme.load levels.load (layout.schemeFile listing.name)).runIn session =
        (.ok palette, session) ∧
      palette.get? Scheme.background = some listing.background := by
  intro night layout place disk levels session
  have complete : night.IsWhole := ⟨by decide, by decide, by decide⟩
  have alone : disk.namesIn place = ["night.v2.json"] := by decide +kernel
  have listable : disk.IsListable layout.schemesDir place := by
    refine .of_names (by decide) (by decide) (by decide) (by rw [alone]; decide)
      (fun name among => by rwa [alone] at among) ?_
    rw [List.forall_mem_singleton]
    exact ⟨by decide, by decide, _, rfl⟩
  have held : Scheme.ofFile levels.list disk (layout.schemesDir.entry "night.v2.json") =
      .ok night :=
    Scheme.ofFile_of_saved (by decide) complete (Disk.readFile_eq_ok_iff.mpr
      ⟨by decide, place ++ ["night.v2.json"], by decide, rfl⟩)
  have known : disk.list layout.schemesDir = .ok ["night.v2.json"] := by
    rw [Disk.list_of_place? listable.free listable.leads listable.isDirectory, alone]
  have whole : ∀ name ∈ ["night.v2.json"], '/' ∉ name.toList := by decide
  obtain ⟨listing, ended, _⟩ := Listing.runIn_collect_of_alone session listable
    alone (by decide) held
  obtain ⟨name, among, _, _, loads⟩ :=
    listed_loads levels layout session session _ [listing] known whole ended listing
      List.mem_cons_self
  obtain ⟨nameIs, palette, loaded, background, _⟩ :=
    loads "night.v2" (by decide) (List.mem_singleton.mp among)
  exact ⟨known, whole, listing, palette, ended, nameIs, loaded, background⟩

/-- A colorscheme in a file without the extension is listed, but not found under its name. -/
theorem listed_not_loaded :
    let night : Palette := ⟨Scheme.names.map fun name => (name, ⟨161, 178, 195⟩)⟩
    let layout : Layout := ⟨Path.ofString "/home", Path.ofString "/config", Path.ofString "/cache"⟩
    let place : Location := ["config", "colorschemes"]
    let disk : Disk := ⟨[], [(["config"], .directory), (place, .directory),
      (place ++ ["night.txt"], .file (Text.Utf8.encode (Scheme.fileText night)) false)]⟩
    let levels : Levels := ⟨989, 987, 989, 994, by decide⟩
    let session : Session := ⟨disk, ⟨[]⟩, []⟩
    ∃ listing,
      (Listing.collect levels.list layout.schemesDir).runIn session = (.ok [listing], session) ∧
      listing.name = "night" ∧
      (Scheme.load levels.load (layout.schemeFile listing.name)).runIn session =
        (.error (.reported (.scheme ⟨layout.schemeFile "night",
          .unreadable ⟨.notFound, "/config/colorschemes/night.json"⟩⟩)), session) := by
  intro night layout place disk levels session
  have complete : night.IsWhole := ⟨by decide, by decide, by decide⟩
  have alone : disk.namesIn place = ["night.txt"] := by decide +kernel
  have listable : disk.IsListable layout.schemesDir place := by
    refine .of_names (by decide) (by decide) (by decide) (by rw [alone]; decide)
      (fun name among => by rwa [alone] at among) ?_
    rw [List.forall_mem_singleton]
    exact ⟨by decide, by decide, _, rfl⟩
  have held : Scheme.ofFile levels.list disk (layout.schemesDir.entry "night.txt") = .ok night :=
    Scheme.ofFile_of_saved (by decide) complete (Disk.readFile_eq_ok_iff.mpr
      ⟨by decide, place ++ ["night.txt"], by decide, rfl⟩)
  obtain ⟨listing, ended, shown⟩ := Listing.runIn_collect_of_alone session listable
    alone (by decide) held
  have nameIs : listing.name = "night" := by
    rw [(Listing.spec_of_ofPalette? shown).1]
    decide
  have nothing : disk.readFile (layout.schemeFile "night") =
      .error (.os ⟨.notFound, "/config/colorschemes/night.json"⟩) := by decide
  refine ⟨listing, ended, nameIs, ?_⟩
  rw [nameIs, Scheme.runIn_load, Scheme.ofFile, nothing]
  rfl

end Themer
