import Themer.Proofs.Blueprint.Discovered
import Themer.Proofs.Command.Problems

/-! A run that ends well: its stages come one after the other, and may be gone through again. -/

namespace Themer

namespace Layout

/-- The directories of blueprints are among those that are made. -/
theorem mem_directories {layout : Layout} {directory : Path}
    (among : directory ∈ layout.blueprintDirs) : directory ∈ layout.directories := by
  simp only [blueprintDirs, directories, List.mem_cons] at among ⊢
  tauto

/-- Once all directories were made, each of them is there. -/
theorem seen_of_makeEach {levels : Nat} {directories : List Path} {session after : Session}
    (made : (makeEach levels directories).runIn session = (.ok (), after)) :
    ∀ directory ∈ directories, after.disk.look directory = .ok (some .directory) := by
  -- One directory a step, each step from the tree the one before has left.
  induction directories generalizing session with
  | nil => simp
  | cons directory rest ih =>
    rw [runIn_makeEach_cons] at made
    cases ensured : session.disk.ensurePath levels directory with
    | mk outcome disk =>
      rw [ensured] at made
      cases outcome with
      | error denial => cases denial <;> cases made
      | ok done =>
        dsimp only at made
        -- The directories made after it leave the first one where it is.
        have later := (changed_of_makeEach levels rest { session with disk }).1
        rw [made] at later
        rw [List.forall_mem_cons]
        exact ⟨later.look_directory (Disk.look_of_ensurePath ensured), ih made⟩

/-- Where all directories are there, making them does nothing. -/
theorem runIn_makeEach_of_seen {directories : List Path} {session : Session}
    (seen : ∀ directory ∈ directories, session.disk.look directory = .ok (some .directory))
    (levels : Nat) : (makeEach levels directories).runIn session = (.ok (), session) := by
  -- The session stays the same all along, so nothing is generalised over.
  induction directories with
  | nil => rfl
  | cons directory rest ih =>
    rw [List.forall_mem_cons] at seen
    rw [runIn_makeEach_cons, Disk.ensurePath_of_look seen.1]
    exact ih seen.2

end Layout

namespace Command

variable {environment : Environment} {disk : Disk} {request : Request} {batch : Batch}
  {begun after : Session}

/-- A request gets as far as its batch: it is prepared, and what it builds is gathered. -/
structure Gathers (environment : Environment) (disk : Disk) (request : Request) (batch : Batch)
    (begun : Session) : Prop where
  prepared : (request.prepare environment).runIn (.start disk) =
    (.ok (batch.layout, batch.settings), .start (preparedDisk environment disk))
  gathered : ∃ file, request.action.schemeFile? batch.layout = some file ∧
    (request.action.gather environment batch.layout batch.settings file).runIn
      (.start (preparedDisk environment disk)) = (.ok batch, begun)

/-- A request gathers one batch only. -/
theorem Gathers.unique {other : Batch} {begunOther : Session}
    (gathers : Gathers environment disk request batch begun)
    (again : Gathers environment disk request other begunOther) :
    other = batch ∧ begunOther = begun := by
  obtain ⟨prepared, file, builds, gathered⟩ := gathers
  obtain ⟨preparedAgain, fileAgain, buildsAgain, gatheredAgain⟩ := again
  -- Both are runs from one session: first of preparing, then of gathering from its one file.
  have same := prepared.symm.trans preparedAgain
  simp only [Prod.mk.injEq, Except.ok.injEq, and_true] at same
  rw [← same.1, builds] at buildsAgain
  cases buildsAgain
  rw [← same.1, ← same.2, gathered] at gatheredAgain
  cases gatheredAgain
  exact ⟨rfl, rfl⟩

/-- A request that builds and ends well has gathered a batch and finished it. -/
theorem gathers_of_run {lines : List String}
    (builds : ∀ layout, (request.action.schemeFile? layout).isSome)
    (ended : (request.run environment).runIn (.start disk) = (.ok lines, after)) :
    ∃ batch begun, Gathers environment disk request batch begun ∧
      (batch.finish environment).runIn begun = (.ok (), after) := by
  rw [run_eq] at ended
  obtain ⟨⟨layout, settings⟩, made, prepared, performed⟩ := Work.ok_of_bind ended
  -- Whatever preparing ends with, it leaves a fresh session in the prepared tree.
  obtain ⟨outcome, prepares, _⟩ := runIn_prepare environment request disk
  obtain rfl : made = .start (preparedDisk environment disk) :=
    congrArg Prod.snd (prepared.symm.trans prepares)
  obtain ⟨file, builds⟩ := Option.isSome_iff_exists.mp (builds layout)
  dsimp only at performed
  rw [perform_eq environment settings builds] at performed
  obtain ⟨batch, begun, gathered, rest⟩ := Work.ok_of_bind performed
  obtain ⟨_, last, finished, done⟩ := Work.ok_of_bind rest
  cases done
  obtain ⟨rfl, rfl, _⟩ := ofFile_of_gather gathered
  exact ⟨batch, begun, ⟨prepared, file, builds, gathered⟩, finished⟩

/-- What a request that gathers a batch does from there is to finish it. -/
theorem Gathers.run_eq (gathers : Gathers environment disk request batch begun) :
    (request.run environment).runIn (.start disk) =
      (batch.finish environment >>= fun _ => pure []).runIn begun := by
  obtain ⟨prepared, file, builds, gathered⟩ := gathers
  rw [Command.run_eq, Work.runIn_bind_of_ok prepared]
  dsimp only
  rw [perform_eq environment batch.settings builds, Work.runIn_bind_of_ok gathered]

/-- A request that gathers a batch and finishes it ends well. -/
theorem Gathers.run (gathers : Gathers environment disk request batch begun)
    (finished : (batch.finish environment).runIn begun = (.ok (), after)) :
    (request.run environment).runIn (.start disk) = (.ok [], after) := by
  rw [gathers.run_eq, Work.runIn_bind_of_ok finished]
  rfl

/-- A request that gathers a batch fails as finishing it fails. -/
theorem Gathers.run_of_error {failure : Failure Problem}
    (gathers : Gathers environment disk request batch begun)
    (failed : (batch.finish environment).runIn begun = (.error failure, after)) :
    (request.run environment).runIn (.start disk) = (.error failure, after) := by
  rw [gathers.run_eq, Work.runIn_bind_of_error failed]

/-- A run of the program that ends with status zero is one whose request ends well. -/
theorem status_zero_iff {arguments : List String} (asked : Request.read arguments = .ok request) :
    (run environment arguments disk).ending = .status 0 ↔
      ∃ lines, ((request.run environment).runIn (.start disk)).1 = .ok lines := by
  have started : (request.run environment).run.run ⟨disk, ⟨[]⟩, []⟩ =
      (request.run environment).runIn (.start disk) := rfl
  simp only [Command.run, asked, Request.outcome, started]
  -- A failure ends the run with another status or with none, whichever of the two kinds it is.
  cases (request.run environment).runIn (.start disk) with
  | mk result after =>
    cases result with
    | ok lines => simp
    | error failure => cases failure <;> simp

/-- What a run of the program leaves is the disk of its request. -/
theorem disk_run {arguments : List String} (asked : Request.read arguments = .ok request) :
    (run environment arguments disk).disk =
      ((request.run environment).runIn (.start disk)).2.disk := by
  simp only [Command.run, asked]
  exact (outcome_eq environment disk request).1

/-- A run that gathers a batch and finishes it ends well, and leaves the disk of its end. -/
theorem Gathers.left {arguments : List String}
    (gathers : Gathers environment disk request batch begun)
    (asked : Request.read arguments = .ok request)
    (finished : (batch.finish environment).runIn begun = (.ok (), after)) :
    (Command.run environment arguments disk).ending = .status 0 ∧
      (Command.run environment arguments disk).disk = after.disk := by
  have ran := gathers.run finished
  refine ⟨(status_zero_iff asked).mpr ⟨[], by rw [ran]⟩, ?_⟩
  rw [disk_run asked, ran]

/-- In a layout that there is, the directories of that are the ones made. -/
theorem preparedDisk_eq {layout : Layout}
    (layoutIs : Layout.ofEnvironment environment.bindings = .ok layout) (disk : Disk) :
    preparedDisk environment disk =
      ((layout.makeDirectories environment.levels.make).runIn (.start disk)).2.disk := by
  rw [preparedDisk, layoutIs]

/-- What preparing has settled: the layout, its directories in the tree, and the settings. -/
theorem Gathers.ready (gathers : Gathers environment disk request batch begun) :
    Layout.ofEnvironment environment.bindings = .ok batch.layout ∧
      (∀ directory ∈ batch.layout.directories,
        (preparedDisk environment disk).look directory = .ok (some .directory)) ∧
      request.settings environment batch.layout (preparedDisk environment disk) =
        .ok batch.settings := by
  obtain ⟨outcome, prepares, settled⟩ := runIn_prepare environment request disk
  obtain rfl : outcome = .ok (batch.layout, batch.settings) :=
    congrArg Prod.fst (prepares.symm.trans gathers.prepared)
  obtain ⟨layoutIs, settingsAre⟩ := settled _ _ rfl
  refine ⟨layoutIs, ?_, settingsAre⟩
  -- Had a directory not been made, preparing would have failed.
  have prepared := gathers.prepared
  rw [Request.prepare, layoutIs] at prepared
  obtain ⟨layout, _, found, prepared⟩ := Work.ok_of_bind prepared
  cases found
  obtain ⟨_, between, made, _⟩ := Work.ok_of_bind prepared
  have seen := Layout.seen_of_makeEach made
  rwa [preparedDisk_eq layoutIs, made]

/-- Where the directories are there, preparing leaves the tree alone and reads the settings. -/
theorem runIn_prepare_of_seen {layout : Layout} {settings : Settings}
    (layoutIs : Layout.ofEnvironment environment.bindings = .ok layout)
    (seen : ∀ directory ∈ layout.directories, disk.look directory = .ok (some .directory))
    (read : request.settings environment layout disk = .ok settings) :
    preparedDisk environment disk = disk ∧
      (request.prepare environment).runIn (.start disk) =
        (.ok (layout, settings), .start disk) := by
  have made : (layout.makeDirectories environment.levels.make).runIn (.start disk) =
      (.ok (), .start disk) :=
    Layout.runIn_makeEach_of_seen seen _
  have same : preparedDisk environment disk = disk := by
    rw [preparedDisk_eq layoutIs, made]
    rfl
  refine ⟨same, ?_⟩
  -- Three steps: the directories, which are there, the tree as it is, and the settings in it.
  rw [Request.prepare, layoutIs]
  change (layout.makeDirectories environment.levels.make >>= _).runIn (.start disk) = _
  rw [Work.runIn_bind_of_ok made, Work.runIn_bind_of_ok (Work.runIn_disk _)]
  change (Work.ofExcept (request.settings environment layout disk) >>= _).runIn _ = _
  rw [read]
  rfl

/-- To remember a colorscheme is to write its file, and a refusal is warned of. -/
theorem runIn_remember {palette : Palette} {file : Path} {session : Session}
    (inside : session.disk.look file.parent = .ok (some .directory)) :
    (remember environment palette file).runIn session =
      match session.disk.writeFile file (Text.Utf8.encode (Scheme.fileText palette)) with
      | .ok disk => (.ok (), { session with disk })
      | .error (.os e) => (.ok (), { session with notices := session.notices ++ [⟨.warning,
          (s!"While storing a copy of the current colorscheme in `{file.text}`. " ++
            e.message)⟩] })
      | .error other => (.error (.cutShort (.denied other)), session) := by
  rw [remember, Work.runIn_tryCatch, Work.runIn_bind, Scheme.runIn_save,
    Disk.ensurePath_of_look inside]
  dsimp only
  -- The handler takes a refusal of the system alone, and any other goes through it.
  cases session.disk.writeFile file (Text.Utf8.encode (Scheme.fileText palette)) with
  | ok saved => rfl
  | error denial => cases denial <;> rfl

/-- The file of the colorscheme loaded last lies in a directory of the layout. -/
theorem currentScheme_inside {layout : Layout}
    (seen : ∀ directory ∈ layout.directories, disk.look directory = .ok (some .directory)) :
    disk.look layout.currentScheme.parent = .ok (some .directory) := by
  have clean : Path.IsCleanName "current.json" := by decide
  have parent : layout.currentScheme.parent = layout.cacheDir := by
    rw [Layout.currentScheme, Path.child_of_isCleanName _ clean, Path.parent, Path.entry,
      List.dropLast_concat]
  rw [parent]
  exact seen _ (by simp [Layout.directories])

/-- A load takes the colorscheme into use, saves it, and then finds the blueprints. -/
theorem discover_of_gather {layout : Layout} {settings : Settings} {name : String} {file : Path}
    {session : Session}
    (seen : ∀ directory ∈ layout.directories, session.disk.look directory = .ok (some .directory))
    (gathered : (Action.gather environment layout settings (.load name) file).runIn session =
      (.ok batch, begun)) :
    begun.palette = batch.scheme ∧
      (begun.disk = session.disk ∨ session.disk.writeFile layout.currentScheme
        (Text.Utf8.encode (Scheme.fileText batch.scheme)) = .ok begun.disk) ∧
      (∀ directory ∈ layout.directories, begun.disk.look directory = .ok (some .directory)) ∧
      (Blueprint.discover layout.blueprintDirs).runIn begun = (.ok batch.sources, begun) := by
  -- The steps of the load in turn, each of which has ended well.
  obtain ⟨scheme, between, loaded, later⟩ := Work.ok_of_bind gathered
  rw [Scheme.runIn_load] at loaded
  obtain rfl : session = between := congrArg Prod.snd loaded
  obtain ⟨_, adopted, adopts, later⟩ := Work.ok_of_bind later
  cases adopts
  obtain ⟨sources, chosen, chooses, done⟩ := Work.ok_of_bind later
  cases done
  obtain ⟨_, told, tells, later⟩ := Work.ok_of_bind chooses
  cases tells
  obtain ⟨_, remembered, remembers, discovers⟩ := Work.ok_of_bind later
  obtain ⟨paletteIs, diskIs⟩ : remembered.palette = scheme ∧
      (remembered.disk = session.disk ∨ session.disk.writeFile layout.currentScheme
        (Text.Utf8.encode (Scheme.fileText scheme)) = .ok remembered.disk) := by
    -- Its directory is there, so saving comes down to writing the file.
    rw [runIn_remember (by exact currentScheme_inside seen)] at remembers
    dsimp only at remembers
    split at remembers
    · rename_i saved written
      cases remembers
      exact ⟨rfl, .inr written⟩
    · cases remembers
      exact ⟨rfl, .inl rfl⟩
    · cases remembers
  -- Whether the file was written or not, the directories are still there.
  have still : ∀ directory ∈ layout.directories,
      remembered.disk.look directory = .ok (some .directory) := by
    intro directory among
    obtain same | written := diskIs
    · rw [same]
      exact seen directory among
    · obtain ⟨_, _, changed, _⟩ := Disk.changed_of_writeFile written
      exact changed.look_directory (seen directory among)
  obtain ⟨rfl, _⟩ := Blueprint.mem_of_discover
    (fun directory among => still directory (Layout.mem_directories among)) discovers
  exact ⟨paletteIs, diskIs, still, discovers⟩

/-- That a colorscheme of a given name was loaded is told first of all. -/
def loadedNotice (name : String) : Notice := ⟨.info, s!"Loaded colorscheme {name}"⟩

/-- A load gathers its batch where the directories, the settings and the scheme are there. -/
theorem gathers_of_load {loudness : Loudness} {config : Option Value} {name : String}
    {layout : Layout} {settings : Settings} {scheme : Palette} {saved : Disk}
    {sources : List Path}
    (layoutIs : Layout.ofEnvironment environment.bindings = .ok layout)
    (seen : ∀ directory ∈ layout.directories, disk.look directory = .ok (some .directory))
    (read : Request.settings environment ⟨loudness, config, .load name⟩ layout disk = .ok settings)
    (loaded : Scheme.ofFile environment.levels.load disk (layout.schemeFile name) = .ok scheme)
    (written : disk.writeFile layout.currentScheme
      (Text.Utf8.encode (Scheme.fileText scheme)) = .ok saved)
    (found : ((Blueprint.discover layout.blueprintDirs).runIn
      ⟨saved, scheme, [loadedNotice name]⟩).1 = .ok sources) :
    Gathers environment disk ⟨loudness, config, .load name⟩
      ⟨layout, settings, scheme, sources, true⟩
      ⟨saved, scheme, [loadedNotice name]⟩ := by
  obtain ⟨same, prepares⟩ := runIn_prepare_of_seen layoutIs seen read
  have told : (remember environment scheme layout.currentScheme).runIn
      ⟨disk, scheme, [loadedNotice name]⟩ =
        (.ok (), ⟨saved, scheme, [loadedNotice name]⟩) := by
    rw [runIn_remember (by exact currentScheme_inside seen), written]
  have discovers : (Blueprint.discover layout.blueprintDirs).runIn
      ⟨saved, scheme, [loadedNotice name]⟩ =
        (.ok sources, ⟨saved, scheme, [loadedNotice name]⟩) := by
    -- The saved file takes the place of no directory, so those of the blueprints can be seen.
    obtain ⟨_, _, changed, _⟩ := Disk.changed_of_writeFile written
    refine Blueprint.runIn_discover_of_seen (fun directory among => ?_) found
    exact changed.look_directory (seen directory (Layout.mem_directories among))
  refine ⟨by rw [same]; exact prepares, layout.schemeFile name, rfl, ?_⟩
  rw [same]
  refine (runIn_gather_of_loaded settings (.load name) (by exact loaded)).trans ?_
  change ((remember environment scheme layout.currentScheme >>= fun _ =>
    Blueprint.discover layout.blueprintDirs) >>= _).runIn
      ⟨disk, scheme, [loadedNotice name]⟩ = _
  rw [Work.runIn_bind, Work.runIn_bind_of_ok told, discovers]
  rfl

/-- A reload gathers its batch once it has read the saved scheme and chosen its blueprints. -/
theorem gathers_reload_iff {loudness : Loudness} {config : Option Value} {names : List Value}
    {withScript : Bool} {layout : Layout} {settings : Settings} {scheme : Palette}
    {sources : List Path} :
    let request : Request := ⟨loudness, config, .reload names withScript⟩
    let prepared := preparedDisk environment disk
    Gathers environment disk request ⟨layout, settings, scheme, sources, withScript⟩ begun ↔
      (request.prepare environment).runIn (.start disk) =
          (.ok (layout, settings), .start prepared) ∧
        Scheme.ofFile environment.levels.load prepared layout.currentScheme = .ok scheme ∧
        (request.action.choose environment layout scheme).runIn ⟨prepared, scheme, []⟩ =
          (.ok sources, begun) := by
  intro request prepared
  -- With the saved scheme read, all that is left of gathering is the choice of blueprints.
  have chooses
      (loaded : Scheme.ofFile environment.levels.load prepared layout.currentScheme = .ok scheme) :
      (request.action.gather environment layout settings layout.currentScheme).runIn
          (.start prepared) =
        (request.action.choose environment layout scheme >>= fun sources =>
          pure ⟨layout, settings, scheme, sources, withScript⟩).runIn ⟨prepared, scheme, []⟩ :=
    runIn_gather_of_loaded settings request.action (by exact loaded)
  constructor
  · rintro ⟨prepares, file, builds, gathered⟩
    cases builds
    obtain ⟨_, _, _, loaded⟩ := ofFile_of_gather gathered
    refine ⟨prepares, loaded, ?_⟩
    have gathered := (chooses loaded).symm.trans gathered
    obtain ⟨chosen, between, ran, done⟩ := Work.ok_of_bind gathered
    cases done
    exact ran
  · rintro ⟨prepares, loaded, ran⟩
    refine ⟨prepares, layout.currentScheme, rfl, (chooses loaded).trans ?_⟩
    rw [Work.runIn_bind_of_ok ran]
    rfl

/-- A reload of everything gathers its batch where the saved scheme is there as well. -/
theorem gathers_of_reload {loudness : Loudness} {config : Option Value} {withScript : Bool}
    {layout : Layout} {settings : Settings} {scheme : Palette} {sources : List Path}
    (layoutIs : Layout.ofEnvironment environment.bindings = .ok layout)
    (seen : ∀ directory ∈ layout.directories, disk.look directory = .ok (some .directory))
    (read : Request.settings environment ⟨loudness, config, .reload [] withScript⟩ layout disk =
      .ok settings)
    (loaded : Scheme.ofFile environment.levels.load disk layout.currentScheme = .ok scheme)
    (found : ((Blueprint.discover layout.blueprintDirs).runIn ⟨disk, scheme, []⟩).1 =
      .ok sources) :
    Gathers environment disk ⟨loudness, config, .reload [] withScript⟩
      ⟨layout, settings, scheme, sources, withScript⟩ ⟨disk, scheme, []⟩ := by
  obtain ⟨same, prepares⟩ := runIn_prepare_of_seen layoutIs seen read
  refine gathers_reload_iff.mpr ?_
  rw [same]
  exact ⟨prepares, loaded, Blueprint.runIn_discover_of_seen
    (fun directory among => seen directory (Layout.mem_directories among)) found⟩

/-- What blueprints start from is known once the format is. -/
theorem defaultsOf_of_format {layout : Layout} {settings : Settings} {format : Format}
    (formatIs : settings.format = .ok format) :
    defaultsOf layout settings = ⟨layout.home, format, layout.outDir⟩ := by
  rw [defaultsOf, formatIs]
  rfl

/-- A reload of one name gathers its blueprint where that is found. -/
theorem gathers_of_reload_named {loudness : Loudness} {config : Option Value} {withScript : Bool}
    {layout : Layout} {settings : Settings} {scheme : Palette} {name : String} {source : Path}
    (layoutIs : Layout.ofEnvironment environment.bindings = .ok layout)
    (seen : ∀ directory ∈ layout.directories, disk.look directory = .ok (some .directory))
    (read : Request.settings environment ⟨loudness, config, .reload [.given name] withScript⟩ layout
      disk = .ok settings)
    (loaded : Scheme.ofFile environment.levels.load disk layout.currentScheme = .ok scheme)
    (found : ((Blueprint.find layout name).runIn ⟨disk, scheme, []⟩).1 = .ok source) :
    Gathers environment disk ⟨loudness, config, .reload [.given name] withScript⟩
      ⟨layout, settings, scheme, [source], withScript⟩ ⟨disk, scheme, []⟩ := by
  obtain ⟨same, prepares⟩ := runIn_prepare_of_seen layoutIs seen read
  refine gathers_reload_iff.mpr ?_
  rw [same]
  refine ⟨prepares, loaded, ?_⟩
  rw [runIn_choose_named, found]
  rfl

/-- After a batch no script runs: the settings have none, or there is nothing at its path. -/
def Batch.IsQuiet (batch : Batch) (left : Disk) : Prop :=
  batch.settings.script? batch.layout = .ok none ∨
    ∃ script, batch.settings.script? batch.layout = .ok (some script) ∧
      left.isThere script = .ok false

/-- A batch after which no script runs is finished once its blueprints are built. -/
theorem runIn_finish_of_isQuiet {outputs : List Path} {built : Session}
    (ran : (Blueprint.buildAll batch.defaults batch.sources).runIn begun = (.ok outputs, built))
    (quiet : batch.IsQuiet built.disk) :
    ∃ after, (batch.finish environment).runIn begun = (.ok (), after) ∧
      after.disk = built.disk := by
  rw [Batch.finish, Work.runIn_bind_of_ok ran]
  -- The script is asked for, or it is not and there is nothing more to do.
  split
  · obtain none | ⟨script, named, absent⟩ := quiet
    · rw [scriptOf, none]
      exact ⟨built, rfl, rfl⟩
    · have ends := Script.runIn_runAfter environment script built
      rw [absent] at ends
      rw [scriptOf, named]
      exact ⟨_, ends, rfl⟩
  · exact ⟨built, rfl, rfl⟩

/-- A batch that is asked to run no script is finished once its blueprints are built. -/
theorem runIn_finish_of_no_script {outputs : List Path} {built : Session}
    (ran : (Blueprint.buildAll batch.defaults batch.sources).runIn begun = (.ok outputs, built))
    (plain : batch.withScript = false) :
    (batch.finish environment).runIn begun = (.ok (), built) := by
  rw [Batch.finish, Work.runIn_bind_of_ok ran, plain]
  rfl

/-- A batch whose script is disabled has its blueprints built if it is finished. -/
theorem buildAll_of_finish (disabled : batch.settings.script? batch.layout = .ok none)
    (finished : (batch.finish environment).runIn begun = (.ok (), after)) :
    ∃ outputs, (Blueprint.buildAll batch.defaults batch.sources).runIn begun =
      (.ok outputs, after) := by
  obtain ⟨outputs, built, ran, rest⟩ := Work.ok_of_bind finished
  -- No script is run, be it because none is asked for or because the settings have none.
  have ends : after = built := by
    split at rest
    · rw [scriptOf, disabled] at rest
      cases rest
      rfl
    · cases rest
      rfl
  exact ⟨outputs, by rw [ran, ends]⟩

end Command

end Themer
