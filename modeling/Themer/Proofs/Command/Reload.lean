import Themer.Proofs.Blueprint.Ledger
import Themer.Proofs.Command.Gathered
import Themer.Proofs.Disk.Restored

/-! A reload after a load: it builds the same, and leaves the tree as it is. -/

namespace Themer

namespace Command

/-- The file of settings that a request reads if it is there. -/
def Request.settingsFile (request : Request) (layout : Layout) : Path :=
  match request.config with
  | some (.given path) => Path.ofString path
  | _ => layout.configFile

/-- The places that the blueprints of a batch are written to, in order. -/
def Batch.places (batch : Batch) (begun : Session) : List Location :=
  (Blueprint.ledger batch.defaults batch.sources begun).filterMap fun entry =>
    entry.2.bind fun rendered => begun.disk.place? rendered.output

/--
The colorscheme of a batch was saved: the file of the one loaded last holds what is written for it.

A save that is granted leaves it so, unless a device takes in what is written.
-/
def Batch.IsSaved (batch : Batch) (begun : Session) : Prop :=
  begun.disk.readFile batch.layout.currentScheme =
    .ok (Text.Utf8.encode (Scheme.fileText batch.scheme))

/--
The outputs of a batch are apart from what the next run reads.

None lies in a directory of blueprints, and none is the saved colorscheme or the settings.
-/
structure Batch.KeepsApart (batch : Batch) (begun : Session) (settingsFile : Path) : Prop where
  blueprints : ∀ place ∈ batch.places begun, ∀ directory ∈ batch.layout.blueprintDirs,
    begun.disk.place? directory ≠ some place.dropLast
  scheme : ∀ place ∈ batch.places begun,
    begun.disk.place? batch.layout.currentScheme ≠ some place
  settings : ∀ place ∈ batch.places begun, begun.disk.place? settingsFile ≠ some place

/-- A batch writes files only, at the places of its outputs. -/
def Batch.MayWrite (batch : Batch) (begun : Session) (place : Location) (entry : Entry) : Prop :=
  entry ≠ .directory ∧ place ∈ batch.places begun

/-- What a batch writes are files. -/
theorem Batch.filesOnly_mayWrite (batch : Batch) (begun : Session) :
    Disk.FilesOnly (batch.MayWrite begun) :=
  fun _ _ allowed => allowed.1

end Command

/-- Files may be put anywhere but where a path leads. -/
def Disk.Spares (disk : Disk) (path : Path) (place : Location) (entry : Entry) : Prop :=
  entry ≠ .directory ∧ disk.place? path ≠ some place

variable {before after : Disk}

/-- Settings are read again where the file they come from is seen and read as before. -/
theorem Settings.load_again {reader : DocumentReader} {levels : Nat} {layout : Layout}
    {asked : Option Path} {settings : Settings}
    (looked : after.look (asked.getD layout.configFile) =
      before.look (asked.getD layout.configFile))
    (bytes : ∀ content, before.readFile (asked.getD layout.configFile) = .ok content →
      after.readFile (asked.getD layout.configFile) = .ok content)
    (read : load reader levels before (some layout) asked = .ok settings) :
    load reader levels after (some layout) asked = .ok settings := by
  -- Of a file that is there, the bytes are all that counts.
  have again (found : ofFile reader levels before (asked.getD layout.configFile) = .ok settings) :
      ofFile reader levels after (asked.getD layout.configFile) = .ok settings := by
    unfold ofFile at found ⊢
    cases held : before.readFile (asked.getD layout.configFile) with
    | error denial =>
      rw [held] at found
      cases denial <;> cases found
    | ok content =>
      rw [bytes content held]
      rwa [held] at found
  -- A file that was asked for has to be one; the usual file has only to be there, if it is.
  cases asked with
  | some file =>
    rw [Option.getD_some] at looked again
    have isFile : after.isFile file = before.isFile file := by
      rw [Disk.isFile, Disk.isFile, looked]
    unfold load at read ⊢
    dsimp only at read ⊢
    rw [isFile]
    split at read
    · exact again read
    · cases read
    · cases read
  | none =>
    rw [Option.getD_none] at looked again
    have isThere : after.isThere layout.configFile = before.isThere layout.configFile := by
      rw [Disk.isThere, Disk.isThere, looked]
    unfold load at read ⊢
    dsimp only at read ⊢
    rw [isThere]
    split at read
    · exact again read
    · exact read
    · cases read

namespace Command

/-- Settings are the same where only files were put, and none in the place of theirs. -/
theorem Request.settings_again {environment : Environment} {request : Request} {layout : Layout}
    {settings : Settings}
    (changed : Disk.Changed (before.Spares (request.settingsFile layout)) before after)
    (tree : before.IsTree) (read : request.settings environment layout before = .ok settings) :
    request.settings environment layout after = .ok settings := by
  -- Their file is seen as it was and holds what it held, whether it was asked for or not.
  have files : Disk.FilesOnly (before.Spares (request.settingsFile layout)) :=
    fun _ _ allowed => allowed.1
  have same : ∀ place, before.place? (request.settingsFile layout) = some place →
      after.entry? place = before.entry? place :=
    fun place leads => changed.kept fun _ allowed => allowed.2 leads
  have looked := changed.look_eq files tree same
  have bytes (content : Text.Bytes) :
      before.readFile (request.settingsFile layout) = .ok content →
        after.readFile (request.settingsFile layout) = .ok content :=
    (changed.readFile_eq_ok_iff files tree same).mpr
  unfold Request.settingsFile at looked bytes
  unfold Request.settings at read ⊢
  cases asked : request.config with
  | none =>
    simp only [asked] at looked bytes read ⊢
    change Settings.load _ _ _ (some layout) none = _ at read ⊢
    exact Settings.load_again looked bytes read
  | some value =>
    cases value with
    | nothing =>
      rw [asked] at read
      cases read
    | given path =>
      simp only [asked] at looked bytes read ⊢
      change Settings.load _ _ _ (some layout) (some (Path.ofString path)) = _ at read ⊢
      exact Settings.load_again looked bytes read

variable {environment : Environment} {disk : Disk} {batch : Batch} {begun : Session}

/-- A request that builds has read a whole colorscheme. -/
theorem Gathers.isWhole {request : Request}
    (gathers : Gathers environment disk request batch begun) : batch.scheme.IsWhole := by
  obtain ⟨_, file, _, gathered⟩ := gathers
  obtain ⟨_, _, _, loaded⟩ := ofFile_of_gather gathered
  exact Scheme.isWhole_of_ofFile loaded

/-- A request that builds has levels enough for a whole colorscheme. -/
theorem Gathers.two_le {request : Request}
    (gathers : Gathers environment disk request batch begun) : 2 ≤ environment.levels.load := by
  obtain ⟨_, file, _, gathered⟩ := gathers
  obtain ⟨_, _, _, loaded⟩ := ofFile_of_gather gathered
  exact Scheme.two_le_of_ofFile loaded

/-- Where no script runs, a run that gathers a batch ends well, with the writes of its ledger. -/
theorem Gathers.outcome {request : Request} {arguments : List String}
    (gathers : Gathers environment disk request batch begun)
    (asked : Request.read arguments = .ok request)
    (usual : Disk.hasNul batch.defaults.directory = false)
    (free : ∀ source ∈ batch.sources, Disk.hasNul source = false)
    (quiet : ∀ left, Blueprint.writeAll begun.disk
        ((Blueprint.ledger batch.defaults batch.sources begun).filterMap Prod.snd) = .ok left →
      batch.IsQuiet left) :
    let left := Command.run environment arguments disk
    left.ending = .status 0 ∧
      Blueprint.writeAll begun.disk
          ((Blueprint.ledger batch.defaults batch.sources begun).filterMap Prod.snd) =
        .ok left.disk := by
  intro left
  -- A batch always comes to its end, and from there nothing more is done to the tree.
  obtain ⟨after, ranEach, wrote⟩ := Blueprint.runIn_buildEach_ledger usual free begun
  obtain ⟨built, ranAll, builtIs⟩ := Blueprint.runIn_buildAll ranEach
  rw [← builtIs] at wrote
  obtain ⟨last, finished, diskIs⟩ := runIn_finish_of_isQuiet ranAll (quiet _ wrote)
  obtain ⟨ended, leftIs⟩ := gathers.left asked finished
  refine ⟨ended, ?_⟩
  rw [leftIs, diskIs]
  exact wrote

/-- The blueprints that were found have clean paths, and no output takes the place of one. -/
theorem Batch.KeepsApart.kept {settingsFile : Path} (apart : batch.KeepsApart begun settingsFile)
    (tree : begun.disk.IsTree)
    (seen : ∀ directory ∈ batch.layout.blueprintDirs,
      begun.disk.look directory = .ok (some .directory))
    (found : (Blueprint.discover batch.layout.blueprintDirs).runIn begun =
      (.ok batch.sources, begun)) :
    (∀ source ∈ batch.sources, Disk.hasNul source = false) ∧
      ∀ source ∈ batch.sources, begun.disk.Keeps (batch.MayWrite begun) source := by
  -- Each lies in one of the directories that were searched, and no output comes into these.
  have placed := Blueprint.place_of_discover tree seen found
  refine ⟨fun source among => (placed source among).1, ?_⟩
  rintro source among place leads entry ⟨_, written⟩
  obtain ⟨_, _, leadsTo, directory, listed, inside⟩ := placed source among
  cases leads.symm.trans leadsTo
  exact apart.blueprints place written directory listed inside

/-- What stands in the ledger may be written where it goes. -/
theorem Batch.takes_of_mem {source : Path} {rendered : Rendered}
    (among : (source, some rendered) ∈ Blueprint.ledger batch.defaults batch.sources begun)
    (content : Text.Bytes) : begun.disk.Takes (batch.MayWrite begun) rendered.output content :=
  fun _ leads _ => ⟨by simp, List.mem_filterMap.mpr ⟨_, among, leads⟩⟩

/-- A tree stays one when it is prepared. -/
theorem isTree_preparedDisk (environment : Environment) (tree : disk.IsTree) :
    (preparedDisk environment disk).IsTree := by
  -- Only directories are put, and each where it fits.
  unfold preparedDisk
  split
  · exact tree
  · rename_i layout _
    exact (Layout.changed_of_makeEach environment.levels.make layout.directories
      (.start disk)).1.isTree tree

/-- A colorscheme that is saved leaves the settings alone if these are in another file. -/
theorem changed_of_saves {file settingsFile : Path} {content : Text.Bytes}
    (saves : after = before ∨ before.writeFile file content = .ok after)
    (other : after.place? settingsFile ≠ after.place? file) :
    Disk.Changed (before.Spares settingsFile) before after := by
  obtain rfl | written := saves
  · exact .same
  · -- Were the settings in the place that is written, both paths would still lead there after.
    obtain ⟨place, leads, changed, _⟩ := Disk.changed_of_writeFile written
    refine changed.mono ?_
    rintro _ _ ⟨rfl, executable, rfl⟩
    refine ⟨by simp, fun here => other ?_⟩
    rw [changed.place?_eq_some here, changed.place?_eq_some leads]

/-- After a load and its batch, a reload gathers the same batch and builds it in the same way. -/
theorem gathers_reload {loudness : Loudness} {config : Option Value} {name : String}
    (louder : Loudness) (withScript : Bool) {outputs : List Path} {built : Session}
    (tree : disk.IsTree)
    (gathers : Gathers environment disk ⟨loudness, config, .load name⟩ batch begun)
    (ran : (Blueprint.buildAll batch.defaults batch.sources).runIn begun = (.ok outputs, built))
    (saved : batch.IsSaved begun)
    (apart : batch.KeepsApart begun
      (Request.settingsFile ⟨loudness, config, .load name⟩ batch.layout))
    (other : begun.disk.place?
        (Request.settingsFile ⟨loudness, config, .load name⟩ batch.layout) ≠
      begun.disk.place? batch.layout.currentScheme) :
    let batchAgain : Batch := { batch with withScript }
    let begunAgain : Session := ⟨built.disk, batch.scheme, []⟩
    Gathers environment built.disk ⟨louder, config, .reload [] withScript⟩ batchAgain begunAgain ∧
      Blueprint.ledger batchAgain.defaults batchAgain.sources begunAgain =
        Blueprint.ledger batch.defaults batch.sources begun ∧
      ∃ after, (Blueprint.buildAll batchAgain.defaults batchAgain.sources).runIn begunAgain =
          (.ok outputs, after) ∧ after.disk = built.disk := by
  intro batchAgain begunAgain
  obtain ⟨layoutIs, seen, settingsAre⟩ := gathers.ready
  obtain ⟨file, _, gathered⟩ := gathers.gathered
  obtain ⟨paletteIs, saves, still, found⟩ := discover_of_gather seen gathered
  -- Between the settings and the batch there is only the save, which spares the settings.
  have treePrepared := isTree_preparedDisk environment tree
  have toBegun := changed_of_saves saves other
  have treeBegun := toBegun.isTree treePrepared
  have seenBlueprints : ∀ directory ∈ batch.layout.blueprintDirs,
      begun.disk.look directory = .ok (some .directory) :=
    fun directory among => still directory (Layout.mem_directories among)
  have usual : Disk.hasNul batch.defaults.directory = false :=
    (Disk.look_eq_some_iff.mp
      (still batch.layout.outDir (by simp [Layout.directories]))).1
  have files := batch.filesOnly_mayWrite begun
  obtain ⟨free, kept⟩ := apart.kept treeBegun seenBlueprints found
  obtain ⟨changed, entries, ranAgain⟩ := Blueprint.buildAll_again files treeBegun usual free kept
    (fun _ _ among => Batch.takes_of_mem among _) ran
    (rfl : begunAgain.disk = built.disk) paletteIs.symm
  refine ⟨?_, entries, ranAgain⟩
  -- What is left to show is that it gathers the same.
  -- The batch has left the directories, the settings and the saved colorscheme as they were.
  have seenAgain : ∀ directory ∈ batch.layout.directories,
      built.disk.look directory = .ok (some .directory) :=
    fun directory among => changed.look_directory (still directory among)
  have settingsAgain : Request.settings environment ⟨loudness, config, .load name⟩ batch.layout
      built.disk = .ok batch.settings := by
    refine Request.settings_again (toBegun.trans (changed.mono ?_)) treePrepared settingsAre
    intro place entry written
    exact ⟨written.1, fun here =>
      apart.settings place written.2 (toBegun.place?_eq_some here)⟩
  have schemeAgain : Scheme.ofFile environment.levels.load built.disk batch.layout.currentScheme =
      .ok batch.scheme := by
    refine Scheme.ofFile_of_saved gathers.two_le gathers.isWhole ?_
    refine (changed.readFile_eq_ok_iff files treeBegun fun place leads => ?_).mpr saved
    exact changed.kept fun entry written => apart.scheme place written.2 leads
  have foundAgain : (Blueprint.discover batch.layout.blueprintDirs).runIn begunAgain =
      (.ok batch.sources, begunAgain) :=
    Blueprint.discover_again seenBlueprints found changed files treeBegun
      fun directory among place entry written =>
        apart.blueprints place written.2 directory among
  exact gathers_of_reload layoutIs seenAgain settingsAgain schemeAgain (by rw [foundAgain])

end Command

/--
A reload right after a load repeats it.

If the load ended well, its colorscheme was saved, its script is disabled, and no output of its
batch lies in a directory of blueprints or takes the place of the saved colorscheme or of the
settings, then the reload ends well, and the tree is the one that the load has left.
The same blueprints are built in the same order, the same texts go to the same paths, and those
that failed do so again.

For this, the settings may not be read from the file that the colorscheme is saved in.
-/
theorem reload_repeats_load (environment : Environment) (arguments again : List String)
    (disk : Disk) (loudness louder : Command.Loudness) (config : Option Command.Value)
    (name : String) (withScript : Bool)
    (asked : Command.Request.read arguments = .ok ⟨loudness, config, .load name⟩)
    (askedAgain : Command.Request.read again = .ok ⟨louder, config, .reload [] withScript⟩)
    (tree : disk.IsTree)
    (ended : (Command.run environment arguments disk).ending = .status 0) :
    let loads : Command.Request := ⟨loudness, config, .load name⟩
    let reloads : Command.Request := ⟨louder, config, .reload [] withScript⟩
    let left := (Command.run environment arguments disk).disk
    let last := Command.run environment again left
    ∃ batch begun, Command.Gathers environment disk loads batch begun ∧
      (batch.IsSaved begun → batch.settings.script? batch.layout = .ok none →
        batch.KeepsApart begun (loads.settingsFile batch.layout) →
        begun.disk.place? (loads.settingsFile batch.layout) ≠
          begun.disk.place? batch.layout.currentScheme →
        last.ending = .status 0 ∧ last.disk = left ∧
          ∃ batchAgain begunAgain,
            Command.Gathers environment left reloads batchAgain begunAgain ∧
            batchAgain.sources = batch.sources ∧
            Blueprint.ledger batchAgain.defaults batchAgain.sources begunAgain =
              Blueprint.ledger batch.defaults batch.sources begun) := by
  intro loads reloads left last
  obtain ⟨lines, outcome⟩ := (Command.status_zero_iff asked).mp ended
  obtain ⟨built, ran⟩ : ∃ built,
      (loads.run environment).runIn (.start disk) = (.ok lines, built) :=
    ⟨_, Prod.ext outcome rfl⟩
  have leftIs : left = built.disk := by
    rw [← congrArg (fun ended => ended.2.disk) ran]
    exact Command.disk_run asked
  obtain ⟨batch, begun, gathers, finished⟩ := Command.gathers_of_run (fun _ => rfl) ran
  refine ⟨batch, begun, gathers, fun saved disabled apart other => ?_⟩
  -- With the script disabled, a run ends where its batch does.
  obtain ⟨outputs, builds⟩ := Command.buildAll_of_finish disabled finished
  obtain ⟨gathersAgain, entries, after, buildsAgain, diskIs⟩ :=
    Command.gathers_reload louder withScript tree gathers builds saved apart other
  obtain ⟨finish, finishedAgain, finishIs⟩ :=
    Command.runIn_finish_of_isQuiet buildsAgain (.inl disabled)
  have ranAgain := gathersAgain.run finishedAgain
  rw [← leftIs] at gathersAgain ranAgain
  refine ⟨(Command.status_zero_iff askedAgain).mpr ⟨[], by rw [ranAgain]⟩, ?_,
    _, _, gathersAgain, rfl, ?_⟩
  · rw [leftIs, ← diskIs, ← finishIs, ← congrArg (fun ended => ended.2.disk) ranAgain]
    exact Command.disk_run askedAgain
  · rw [leftIs]
    exact entries

/-- One blueprint fails and the other is built, by the load and again by the reload. -/
theorem reload_repeats_load_one_fails :
    let config : Location := ["home", ".config", "chromasync"]
    let cache : Location := ["home", ".cache", "chromasync"]
    let night : Palette := ⟨Scheme.names.map fun name => (name, ⟨17, 34, 51⟩)⟩
    let disk : Disk := ⟨["home"], [(["home"], .directory), (["home", ".config"], .directory),
      (config, .directory), (config ++ ["config.yaml"], .file
        (Text.Utf8.encode "post_script: \x7benabled: false\x7d\n".toList) false),
      (config ++ ["colorschemes"], .directory), (config ++ ["colorschemes", "night.json"], .file
        (Text.Utf8.encode (Scheme.fileText night)) false),
      (config ++ ["blueprints"], .directory), (config ++ ["blueprints", "bad"], .file
        (Text.Utf8.encode "% what\n".toList) false),
      (["home", ".cache"], .directory), (cache, .directory),
      (cache ++ ["blueprints"], .directory), (cache ++ ["blueprints", "ink"], .file
        (Text.Utf8.encode "\x7bcursor\x7d\n".toList) false),
      (cache ++ ["out"], .directory)]⟩
    let environment : Environment := .atHand [("HOME", "/home")]
    let loads : Command.Request := ⟨.usual, none, .load "night"⟩
    let reloads : Command.Request := ⟨.usual, none, .reload [] true⟩
    let left := Command.run environment ["load", "night"] disk
    let last := Command.run environment ["reload"] left.disk
    Command.Request.read ["load", "night"] = .ok loads ∧
      Command.Request.read ["reload"] = .ok reloads ∧ disk.IsTree ∧
      left.ending = .status 0 ∧
      left.disk.entry? (cache ++ ["out", "ink"]) =
        some (.file (Text.Utf8.encode "#112233\n".toList) false) ∧
      last.ending = .status 0 ∧ last.disk = left.disk := by
  intro config cache night disk environment loads reloads left last
  have asked : Command.Request.read ["load", "night"] = .ok loads := by decide +kernel
  have askedAgain : Command.Request.read ["reload"] = .ok reloads := by decide +kernel
  have tree : disk.IsTree := by decide +kernel
  let layout : Layout := ⟨Path.ofString "/home", Path.ofString "/home/.config/chromasync",
    Path.ofString "/home/.cache/chromasync"⟩
  have layoutIs : Layout.ofEnvironment environment.bindings = .ok layout := by
    rw [Layout.ofEnvironment,
      (by decide : Layout.ofEnvironment? environment.bindings = some layout)]
  have seen : ∀ directory ∈ layout.directories,
      (disk.look directory).toOption = some (some .directory) := by decide +kernel
  have read : ((loads.settings environment layout disk).toOption.map fun settings =>
      ((settings.script? layout).toOption, settings.format.toOption)) =
        some (some none, some .hashed) := by decide +kernel
  have whole : night.IsWhole := ⟨by decide, by decide, by decide⟩
  have loaded : Scheme.ofFile environment.levels.load disk (layout.schemeFile "night") =
      .ok night :=
    Scheme.ofFile_of_saved (by decide) whole (Disk.readFile_eq_ok_iff.mpr
      ⟨by decide, config ++ ["colorschemes", "night.json"], by decide +kernel, rfl⟩)
  let saved : Disk := disk.set (cache ++ ["current.json"])
    (.file (Text.Utf8.encode (Scheme.fileText night)) false)
  have written : disk.writeFile layout.currentScheme
      (Text.Utf8.encode (Scheme.fileText night)) = .ok saved :=
    Disk.writeFile_eq_ok_iff.mpr ⟨by decide, cache ++ ["current.json"], by decide +kernel, rfl⟩
  let begun : Session := ⟨saved, night, [Command.loadedNotice "night"]⟩
  let bad := layout.ownBlueprintsDir.entry "bad"
  let ink : Rendered := ⟨layout.sharedBlueprintsDir.entry "ink", layout.outDir, .hashed,
    "#112233\n".toList⟩
  let sources := [bad, ink.source]
  have found : ((Blueprint.discover layout.blueprintDirs).runIn begun).1.toOption =
      some sources := by decide +kernel
  have entries : Blueprint.ledger ⟨layout.home, .hashed, layout.outDir⟩ sources begun =
      [(bad, none), (ink.source, some ink)] := by decide +kernel
  have writes : ((Blueprint.writeAll saved [ink]).toOption.map fun after =>
      after.entry? (cache ++ ["out", "ink"])) =
        some (some (.file (Text.Utf8.encode "#112233\n".toList) false)) := by decide +kernel
  have places : ([(bad, none), (ink.source, some ink)] : List (Path × Option Rendered)).filterMap
      (fun entry => entry.2.bind fun rendered => saved.place? rendered.output) =
        [cache ++ ["out", "ink"]] := by decide +kernel
  have apart : (∀ directory ∈ layout.blueprintDirs,
        saved.place? directory ≠ some (cache ++ ["out", "ink"]).dropLast) ∧
      saved.place? layout.currentScheme ≠ some (cache ++ ["out", "ink"]) ∧
      saved.place? layout.configFile ≠ some (cache ++ ["out", "ink"]) ∧
      saved.place? layout.configFile ≠ saved.place? layout.currentScheme := by decide +kernel
  have isSaved : saved.readFile layout.currentScheme =
      .ok (Text.Utf8.encode (Scheme.fileText night)) :=
    Disk.readFile_eq_ok_iff.mpr ⟨by decide, cache ++ ["current.json"], by decide +kernel, rfl⟩
  have free : ∀ source ∈ sources, Disk.hasNul source = false := by decide
  have usual : Disk.hasNul layout.outDir = false := by decide
  -- The rest follows from what is known of the trees, and nothing should compute with them.
  clear_value saved disk
  obtain ⟨settings, settingsAre, isSet⟩ := exists_ok_of_map_toOption read
  rw [Prod.mk.injEq] at isSet
  let batch : Command.Batch := ⟨layout, settings, night, sources, true⟩
  have disabled : batch.settings.script? batch.layout = .ok none := ok_of_toOption isSet.1
  have entriesAre : Blueprint.ledger batch.defaults batch.sources begun =
      [(bad, none), (ink.source, some ink)] := by
    change Blueprint.ledger (Command.defaultsOf layout settings) sources begun = _
    rw [Command.defaultsOf, ok_of_toOption isSet.2]
    exact entries
  have gathers : Command.Gathers environment disk loads batch begun :=
    Command.gathers_of_load layoutIs (fun _ among => ok_of_toOption (seen _ among)) settingsAre
      loaded written (ok_of_toOption found)
  obtain ⟨ended, wrote⟩ := gathers.outcome asked usual free fun _ _ => .inl disabled
  rw [entriesAre] at wrote
  obtain ⟨other, begunOther, gathersOther, repeats⟩ := reload_repeats_load environment
    ["load", "night"] ["reload"] disk .usual .usual none "night" true asked askedAgain tree ended
  obtain ⟨rfl, rfl⟩ := gathers.unique gathersOther
  have placesAre : batch.places begun = [cache ++ ["out", "ink"]] := by
    rw [Command.Batch.places, entriesAre]
    exact places
  have keepsApart : batch.KeepsApart begun (loads.settingsFile batch.layout) := by
    refine ⟨?_, ?_, ?_⟩ <;> rw [placesAre, List.forall_mem_singleton]
    · exact apart.1
    · exact apart.2.1
    · exact apart.2.2.1
  obtain ⟨endedAgain, same, _⟩ := repeats isSaved disabled keepsApart apart.2.2.2
  refine ⟨asked, askedAgain, tree, ended, ?_, endedAgain, same⟩
  obtain ⟨after, leaves, holds⟩ := exists_ok_of_map_toOption writes
  rwa [Except.ok.inj (leaves.symm.trans wrote)] at holds

/--
A load that reads its settings from the file of the saved colorscheme saves over them.

The reload finds none of them there, so that it writes colors in the usual format.
-/
theorem reload_differs_if_saved_over_settings :
    let config : Location := ["home", ".config", "chromasync"]
    let cache : Location := ["home", ".cache", "chromasync"]
    let night : Palette := ⟨Scheme.names.map fun name => (name, ⟨17, 34, 51⟩)⟩
    let disk : Disk := ⟨["home"], [(["home"], .directory), (["home", ".config"], .directory),
      (config, .directory), (config ++ ["colorschemes"], .directory),
      (config ++ ["colorschemes", "night.json"], .file
        (Text.Utf8.encode (Scheme.fileText night)) false),
      (config ++ ["blueprints"], .directory), (["home", ".cache"], .directory),
      (cache, .directory), (cache ++ ["current.json"], .file (Text.Utf8.encode
        "color_format: 6h\npost_script: \x7benabled: false\x7d\n".toList) false),
      (cache ++ ["blueprints"], .directory), (cache ++ ["blueprints", "ink"], .file
        (Text.Utf8.encode "\x7bcursor\x7d\n".toList) false),
      (cache ++ ["out"], .directory)]⟩
    let environment : Environment := .atHand [("HOME", "/home")]
    let settingsFile := "/home/.cache/chromasync/current.json"
    let loads : Command.Request := ⟨.usual, some (.given settingsFile), .load "night"⟩
    let reloads : Command.Request := ⟨.usual, some (.given settingsFile), .reload [] true⟩
    let left := Command.run environment ["--config", settingsFile, "load", "night"] disk
    let last := Command.run environment ["--config", settingsFile, "reload"] left.disk
    Command.Request.read ["--config", settingsFile, "load", "night"] = .ok loads ∧
      Command.Request.read ["--config", settingsFile, "reload"] = .ok reloads ∧ disk.IsTree ∧
      left.ending = .status 0 ∧
      (∃ batch begun, Command.Gathers environment disk loads batch begun ∧
        batch.IsSaved begun ∧ batch.settings.script? batch.layout = .ok none ∧
        batch.KeepsApart begun (loads.settingsFile batch.layout)) ∧
      left.disk.entry? (cache ++ ["out", "ink"]) =
        some (.file (Text.Utf8.encode "112233\n".toList) false) ∧
      last.disk.entry? (cache ++ ["out", "ink"]) =
        some (.file (Text.Utf8.encode "#112233\n".toList) false) ∧
      last.disk ≠ left.disk := by
  intro config cache night disk environment settingsFile loads reloads left last
  have asked : Command.Request.read ["--config", settingsFile, "load", "night"] = .ok loads := by
    decide +kernel
  have askedAgain : Command.Request.read ["--config", settingsFile, "reload"] = .ok reloads := by
    decide +kernel
  have tree : disk.IsTree := by decide +kernel
  let layout : Layout := ⟨Path.ofString "/home", Path.ofString "/home/.config/chromasync",
    Path.ofString "/home/.cache/chromasync"⟩
  have layoutIs : Layout.ofEnvironment environment.bindings = .ok layout := by
    rw [Layout.ofEnvironment,
      (by decide : Layout.ofEnvironment? environment.bindings = some layout)]
  have seen : ∀ directory ∈ layout.directories,
      (disk.look directory).toOption = some (some .directory) := by decide +kernel
  have read : ((loads.settings environment layout disk).toOption.map fun settings =>
      ((settings.script? layout).toOption, settings.format.toOption)) =
        some (some none, some .bare) := by decide +kernel
  have whole : night.IsWhole := ⟨by decide, by decide, by decide⟩
  have loaded : Scheme.ofFile environment.levels.load disk (layout.schemeFile "night") =
      .ok night :=
    Scheme.ofFile_of_saved (by decide) whole (Disk.readFile_eq_ok_iff.mpr
      ⟨by decide, config ++ ["colorschemes", "night.json"], by decide +kernel, rfl⟩)
  let saved : Disk := disk.set (cache ++ ["current.json"])
    (.file (Text.Utf8.encode (Scheme.fileText night)) false)
  have written : disk.writeFile layout.currentScheme
      (Text.Utf8.encode (Scheme.fileText night)) = .ok saved :=
    Disk.writeFile_eq_ok_iff.mpr ⟨by decide, cache ++ ["current.json"], by decide +kernel, rfl⟩
  let begun : Session := ⟨saved, night, [Command.loadedNotice "night"]⟩
  let source := layout.sharedBlueprintsDir.entry "ink"
  have found : ((Blueprint.discover layout.blueprintDirs).runIn begun).1.toOption =
      some [source] := by decide +kernel
  let bare : Rendered := ⟨source, layout.outDir, .bare, "112233\n".toList⟩
  have entries : Blueprint.ledger ⟨layout.home, .bare, layout.outDir⟩ [source] begun =
      [(source, some bare)] := by decide +kernel
  let changed : Disk := saved.set (cache ++ ["out", "ink"])
    (.file (Text.Utf8.encode "112233\n".toList) false)
  have writes : Blueprint.writeAll saved [bare] = .ok changed := by
    have written : saved.writeFile bare.output (Text.Utf8.encode bare.text) = .ok changed :=
      Disk.writeFile_eq_ok_iff.mpr ⟨by decide, cache ++ ["out", "ink"], by decide +kernel, rfl⟩
    rw [Blueprint.writeAll, List.foldlM_cons, written]
    rfl
  have isSaved : saved.readFile layout.currentScheme =
      .ok (Text.Utf8.encode (Scheme.fileText night)) :=
    Disk.readFile_eq_ok_iff.mpr ⟨by decide, cache ++ ["current.json"], by decide +kernel, rfl⟩
  have places : ([(source, some bare)] : List (Path × Option Rendered)).filterMap
      (fun entry => entry.2.bind fun rendered => saved.place? rendered.output) =
        [cache ++ ["out", "ink"]] := by decide +kernel
  have apart : (∀ directory ∈ layout.blueprintDirs,
        saved.place? directory ≠ some (cache ++ ["out", "ink"]).dropLast) ∧
      saved.place? layout.currentScheme ≠ some (cache ++ ["out", "ink"]) ∧
      saved.place? (Path.ofString settingsFile) ≠ some (cache ++ ["out", "ink"]) := by
    decide +kernel
  have inked : changed.entry? (cache ++ ["out", "ink"]) =
      some (.file (Text.Utf8.encode "112233\n".toList) false) := by decide +kernel
  -- From here on the reload, whose settings are those of a file that sets none.
  have seenAgain : ∀ directory ∈ layout.directories,
      (changed.look directory).toOption = some (some .directory) := by decide +kernel
  have readAgain : ((reloads.settings environment layout changed).toOption.map fun settings =>
      ((settings.script? layout).toOption, settings.format.toOption)) =
        some (some (some layout.postScript), some .hashed) := by decide +kernel
  have loadedAgain : Scheme.ofFile environment.levels.load changed layout.currentScheme =
      .ok night :=
    Scheme.ofFile_of_saved (by decide) whole (Disk.readFile_eq_ok_iff.mpr
      ⟨by decide, cache ++ ["current.json"], by decide +kernel, rfl⟩)
  let begunAgain : Session := ⟨changed, night, []⟩
  have foundAgain : ((Blueprint.discover layout.blueprintDirs).runIn begunAgain).1.toOption =
      some [source] := by decide +kernel
  let hashed : Rendered := ⟨source, layout.outDir, .hashed, "#112233\n".toList⟩
  have entriesAgain : Blueprint.ledger ⟨layout.home, .hashed, layout.outDir⟩ [source] begunAgain =
      [(source, some hashed)] := by decide +kernel
  have writesAgain : ((Blueprint.writeAll changed [hashed]).toOption.map fun after =>
      (after.entry? (cache ++ ["out", "ink"]), (after.isThere layout.postScript).toOption)) =
        some (some (.file (Text.Utf8.encode "#112233\n".toList) false), some false) := by
    decide +kernel
  have other : (Text.Utf8.encode "#112233\n".toList) ≠ Text.Utf8.encode "112233\n".toList := by
    decide +kernel
  have free : ∀ path ∈ [source], Disk.hasNul path = false := by decide
  have usual : Disk.hasNul layout.outDir = false := by decide
  -- The rest follows from what is known of the trees, and nothing should compute with them.
  clear_value changed saved disk
  obtain ⟨settings, settingsAre, isSet⟩ := exists_ok_of_map_toOption read
  rw [Prod.mk.injEq] at isSet
  let batch : Command.Batch := ⟨layout, settings, night, [source], true⟩
  have disabled : batch.settings.script? batch.layout = .ok none := ok_of_toOption isSet.1
  have entriesAre : Blueprint.ledger batch.defaults batch.sources begun =
      [(source, some bare)] := by
    change Blueprint.ledger (Command.defaultsOf layout settings) [source] begun = _
    rw [Command.defaultsOf, ok_of_toOption isSet.2]
    exact entries
  have gathers : Command.Gathers environment disk loads batch begun :=
    Command.gathers_of_load layoutIs (fun _ among => ok_of_toOption (seen _ among)) settingsAre
      loaded written (ok_of_toOption found)
  obtain ⟨ended, wrote⟩ := gathers.outcome asked usual free fun _ _ => .inl disabled
  rw [entriesAre] at wrote
  have leftIs : changed = left.disk := Except.ok.inj (writes.symm.trans wrote)
  have keepsApart : batch.KeepsApart begun (loads.settingsFile batch.layout) := by
    have placesAre : batch.places begun = [cache ++ ["out", "ink"]] := by
      rw [Command.Batch.places, entriesAre]
      exact places
    refine ⟨?_, ?_, ?_⟩ <;> rw [placesAre, List.forall_mem_singleton]
    · exact apart.1
    · exact apart.2.1
    · exact apart.2.2
  obtain ⟨settingsAgain, settingsAgainAre, isSetAgain⟩ := exists_ok_of_map_toOption readAgain
  rw [Prod.mk.injEq] at isSetAgain
  obtain ⟨rewritten, rewrites, holds⟩ := exists_ok_of_map_toOption writesAgain
  rw [Prod.mk.injEq] at holds
  let batchAgain : Command.Batch := ⟨layout, settingsAgain, night, [source], true⟩
  have entriesAgainAre : Blueprint.ledger batchAgain.defaults batchAgain.sources begunAgain =
      [(source, some hashed)] := by
    change Blueprint.ledger (Command.defaultsOf layout settingsAgain) [source] begunAgain = _
    rw [Command.defaultsOf, ok_of_toOption isSetAgain.2]
    exact entriesAgain
  have gathersAgain : Command.Gathers environment changed reloads batchAgain begunAgain :=
    Command.gathers_of_reload layoutIs (fun _ among => ok_of_toOption (seenAgain _ among))
      settingsAgainAre loadedAgain (ok_of_toOption foundAgain)
  obtain ⟨_, wroteAgain⟩ := gathersAgain.outcome askedAgain usual free fun after wroteAgain => by
    rw [entriesAgainAre] at wroteAgain
    cases rewrites.symm.trans wroteAgain
    exact .inr ⟨layout.postScript, ok_of_toOption isSetAgain.1, ok_of_toOption holds.2⟩
  rw [entriesAgainAre] at wroteAgain
  have lastIs : rewritten = last.disk := by
    rw [Except.ok.inj (rewrites.symm.trans wroteAgain), leftIs]
  rw [lastIs] at holds
  rw [leftIs] at inked
  refine ⟨asked, askedAgain, tree, ended,
    ⟨batch, begun, gathers, isSaved, disabled, keepsApart⟩, inked, holds.1, fun same => ?_⟩
  rw [same, inked] at holds
  exact other (Entry.file.inj (Option.some.inj holds.1)).1.symm

end Themer
