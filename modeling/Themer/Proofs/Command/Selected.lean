import Themer.Proofs.Blueprint.Namesakes
import Themer.Proofs.Command.Reload

/-! A reload of one blueprint: how far a reload of all blueprints leaves the same in its place. -/

namespace Themer

namespace Command

variable {environment : Environment} {disk : Disk} {batch : Batch} {begun : Session}
  {loudness : Loudness} {config : Option Value} {name : String} {withScript : Bool}

/-- A reload of one name finds one blueprint, and a reload of all begins where it does. -/
theorem Gathers.split_of_named
    (gathers : Gathers environment disk ⟨loudness, config, .reload [.given name] withScript⟩
      batch begun) :
    begun.disk = preparedDisk environment disk ∧ batch.withScript = withScript ∧
      (∃ source, batch.sources = [source] ∧
        (Blueprint.find batch.layout name).runIn begun = (.ok source, begun)) ∧
      ∀ louder sources,
        (Blueprint.discover batch.layout.blueprintDirs).runIn begun = (.ok sources, begun) →
        Gathers environment disk ⟨louder, config, .reload [] withScript⟩
          { batch with sources } begun := by
  -- Both reloads prepare alike and load one scheme, and differ in what they look for then.
  obtain ⟨layout, settings, scheme, sources, script⟩ := batch
  obtain rfl : script = withScript := by
    obtain ⟨_, _, _, gathered⟩ := gathers
    exact (ofFile_of_gather gathered).2.2.1
  obtain ⟨prepares, loaded, chosen⟩ := gathers_reload_iff.mp gathers
  -- To search for a name leaves the session alone.
  obtain rfl : (⟨preparedDisk environment disk, scheme, []⟩ : Session) = begun := by
    rw [← observes_findEach layout [.given name] ⟨preparedDisk environment disk, scheme, []⟩]
    exact congrArg Prod.snd chosen
  obtain ⟨_, between, given, chosen⟩ := Work.ok_of_bind chosen
  cases given
  obtain ⟨source, last, found, done⟩ := Work.ok_of_bind chosen
  cases done
  exact ⟨rfl, rfl, ⟨source, rfl, found⟩, fun louder sources discovers =>
    gathers_reload_iff.mpr ⟨prepares, loaded, discovers⟩⟩

/-- A run that builds its batch and is asked to run no script leaves the tree of the batch. -/
theorem Gathers.left_of_buildEach {request : Request} {arguments : List String}
    {written : List Path} {failed : Nat} {after : Session}
    (gathers : Gathers environment disk request batch begun)
    (asked : Request.read arguments = .ok request) (plain : batch.withScript = false)
    (ran : (Blueprint.buildEach batch.defaults batch.sources).runIn begun =
      (.ok (written, failed), after)) :
    (Command.run environment arguments disk).ending = .status 0 ∧
      (Command.run environment arguments disk).disk = after.disk := by
  -- All that comes after the batch is the notice of how many were built.
  obtain ⟨told, ranAll, toldDisk⟩ := Blueprint.runIn_buildAll ran
  rw [← toldDisk]
  exact gathers.left asked (runIn_finish_of_no_script ranAll plain)

/-- A reload of one name, without a script, has the text of its blueprint written. -/
theorem Gathers.entry?_of_named {arguments : List String} {source : Path} {place : Location}
    {text : List Char}
    (gathers : Gathers environment disk ⟨loudness, config, .reload [.given name] false⟩
      batch begun)
    (asked : Request.read arguments = .ok ⟨loudness, config, .reload [.given name] false⟩)
    (chosen : source ∈ batch.sources)
    (puts : Blueprint.Puts batch.defaults begun place source text) :
    let left := Command.run environment arguments disk
    left.ending = .status 0 ∧
      left.disk.entry? place = some (begun.disk.entryWith place (Text.Utf8.encode text)) := by
  -- The batch is the one blueprint that was found, and it is built as it would be alone.
  intro left
  obtain ⟨_, plain, ⟨found, onlyIs, _⟩, _⟩ := gathers.split_of_named
  rw [onlyIs, List.mem_singleton] at chosen
  subst chosen
  obtain ⟨after, written, failed, ran, held⟩ := puts.buildEach
  rw [← onlyIs] at ran
  obtain ⟨ended, leftIs⟩ := gathers.left_of_buildEach asked plain ran
  exact ⟨ended, leftIs ▸ held⟩

/-- In the tree that a batch begins in, the directories of its blueprints can be seen. -/
theorem Gathers.seen_of_disk {request : Request}
    (gathers : Gathers environment disk request batch begun)
    (diskIs : begun.disk = preparedDisk environment disk) :
    (∀ directory ∈ batch.layout.blueprintDirs,
        begun.disk.look directory = .ok (some .directory)) ∧
      Disk.hasNul batch.defaults.directory = false := by
  -- They were made by the preparations, and the usual place for output was made with them.
  have seen : ∀ directory ∈ batch.layout.directories,
      begun.disk.look directory = .ok (some .directory) := diskIs ▸ gathers.ready.2.1
  refine ⟨fun directory among => seen directory (Layout.mem_directories among), ?_⟩
  exact (Disk.look_eq_some_iff.mp (seen batch.layout.outDir (by simp [Layout.directories]))).1

/-- A reload of all blueprints, without a script, has all of its places settled. -/
theorem Gathers.settled_of_all {arguments : List String}
    (gathers : Gathers environment disk ⟨loudness, config, .reload [] false⟩ batch begun)
    (diskIs : begun.disk = preparedDisk environment disk) (tree : disk.IsTree)
    (asked : Request.read arguments = .ok ⟨loudness, config, .reload [] false⟩)
    (discovers : Blueprint.Discovers batch.defaults batch.layout.blueprintDirs begun
      batch.sources) :
    let left := Command.run environment arguments disk
    left.ending = .status 0 ∧ ∀ place,
      Blueprint.SettledAt batch.defaults begun batch.sources begun.disk left.disk place := by
  -- Every place is settled by the batch, and what comes after it leaves the tree alone.
  intro left
  obtain ⟨_, _, gathered⟩ := gathers.gathered
  obtain ⟨seen, usual⟩ := gathers.seen_of_disk diskIs
  obtain ⟨after, written, failed, ran, settled⟩ :=
    discovers.buildEach seen usual (diskIs ▸ isTree_preparedDisk environment tree)
  obtain ⟨ended, leftIs⟩ :=
    gathers.left_of_buildEach asked (ofFile_of_gather gathered).2.2.1 ran
  exact ⟨ended, leftIs ▸ settled⟩

end Command

/--
A reload of one blueprint next to a reload of all of them, in the same tree and without a script.

Both end well, and the first leaves the text of the blueprint that it finds by the name.
The reload of all leaves the same there, unless the shared directory has a blueprint of this name
that goes to the same place: then it leaves the text of that one.

For this, all blueprints are discovered as they should be, and one of them has the name.
What the name leads to may also be a device, and no file to be discovered: then the reload of all
leaves the place as it was, unless the shared blueprint goes there.
-/
theorem reload_one_as_all (environment : Environment) (one all : List String)
    (disk : Disk) (loudness louder : Command.Loudness) (config : Option Command.Value)
    (name : String) (batch : Command.Batch) (begun : Session) (sources : List Path)
    (source : Path) (place : Location) (text : List Char)
    (askedOne : Command.Request.read one = .ok ⟨loudness, config, .reload [.given name] false⟩)
    (askedAll : Command.Request.read all = .ok ⟨louder, config, .reload [] false⟩)
    (tree : disk.IsTree)
    (gathers : Command.Gathers environment disk
      ⟨loudness, config, .reload [.given name] false⟩ batch begun)
    (discovers : Blueprint.Discovers batch.defaults batch.layout.blueprintDirs begun sources)
    (known : ∃ listed ∈ sources, listed.name = name) (chosen : source ∈ batch.sources)
    (puts : Blueprint.Puts batch.defaults begun place source text) :
    let left := Command.run environment one disk
    let leftAll := Command.run environment all disk
    let rival := batch.layout.sharedBlueprintsDir.entry name
    let rivalPuts (other : List Char) : Prop :=
      rival ∈ sources ∧ Blueprint.Puts batch.defaults begun place rival other
    left.ending = .status 0 ∧ leftAll.ending = .status 0 ∧
      left.disk.entry? place = some (begun.disk.entryWith place (Text.Utf8.encode text)) ∧
      (∀ other, rivalPuts other → leftAll.disk.entry? place =
        some (begun.disk.entryWith place (Text.Utf8.encode other))) ∧
      (begun.disk.isFile source = .ok true → (∀ other, rivalPuts other → other = text) →
        leftAll.disk.entry? place = left.disk.entry? place) ∧
      (begun.disk.isFile source ≠ .ok true → (∀ other, ¬ rivalPuts other) →
        leftAll.disk.entry? place = begun.disk.entry? place) := by
  intro left leftAll rival rivalPuts
  obtain ⟨diskIs, _, ⟨found, onlyIs, finds⟩, gathersAll⟩ := gathers.split_of_named
  obtain ⟨endedOne, held⟩ := gathers.entry?_of_named askedOne chosen puts
  rw [onlyIs, List.mem_singleton] at chosen
  subst chosen
  obtain ⟨seen, usual⟩ := gathers.seen_of_disk diskIs
  obtain ⟨endedAll, settled⟩ :=
    (gathersAll louder sources
      (Blueprint.runIn_discover_of_seen seen discovers.found)).settled_of_all
        diskIs tree askedAll discovers
  have settled : Blueprint.SettledAt batch.defaults begun sources begun.disk leftAll.disk place :=
    settled place
  -- What is left there hangs on the last of the discovered blueprints that go there.
  obtain ⟨listed, among, rfl⟩ := known
  have puts_of_goesTo (amongToo : rival ∈ sources)
      (goes : Blueprint.GoesTo batch.defaults begun place rival) :
      ∃ other, rivalPuts other := by
    obtain ⟨other, putsToo⟩ :=
      (Blueprint.goesTo_iff (discovers.free seen amongToo) usual).mp goes
    exact ⟨other, amongToo, putsToo⟩
  have rivalStays : ∀ other, rivalPuts other → leftAll.disk.entry? place =
      some (begun.disk.entryWith place (Text.Utf8.encode other)) := by
    rintro other ⟨amongToo, putsToo⟩
    have goes : Blueprint.GoesTo batch.defaults begun place rival :=
      (Blueprint.goesTo_iff (discovers.free seen amongToo) usual).mpr ⟨other, putsToo⟩
    exact settled.of_puts (discovers.lastInto?_of_shared seen usual amongToo goes) putsToo
  rw [ne_eq, ← discovers.mem_iff_of_find seen among finds]
  refine ⟨endedOne, endedAll, held, rivalStays, fun inSources same => ?_, fun outside none => ?_⟩
  · by_cases rivals : ∃ other, rivalPuts other
    · obtain ⟨other, putsToo⟩ := rivals
      rw [rivalStays other putsToo, same other putsToo, held]
    · have last := discovers.lastInto?_of_find seen usual among finds puts inSources
        fun amongToo goes => rivals (puts_of_goesTo amongToo goes)
      rw [held, settled.of_puts last puts]
  · have last := discovers.lastInto?_eq_none_of_find seen usual among finds puts outside
      fun amongToo goes => not_exists.mpr none (puts_of_goesTo amongToo goes)
    rw [Blueprint.SettledAt, last] at settled
    exact settled

/--
Two blueprints of one name: the one that is found by it goes where the other does not.

So both reloads leave the same there.
-/
theorem reload_one_as_all_other_directory :
    let config : Location := ["home", ".config", "chromasync"]
    let cache : Location := ["home", ".cache", "chromasync"]
    let night : Palette := ⟨Scheme.names.map fun name => (name, ⟨17, 34, 51⟩)⟩
    let disk : Disk := ⟨["home"], [(["home"], .directory), (["home", "there"], .directory),
      (["home", ".config"], .directory), (config, .directory),
      (config ++ ["colorschemes"], .directory), (config ++ ["blueprints"], .directory),
      (config ++ ["blueprints", "ink"], .file
        (Text.Utf8.encode "\x7bcursor\x7d\n".toList) false),
      (["home", ".cache"], .directory), (cache, .directory),
      (cache ++ ["current.json"], .file (Text.Utf8.encode (Scheme.fileText night)) false),
      (cache ++ ["blueprints"], .directory), (cache ++ ["blueprints", "ink"], .file
        (Text.Utf8.encode "%output-directory ~/there\n\x7bcursor\x7d!\n".toList) false),
      (cache ++ ["out"], .directory)]⟩
    let environment : Environment := .atHand [("HOME", "/home")]
    let selects : Command.Request := ⟨.usual, none, .reload [.given "ink"] false⟩
    let reloads : Command.Request := ⟨.usual, none, .reload [] false⟩
    let left := Command.run environment ["reload", "-b", "ink", "--no-script"] disk
    let leftAll := Command.run environment ["reload", "--no-script"] disk
    Command.Request.read ["reload", "-b", "ink", "--no-script"] = .ok selects ∧
      Command.Request.read ["reload", "--no-script"] = .ok reloads ∧ disk.IsTree ∧
      left.ending = .status 0 ∧ leftAll.ending = .status 0 ∧
      left.disk.entry? (cache ++ ["out", "ink"]) =
        some (.file (Text.Utf8.encode "#112233\n".toList) false) ∧
      leftAll.disk.entry? (cache ++ ["out", "ink"]) =
        left.disk.entry? (cache ++ ["out", "ink"]) := by
  intro config cache night disk environment selects reloads left leftAll
  have askedOne : Command.Request.read ["reload", "-b", "ink", "--no-script"] = .ok selects := by
    decide +kernel
  have askedAll : Command.Request.read ["reload", "--no-script"] = .ok reloads := by
    decide +kernel
  have tree : disk.IsTree := by decide +kernel
  let layout : Layout := ⟨Path.ofString "/home", Path.ofString "/home/.config/chromasync",
    Path.ofString "/home/.cache/chromasync"⟩
  have layoutIs : Layout.ofEnvironment environment.bindings = .ok layout := by
    rw [Layout.ofEnvironment,
      (by decide : Layout.ofEnvironment? environment.bindings = some layout)]
  have seen : ∀ directory ∈ layout.directories,
      (disk.look directory).toOption = some (some .directory) := by decide +kernel
  have read : ((selects.settings environment layout disk).toOption.map fun settings =>
      settings.format.toOption) = some (some .hashed) := by decide +kernel
  have whole : night.IsWhole := ⟨by decide, by decide, by decide⟩
  have loaded : Scheme.ofFile environment.levels.load disk layout.currentScheme = .ok night :=
    Scheme.ofFile_of_saved (by decide) whole (Disk.readFile_eq_ok_iff.mpr
      ⟨by decide, cache ++ ["current.json"], by decide +kernel, rfl⟩)
  let begun : Session := ⟨disk, night, []⟩
  let defaults : Defaults := ⟨layout.home, .hashed, layout.outDir⟩
  let own := layout.ownBlueprintsDir.entry "ink"
  let shared := layout.sharedBlueprintsDir.entry "ink"
  have found : ((Blueprint.find layout "ink").runIn begun).1.toOption = some own := by
    decide +kernel
  have discovered : ((Blueprint.discover layout.blueprintDirs).runIn begun).1.toOption =
      some [own, shared] := by decide +kernel
  have proper : ∀ source ∈ [own, shared], Path.IsCleanName source.name ∧ source.name ≠ ".." := by
    decide
  let ink : Rendered := ⟨own, layout.outDir, .hashed, "#112233\n".toList⟩
  have made : Blueprint.product? defaults begun own = some ink := by decide +kernel
  have leads : disk.place? ink.output = some (cache ++ ["out", "ink"]) := by decide +kernel
  have apart : ∀ source ∈ [own, shared], ∀ rendered ∈ Blueprint.product? defaults begun source,
      ∀ place ∈ disk.place? rendered.output, ∀ directory ∈ layout.blueprintDirs,
        disk.place? directory ≠ some place.dropLast := by decide +kernel
  have elsewhere : ∀ rendered ∈ Blueprint.product? defaults begun shared,
      disk.place? rendered.output ≠ some (cache ++ ["out", "ink"]) := by decide +kernel
  have isFile : (disk.isFile own).toOption = some true := by decide +kernel
  have new : disk.entryWith (cache ++ ["out", "ink"]) (Text.Utf8.encode "#112233\n".toList) =
      .file (Text.Utf8.encode "#112233\n".toList) false := by decide +kernel
  -- The rest follows from what is known of the tree, and nothing should compute with it.
  clear_value disk
  obtain ⟨settings, settingsAre, isSet⟩ := exists_ok_of_map_toOption read
  let batch : Command.Batch := ⟨layout, settings, night, [own], false⟩
  have defaultsAre : batch.defaults = defaults :=
    Command.defaultsOf_of_format (ok_of_toOption isSet)
  have gathers : Command.Gathers environment disk selects batch begun :=
    Command.gathers_of_reload_named layoutIs (fun _ among => ok_of_toOption (seen _ among))
      settingsAre loaded (ok_of_toOption found)
  rw [← defaultsAre] at made apart elsewhere
  have discovers : Blueprint.Discovers batch.defaults layout.blueprintDirs begun [own, shared] :=
    Blueprint.discovers_of_products (ok_of_toOption discovered) proper apart
  have puts : Blueprint.Puts batch.defaults begun (cache ++ ["out", "ink"]) own ink.text :=
    ⟨ink, made, leads, rfl⟩
  obtain ⟨endedOne, endedAll, held, _, same, _⟩ := reload_one_as_all environment
    ["reload", "-b", "ink", "--no-script"] ["reload", "--no-script"] disk .usual .usual none "ink"
    batch begun [own, shared] own (cache ++ ["out", "ink"]) ink.text askedOne askedAll tree gathers
    discovers ⟨own, by simp, Path.name_entry _ _⟩ (by simp [batch]) puts
  refine ⟨askedOne, askedAll, tree, endedOne, endedAll, held.trans (congrArg some new), ?_⟩
  refine same (ok_of_toOption isFile) ?_
  rintro other ⟨_, rendered, made, leads, _⟩
  exact absurd leads (elsewhere rendered made)

/--
Two blueprints of one name that go to one place, neither of them into a directory of blueprints.

By its name the one of the user is found, but of all blueprints the shared one stays.
-/
theorem reload_one_differs_from_all :
    let config : Location := ["home", ".config", "chromasync"]
    let cache : Location := ["home", ".cache", "chromasync"]
    let night : Palette := ⟨Scheme.names.map fun name => (name, ⟨17, 34, 51⟩)⟩
    let disk : Disk := ⟨["home"], [(["home"], .directory), (["home", ".config"], .directory),
      (config, .directory), (config ++ ["colorschemes"], .directory),
      (config ++ ["blueprints"], .directory), (config ++ ["blueprints", "ink"], .file
        (Text.Utf8.encode "\x7bcursor\x7d\n".toList) false),
      (["home", ".cache"], .directory), (cache, .directory),
      (cache ++ ["current.json"], .file (Text.Utf8.encode (Scheme.fileText night)) false),
      (cache ++ ["blueprints"], .directory), (cache ++ ["blueprints", "ink"], .file
        (Text.Utf8.encode "\x7bcursor\x7d!\n".toList) false),
      (cache ++ ["out"], .directory)]⟩
    let environment : Environment := .atHand [("HOME", "/home")]
    let selects : Command.Request := ⟨.usual, none, .reload [.given "ink"] false⟩
    let reloads : Command.Request := ⟨.usual, none, .reload [] false⟩
    let left := Command.run environment ["reload", "-b", "ink", "--no-script"] disk
    let leftAll := Command.run environment ["reload", "--no-script"] disk
    Command.Request.read ["reload", "-b", "ink", "--no-script"] = .ok selects ∧
      Command.Request.read ["reload", "--no-script"] = .ok reloads ∧ disk.IsTree ∧
      disk.entry? (cache ++ ["out", "ink"]) = none ∧
      (∃ batch begun sources, Command.Gathers environment disk selects batch begun ∧
        Blueprint.Discovers batch.defaults batch.layout.blueprintDirs begun sources ∧
        ∃ listed ∈ sources, listed.name = "ink") ∧
      left.ending = .status 0 ∧ leftAll.ending = .status 0 ∧
      left.disk.entry? (cache ++ ["out", "ink"]) =
        some (.file (Text.Utf8.encode "#112233\n".toList) false) ∧
      leftAll.disk.entry? (cache ++ ["out", "ink"]) =
        some (.file (Text.Utf8.encode "#112233!\n".toList) false) ∧
      leftAll.disk.entry? (cache ++ ["out", "ink"]) ≠
        left.disk.entry? (cache ++ ["out", "ink"]) := by
  intro config cache night disk environment selects reloads left leftAll
  have askedOne : Command.Request.read ["reload", "-b", "ink", "--no-script"] = .ok selects := by
    decide +kernel
  have askedAll : Command.Request.read ["reload", "--no-script"] = .ok reloads := by
    decide +kernel
  have tree : disk.IsTree := by decide +kernel
  let layout : Layout := ⟨Path.ofString "/home", Path.ofString "/home/.config/chromasync",
    Path.ofString "/home/.cache/chromasync"⟩
  have layoutIs : Layout.ofEnvironment environment.bindings = .ok layout := by
    rw [Layout.ofEnvironment,
      (by decide : Layout.ofEnvironment? environment.bindings = some layout)]
  have seen : ∀ directory ∈ layout.directories,
      (disk.look directory).toOption = some (some .directory) := by decide +kernel
  have read : ((selects.settings environment layout disk).toOption.map fun settings =>
      settings.format.toOption) = some (some .hashed) := by decide +kernel
  have whole : night.IsWhole := ⟨by decide, by decide, by decide⟩
  have loaded : Scheme.ofFile environment.levels.load disk layout.currentScheme = .ok night :=
    Scheme.ofFile_of_saved (by decide) whole (Disk.readFile_eq_ok_iff.mpr
      ⟨by decide, cache ++ ["current.json"], by decide +kernel, rfl⟩)
  let begun : Session := ⟨disk, night, []⟩
  let defaults : Defaults := ⟨layout.home, .hashed, layout.outDir⟩
  let own := layout.ownBlueprintsDir.entry "ink"
  let shared := layout.sharedBlueprintsDir.entry "ink"
  have found : ((Blueprint.find layout "ink").runIn begun).1.toOption = some own := by
    decide +kernel
  have discovered : ((Blueprint.discover layout.blueprintDirs).runIn begun).1.toOption =
      some [own, shared] := by decide +kernel
  have proper : ∀ source ∈ [own, shared], Path.IsCleanName source.name ∧ source.name ≠ ".." := by
    decide
  let ink : Rendered := ⟨own, layout.outDir, .hashed, "#112233\n".toList⟩
  let inkToo : Rendered := ⟨shared, layout.outDir, .hashed, "#112233!\n".toList⟩
  have made : Blueprint.product? defaults begun own = some ink := by decide +kernel
  have madeToo : Blueprint.product? defaults begun shared = some inkToo := by decide +kernel
  have leads : disk.place? ink.output = some (cache ++ ["out", "ink"]) := by decide +kernel
  have leadsToo : disk.place? inkToo.output = some (cache ++ ["out", "ink"]) := by decide +kernel
  have apart : ∀ source ∈ [own, shared], ∀ rendered ∈ Blueprint.product? defaults begun source,
      ∀ place ∈ disk.place? rendered.output, ∀ directory ∈ layout.blueprintDirs,
        disk.place? directory ≠ some place.dropLast := by decide +kernel
  have unwritten : disk.entry? (cache ++ ["out", "ink"]) = none := by decide +kernel
  have new (content : Text.Bytes) :
      begun.disk.entryWith (cache ++ ["out", "ink"]) content = .file content false := by
    change disk.entryWith _ _ = _
    rw [Disk.entryWith, Disk.isExecutableAt, unwritten]
  have other : Text.Utf8.encode inkToo.text ≠ Text.Utf8.encode ink.text := by decide +kernel
  -- The rest follows from what is known of the tree, and nothing should compute with it.
  clear_value disk
  obtain ⟨settings, settingsAre, isSet⟩ := exists_ok_of_map_toOption read
  let batch : Command.Batch := ⟨layout, settings, night, [own], false⟩
  have defaultsAre : batch.defaults = defaults :=
    Command.defaultsOf_of_format (ok_of_toOption isSet)
  rw [← defaultsAre] at made madeToo apart
  have gathers : Command.Gathers environment disk selects batch begun :=
    Command.gathers_of_reload_named layoutIs (fun _ among => ok_of_toOption (seen _ among))
      settingsAre loaded (ok_of_toOption found)
  have gathersAll : Command.Gathers environment disk reloads
      { batch with sources := [own, shared] } begun :=
    Command.gathers_of_reload layoutIs (fun _ among => ok_of_toOption (seen _ among))
      settingsAre loaded (ok_of_toOption discovered)
  have discovers : Blueprint.Discovers batch.defaults layout.blueprintDirs begun [own, shared] :=
    Blueprint.discovers_of_products (ok_of_toOption discovered) proper apart
  obtain ⟨endedOne, held⟩ := gathers.entry?_of_named askedOne (by simp [batch])
    ⟨ink, made, leads, rfl⟩
  have puts : Blueprint.Puts batch.defaults begun (cache ++ ["out", "ink"]) shared inkToo.text :=
    ⟨inkToo, madeToo, leadsToo, rfl⟩
  have same : begun.disk = Command.preparedDisk environment disk := gathers.split_of_named.1
  obtain ⟨endedAll, settled⟩ := gathersAll.settled_of_all same tree askedAll discovers
  obtain ⟨seen, usual⟩ := gathersAll.seen_of_disk same
  have among : shared ∈ [own, shared] := by simp
  have goes := (Blueprint.goesTo_iff (discovers.free seen among) usual).mpr ⟨_, puts⟩
  have heldAll := (settled (cache ++ ["out", "ink"])).of_puts
    (discovers.lastInto?_of_shared seen usual among goes) puts
  rw [new] at held heldAll
  refine ⟨askedOne, askedAll, tree, unwritten, ⟨batch, begun, [own, shared], gathers, discovers,
    own, by simp, Path.name_entry _ _⟩, endedOne, endedAll, held, heldAll, fun agree => ?_⟩
  rw [held, heldAll] at agree
  exact other (Entry.file.inj (Option.some.inj agree)).1

end Themer
