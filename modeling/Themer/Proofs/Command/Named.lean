import Themer.Proofs.Blueprint.Ledger
import Themer.Proofs.Command.Selected

/-!
A reload of one blueprint by its name: how the search for it ends, and the run with it.

The search ends at something that is there, in a report, or at a path that is too long.
-/

namespace Themer

namespace Blueprint

/-- The message for a blueprint that is nowhere quotes its name and the three paths. -/
theorem message_noBlueprint (name : String) (own shared itself : Path) :
    (Problem.setup (.noBlueprint name [own, shared, itself])).message =
      s!"Can't find blueprint `{name}`. Neither of the following files exists `" ++
        s!"{own.text}`, `{shared.text}`, `{itself.text}`" := by
  -- The message joins the texts of any paths; of three, this is what it comes to.
  change "Can't find blueprint `" ++ name ++ "`. Neither of the following files exists `" ++
    "`, `".intercalate [own.text, shared.text, itself.text] ++ "`" = _
  simp only [String.intercalate_cons_cons, String.intercalate_singleton, String.append_assoc]
  rfl

end Blueprint

namespace Command

/-- An argument that does not begin with a dash is a word. -/
theorem roleOf_of_no_dash (grammar : Grammar) {word : String}
    (plain : word.toList.head? ≠ some '-') : roleOf grammar word = .ok .word := by
  unfold roleOf
  split
  · rename_i spelled
    simp [spelled] at plain
  · rfl

/-- An argument that is not the terminator has its own role, whatever comes after it. -/
theorem rolesOf_cons (grammar : Grammar) {first : String} {rest : List String} {role : Role}
    {roles : List (String × Role)} (other : first ≠ terminator)
    (isRole : roleOf grammar first = .ok role) (later : rolesOf grammar rest = .ok roles) :
    rolesOf grammar (first :: rest) = .ok ((first, role) :: roles) := by
  -- Only the terminator changes what the arguments behind it are.
  rw [rolesOf, if_neg other, isRole, later]
  rfl

/-- Every name that does not begin with a dash can be given to a reload. -/
theorem read_reload_named {name : String} (plain : name.toList.head? ≠ some '-') :
    Request.read ["reload", "-b", name] =
      .ok ⟨.usual, none, .reload [.given name] true⟩ := by
  have other : name ≠ terminator := by
    rintro rfl
    exact plain rfl
  have word (grammar : Grammar) : rolesOf grammar [name] = .ok [(name, .word)] :=
    rolesOf_cons grammar other (roleOf_of_no_dash grammar plain) rfl
  -- The outer grammar knows no such option, and leaves it to the inner one with its value.
  have outer : Grammar.top.read ["reload", "-b", name] =
      .ok ⟨[], some ["reload", "-b", name], []⟩ := by
    have roles : rolesOf Grammar.top ["reload", "-b", name] =
        .ok [("reload", .word), ("-b", .option ⟨none, true, none⟩), (name, .word)] :=
      rolesOf_cons _ (by decide) rfl (rolesOf_cons _ (by decide) rfl (word _))
    rw [Grammar.read, roles]
    rfl
  -- There the name is a word after the option, and so its value.
  have inner : Name.reload.grammar.read ["-b", name] =
      .ok ⟨[(.blueprint, .given name)], none, []⟩ := by
    let blueprint : Opt := .valued .blueprint ["--blueprint", "-b"]
    have roles : rolesOf Name.reload.grammar ["-b", name] =
        .ok [("-b", .option ⟨some blueprint, true, none⟩), (name, .word)] :=
      rolesOf_cons _ (by decide) rfl (word _)
    have given : Value.ofText name = .given name := if_neg other
    rw [Grammar.read, roles, ← given]
    rfl
  rw [Request.read, outer]
  change (Name.reload.grammar.read ["-b", name] >>= _) = _
  rw [inner]
  rfl

variable {environment : Environment} {arguments : List String} {disk : Disk} {request : Request}
  {layout : Layout} {name : String}

/--
A run is asked to reload one name, and it gets as far as the search for it.

It has prepared, and the colorscheme loaded last can be read.
-/
structure ReloadsNamed (environment : Environment) (arguments : List String) (disk : Disk)
    (request : Request) (layout : Layout) (name : String) : Prop where
  asked : Request.read arguments = .ok request
  named : ∃ withScript, request.action = .reload [.given name] withScript
  prepared : ∃ settings, (request.prepare environment).runIn (.start disk) =
    (.ok (layout, settings), .start (preparedDisk environment disk))
  loaded : ∃ scheme, Scheme.ofFile environment.levels.load (preparedDisk environment disk)
    layout.currentScheme = .ok scheme

namespace ReloadsNamed

variable (reloads : ReloadsNamed environment arguments disk request layout name)
  {session : Session} (diskIs : session.disk = preparedDisk environment disk)
include reloads diskIs

/-- Such a run chooses what is found by the name in any session in its tree. -/
theorem chooses (scheme : Palette) :
    (request.action.choose environment layout scheme).runIn
        ⟨preparedDisk environment disk, scheme, []⟩ =
      (((Blueprint.find layout name).runIn session).1.map fun path => [path],
        ⟨preparedDisk environment disk, scheme, []⟩) := by
  obtain ⟨withScript, actionIs⟩ := reloads.named
  -- Of the session, only the tree matters to the search.
  rw [actionIs, runIn_choose_named, Blueprint.runIn_find, Blueprint.runIn_find, diskIs]

/-- What is found by the name is what such a run gathers. -/
theorem gathers {path : Path} (found : ((Blueprint.find layout name).runIn session).1 = .ok path) :
    ∃ settings scheme, Gathers environment disk request
      ⟨layout, settings, scheme, [path], request.action.withScript⟩
      ⟨preparedDisk environment disk, scheme, []⟩ := by
  have chooses := reloads.chooses diskIs
  rw [found] at chooses
  -- What keeps a reload from gathering is settled: it is prepared, and its scheme is loaded.
  obtain ⟨loudness, config, action⟩ := request
  obtain ⟨_, ⟨withScript, rfl⟩, ⟨settings, prepared⟩, scheme, loaded⟩ := reloads
  exact ⟨settings, scheme, gathers_reload_iff.mpr ⟨prepared, loaded, chooses scheme⟩⟩

/-- Such a run fails as the search does, in the tree where it is prepared. -/
theorem run_of_error {failure : Failure Problem}
    (failed : ((Blueprint.find layout name).runIn session).1 = .error failure) :
    Command.run environment arguments disk = request.failed failure session.disk := by
  have chooses := reloads.chooses diskIs
  rw [failed] at chooses
  obtain ⟨asked, ⟨withScript, actionIs⟩, ⟨settings, prepared⟩, scheme, loaded⟩ := reloads
  have builds : request.action.schemeFile? layout = some layout.currentScheme := by
    rw [actionIs]
    rfl
  -- The colorscheme is read and taken into use, and the choice after it fails.
  have gathers : (request.action.gather environment layout settings layout.currentScheme).runIn
      (.start (preparedDisk environment disk)) =
        (.error failure, ⟨preparedDisk environment disk, scheme, []⟩) := by
    rw [runIn_gather_of_loaded settings request.action (by exact loaded)]
    exact Work.runIn_bind_of_error (chooses scheme) _
  have ran : (request.run environment).runIn (.start disk) =
      (.error failure, ⟨preparedDisk environment disk, scheme, []⟩) := by
    rw [run_eq, Work.runIn_bind_of_ok prepared]
    dsimp only
    rw [perform_eq environment settings builds]
    exact Work.runIn_bind_of_error gathers _
  rw [diskIs, ← outcome_of_run_error ran rfl]
  simp only [Command.run, asked]

/-- Such a run ends well with what is found, whatever this is, if no script is to run. -/
theorem ending_of_ok {path : Path}
    (found : ((Blueprint.find layout name).runIn session).1 = .ok path)
    (plain : request.action.withScript = false) :
    (Command.run environment arguments disk).ending = .status 0 := by
  obtain ⟨settings, scheme, gathers⟩ := reloads.gathers diskIs found
  obtain ⟨_, usual⟩ := gathers.seen_of_disk rfl
  -- What is there has no NUL in its path, so that a batch of it comes to its end.
  have free : Disk.hasNul path = false := by
    obtain ⟨_, isThere⟩ := Blueprint.find_eq_ok_iff.mp found
    obtain ⟨entry, looked⟩ := Disk.isThere_eq_true_iff.mp isThere
    exact (Disk.look_eq_some_iff.mp looked).1
  obtain ⟨after, built, _⟩ := Blueprint.runIn_buildEach_ledger usual
    (List.forall_mem_singleton.mpr free) ⟨preparedDisk environment disk, scheme, []⟩
  exact (gathers.left_of_buildEach reloads.asked plain built).1

end ReloadsNamed

/-- Where the directories, the settings and the saved scheme are there, nothing has to be made. -/
theorem reloadsNamed_of_seen {loudness : Loudness} {config : Option Value} {withScript : Bool}
    {settings : Settings} {scheme : Palette}
    (asked : Request.read arguments = .ok ⟨loudness, config, .reload [.given name] withScript⟩)
    (layoutIs : Layout.ofEnvironment environment.bindings = .ok layout)
    (seen : ∀ directory ∈ layout.directories, disk.look directory = .ok (some .directory))
    (read : Request.settings environment ⟨loudness, config, .reload [.given name] withScript⟩ layout
      disk = .ok settings)
    (loaded : Scheme.ofFile environment.levels.load disk layout.currentScheme = .ok scheme) :
    preparedDisk environment disk = disk ∧ ReloadsNamed environment arguments disk
      ⟨loudness, config, .reload [.given name] withScript⟩ layout name := by
  obtain ⟨same, prepares⟩ := runIn_prepare_of_seen layoutIs seen read
  refine ⟨same, asked, ⟨withScript, rfl⟩, ⟨settings, ?_⟩, scheme, ?_⟩ <;> rw [same]
  · exact prepares
  · exact loaded

end Command

/--
The search for a blueprint by its name ends at the first of three paths that something is at.

These lie in the user's own directory, in the shared one, and where the name leads by itself.
If nothing is at any of them, a problem is reported that names all three.
Nothing else is reported, but a path that is too long cuts the search short if it gets there.
A run is asked to reload any name that does not begin with a dash.
It ends with status one where the problem is reported and without status where the search is cut
short, and where something is found it ends well unless a script comes after.
-/
theorem named_blueprint_found_or_reported (layout : Layout) (name : String) (session : Session) :
    let own := layout.ownBlueprintsDir.child name
    let shared := layout.sharedBlueprintsDir.child name
    let itself := Path.ofString name
    let paths := [own, shared, itself]
    let missing : Problem := .setup (.noBlueprint name paths)
    let found := ((Blueprint.find layout name).runIn session).1
    (∀ path, found = .ok path ↔
      session.disk.GetsTo paths path ∧ session.disk.isThere path = .ok true) ∧
    (∀ problem, found = .error (.reported problem) ↔
      problem = missing ∧ ∀ path ∈ paths, session.disk.isThere path = .ok false) ∧
    (∀ cause, found = .error (.cutShort cause) ↔
      ∃ path, session.disk.GetsTo paths path ∧ Disk.hasNul path = false ∧
        session.disk.IsOverlong path ∧ cause = .denied (.os ⟨.nameTooLong, path.text⟩)) ∧
    missing.message = s!"Can't find blueprint `{name}`. Neither of the following files exists `" ++
      s!"{own.text}`, `{shared.text}`, `{itself.text}`" ∧
    ((Blueprint.find layout name).runIn session).2 = session ∧
    (name.toList.head? ≠ some '-' → Command.Request.read ["reload", "-b", name] =
      .ok ⟨.usual, none, .reload [.given name] true⟩) ∧
    ∀ environment arguments disk request,
      Command.ReloadsNamed environment arguments disk request layout name →
      session.disk = Command.preparedDisk environment disk →
      let left := Command.run environment arguments disk
      (found = .error (.reported missing) → left = ⟨.status 1, "", Command.Usage.lines
        (([⟨.error, missing.message⟩].filter request.loudness.shows).map Command.noticeLine),
        session.disk⟩) ∧
      (∀ cause, found = .error (.cutShort cause) →
        left = ⟨.cutShort cause, "", "", session.disk⟩) ∧
      (∀ path, found = .ok path → request.action.withScript = false →
        left.ending = .status 0) := by
  intro own shared itself paths missing found
  refine ⟨fun path => Blueprint.find_eq_ok_iff, fun problem => Blueprint.find_eq_reported_iff,
    fun cause => Blueprint.find_eq_cutShort_iff,
    Blueprint.message_noBlueprint name own shared itself,
    Blueprint.observes_find layout name session, Command.read_reload_named, ?_⟩
  intro environment arguments disk request reloads diskIs left
  exact ⟨reloads.run_of_error diskIs, fun cause => reloads.run_of_error diskIs,
    fun path found plain => reloads.ending_of_ok diskIs found plain⟩

/-- A name that nothing is found by is told of in one line, and the run ends with status one. -/
theorem named_blueprint_found_or_reported_missing :
    let config : Location := ["home", ".config", "chromasync"]
    let cache : Location := ["home", ".cache", "chromasync"]
    let night : Palette := ⟨Scheme.names.map fun name => (name, ⟨17, 34, 51⟩)⟩
    let disk : Disk := ⟨["home"], [(["home"], .directory), (["home", ".config"], .directory),
      (config, .directory), (config ++ ["colorschemes"], .directory),
      (config ++ ["blueprints"], .directory), (["home", ".cache"], .directory),
      (cache, .directory),
      (cache ++ ["current.json"], .file (Text.Utf8.encode (Scheme.fileText night)) false),
      (cache ++ ["blueprints"], .directory), (cache ++ ["out"], .directory)]⟩
    let environment : Environment := .atHand [("HOME", "/home")]
    let arguments := ["reload", "-b", "ink"]
    let left := Command.run environment arguments disk
    (∃ layout, Command.ReloadsNamed environment arguments disk
      ⟨.usual, none, .reload [.given "ink"] true⟩ layout "ink") ∧
    left.ending = .status 1 ∧ left.output = "" ∧ left.disk = disk ∧
    left.errors = "ERROR: Can't find blueprint `ink`. Neither of the following files exists " ++
      "`/home/.config/chromasync/blueprints/ink`, `/home/.cache/chromasync/blueprints/ink`, " ++
      "`ink`\n" := by
  intro config cache night disk environment arguments left
  let request : Command.Request := ⟨.usual, none, .reload [.given "ink"] true⟩
  have asked : Command.Request.read arguments = .ok request :=
    Command.read_reload_named (by decide)
  let layout : Layout := ⟨Path.ofString "/home", Path.ofString "/home/.config/chromasync",
    Path.ofString "/home/.cache/chromasync"⟩
  have layoutIs : Layout.ofEnvironment environment.bindings = .ok layout := by
    rw [Layout.ofEnvironment,
      (by decide : Layout.ofEnvironment? environment.bindings = some layout)]
  have seen : ∀ directory ∈ layout.directories,
      (disk.look directory).toOption = some (some .directory) := by decide +kernel
  have isRead : (request.settings environment layout disk).isOk = true := by decide +kernel
  have whole : night.IsWhole := ⟨by decide, by decide, by decide⟩
  have loaded : Scheme.ofFile environment.levels.load disk layout.currentScheme = .ok night :=
    Scheme.ofFile_of_saved (by decide) whole (Disk.readFile_eq_ok_iff.mpr
      ⟨by decide, cache ++ ["current.json"], by decide +kernel, rfl⟩)
  have nowhere : ∀ path ∈ Blueprint.candidates layout "ink",
      (disk.isThere path).toOption = some false := by decide +kernel
  let own := layout.ownBlueprintsDir.child "ink"
  let shared := layout.sharedBlueprintsDir.child "ink"
  have texts : own.text = "/home/.config/chromasync/blueprints/ink" ∧
      shared.text = "/home/.cache/chromasync/blueprints/ink" ∧ (Path.ofString "ink").text = "ink" := by
    decide +kernel
  let missing : Problem := .setup (.noBlueprint "ink" [own, shared, Path.ofString "ink"])
  have line : Command.Usage.lines (([⟨.error, missing.message⟩].filter
      request.loudness.shows).map Command.noticeLine) =
        "ERROR: Can't find blueprint `ink`. Neither of the following files exists " ++
          "`/home/.config/chromasync/blueprints/ink`, `/home/.cache/chromasync/blueprints/ink`, " ++
          "`ink`\n" := by
    have message := Blueprint.message_noBlueprint "ink" own shared (Path.ofString "ink")
    rw [texts.1, texts.2.1, texts.2.2] at message
    rw [message]
    decide +kernel
  -- The rest follows from what is known of the tree, and nothing should compute with it.
  clear_value disk
  obtain ⟨settings, read⟩ := isOk_iff.mp isRead
  obtain ⟨prepared, reloads⟩ := Command.reloadsNamed_of_seen asked layoutIs
    (fun _ among => ok_of_toOption (seen _ among)) read loaded
  obtain ⟨_, reported, _, _, _, _, ran⟩ :=
    named_blueprint_found_or_reported layout "ink" (.start disk)
  obtain ⟨ends, _⟩ := ran environment arguments disk request reloads prepared.symm
  have leftIs : left = ⟨.status 1, "", Command.Usage.lines (([⟨.error, missing.message⟩].filter
      request.loudness.shows).map Command.noticeLine), disk⟩ :=
    ends ((reported missing).mpr ⟨rfl, fun path among => ok_of_toOption (nowhere path among)⟩)
  rw [line] at leftIs
  rw [leftIs]
  exact ⟨⟨layout, reloads⟩, rfl, rfl, rfl, rfl⟩

/-- A name of more bytes than any file can have is not reported, and the run ends without status. -/
theorem named_blueprint_not_reported_overlong :
    let config : Location := ["home", ".config", "chromasync"]
    let cache : Location := ["home", ".cache", "chromasync"]
    let night : Palette := ⟨Scheme.names.map fun name => (name, ⟨17, 34, 51⟩)⟩
    let disk : Disk := ⟨["home"], [(["home"], .directory), (["home", ".config"], .directory),
      (config, .directory), (config ++ ["colorschemes"], .directory),
      (config ++ ["blueprints"], .directory), (["home", ".cache"], .directory),
      (cache, .directory),
      (cache ++ ["current.json"], .file (Text.Utf8.encode (Scheme.fileText night)) false),
      (cache ++ ["blueprints"], .directory), (cache ++ ["out"], .directory)]⟩
    let environment : Environment := .atHand [("HOME", "/home")]
    let name := String.ofList (List.replicate 256 'a')
    let left := Command.run environment ["reload", "-b", name] disk
    let cause : Interruption :=
      .denied (.os ⟨.nameTooLong, "/home/.config/chromasync/blueprints/" ++ name⟩)
    (∃ layout, Layout.ofEnvironment environment.bindings = .ok layout ∧
      ((Blueprint.find layout name).runIn (.start disk)).1 = .error (.cutShort cause)) ∧
    left.ending = .cutShort cause ∧ left.errors = "" := by
  intro config cache night disk environment name left cause
  let request : Command.Request := ⟨.usual, none, .reload [.given name] true⟩
  let layout : Layout := ⟨Path.ofString "/home", Path.ofString "/home/.config/chromasync",
    Path.ofString "/home/.cache/chromasync"⟩
  have layoutIs : Layout.ofEnvironment environment.bindings = .ok layout := by
    rw [Layout.ofEnvironment,
      (by decide : Layout.ofEnvironment? environment.bindings = some layout)]
  have seen : ∀ directory ∈ layout.directories,
      (disk.look directory).toOption = some (some .directory) := by decide +kernel
  have isRead : (request.settings environment layout disk).isOk = true := by decide +kernel
  have whole : night.IsWhole := ⟨by decide, by decide, by decide⟩
  have loaded : Scheme.ofFile environment.levels.load disk layout.currentScheme = .ok night :=
    Scheme.ofFile_of_saved (by decide) whole (Disk.readFile_eq_ok_iff.mpr
      ⟨by decide, cache ++ ["current.json"], by decide +kernel, rfl⟩)
  have spelled : name.toList = List.replicate 256 'a' := String.toList_ofList
  have clean : Path.IsCleanName name := by
    rw [Path.IsCleanName, spelled]
    decide +kernel
  have plain : name.toList.head? ≠ some '-' ∧ '\x00' ∉ name.toList := by
    rw [spelled]
    decide +kernel
  have long : name ≠ ".." ∧ Disk.nameLimit < name.utf8ByteSize := by decide +kernel
  have text : (layout.ownBlueprintsDir.entry name).text =
      "/home/.config/chromasync/blueprints/" ++ name := by decide +kernel
  -- The rest follows from what is known of the tree, and nothing should compute with it.
  clear_value disk name
  obtain ⟨settings, read⟩ := isOk_iff.mp isRead
  have failed : ((Blueprint.find layout name).runIn (.start disk)).1 =
      .error (.cutShort cause) := by
    have seenOwn : (Session.start disk).disk.look layout.ownBlueprintsDir =
        .ok (some .directory) :=
      ok_of_toOption (seen layout.ownBlueprintsDir (by simp [Layout.directories]))
    rw [Blueprint.find_of_long seenOwn clean long.1 plain.2 long.2, text]
  have asked := Command.read_reload_named plain.1
  obtain ⟨prepared, reloads⟩ := Command.reloadsNamed_of_seen asked layoutIs
    (fun _ among => ok_of_toOption (seen _ among)) read loaded
  have leftIs : left = request.failed (.cutShort cause) disk :=
    reloads.run_of_error prepared.symm failed
  rw [leftIs]
  exact ⟨⟨layout, layoutIs, failed⟩, rfl, rfl⟩

end Themer
