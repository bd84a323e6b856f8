import Themer.AtHand
import Themer.Proofs.Blueprint.Searched
import Themer.Proofs.Command.Stages
import Themer.Proofs.Scheme.Saved

/-! Where the problems of a run come from: before any file is written, or from the script. -/

namespace Themer

namespace Blueprint

/-- Telling files from other things reports no problem. -/
theorem neverReports_filesAmong (paths : List Path) : (filesAmong paths).NeverReports := by
  -- Looking at a path can only cut the run short.
  induction paths with
  | nil => exact Work.neverReports_pure _
  | cons path rest ih =>
    exact Work.neverReports_disk.bind fun disk =>
      (Work.neverReports_granted _).bind fun isFile =>
        ih.bind fun more => Work.neverReports_pure _

/-- A directory of blueprints that cannot be read is told of, and no problem. -/
theorem neverReports_discover (directories : List Path) :
    (discover directories).NeverReports := by
  -- One directory a step: it is listed, or it is told of and passed over.
  induction directories with
  | nil => exact Work.neverReports_pure _
  | cons directory rest ih =>
    refine Work.neverReports_disk.bind fun disk => ?_
    cases disk.list directory with
    | ok names =>
      exact (neverReports_filesAmong _).bind fun found =>
        ih.bind fun more => Work.neverReports_pure _
    | error denial =>
      cases denial with
      | os e => exact (Work.neverReports_tell _ _).bind fun _ => ih
      | nulByte | tooDeep => exact Work.neverReports_cutShort _

end Blueprint

namespace Script

/--
A script is launched if there is something at its path, and that is told first.

All that it reports is its own failure, and it is waited for to the end.
-/
theorem runIn_runAfter (environment : Environment) (script : Path) (session : Session) :
    (runAfter environment (some script)).runIn session =
      match session.disk.isThere script with
      | .error e => (.error (.cutShort (.denied (.os e))), session)
      | .ok false =>
        (.ok (), { session with notices := session.notices ++
          [⟨.info, s!"No post-render script at {script.text}, skipping"⟩] })
      | .ok true =>
        let told : Session := { session with notices := session.notices ++
          [⟨.debug, s!"Running {script.text}"⟩] }
        match environment.launch session.disk script with
        | .error cause =>
          (.error (.reported (.script (.notLaunched script ⟨cause, script.text⟩))), told)
        | .ok (.ended finished disk) =>
          ((judge script finished).mapError (·.map .script), { told with disk })
        | .ok .endless => (.error (.cutShort .endless), told) := by
  -- The cases are the ways to end: unseen, nothing there, not launched, and judged.
  rw [runAfter, Work.runIn_bind_of_ok (Work.runIn_disk session), Work.runIn_bind]
  cases session.disk.isThere script with
  | error e => rfl
  | ok isThere =>
    cases isThere with
    | false => rfl
    | true =>
      change (Work.tell _ _ >>= fun _ => Work.disk >>= _).runIn session = _
      rw [Work.runIn_bind_of_ok (Work.runIn_tell _ _ _), Work.runIn_bind_of_ok (Work.runIn_disk _)]
      dsimp only
      cases environment.launch session.disk script with
      | error cause => rfl
      | ok ran =>
        cases ran with
        | endless => rfl
        | ended finished disk =>
          dsimp only
          rw [Work.runIn_bind_of_ok (Work.runIn_setDisk _ _), Work.runIn_ofExcept]

/-- All that is reported after a batch is its script: not launched, or launched and judged so. -/
theorem reported_of_runAfter {environment : Environment} {script : Option Path}
    {session after : Session} {problem : Problem}
    (ended : (runAfter environment script).runIn session = (.error (.reported problem), after)) :
    ∃ path e, script = some path ∧ problem = .script e ∧
      ((∃ cause, environment.launch session.disk path = .error cause ∧
          e = .notLaunched path ⟨cause, path.text⟩) ∨
        ∃ finished disk, environment.launch session.disk path = .ok (.ended finished disk) ∧
          judge path finished = .error (.reported e)) := by
  cases script with
  | none => cases ended
  | some path =>
    -- Of the ways that this can end, two report, and they report what the script has done.
    rw [runIn_runAfter] at ended
    cases isThere : session.disk.isThere path with
    | error e =>
      rw [isThere] at ended
      cases ended
    | ok found =>
      rw [isThere] at ended
      cases found with
      | false => cases ended
      | true =>
        dsimp only at ended
        cases launched : environment.launch session.disk path with
        | error cause =>
          rw [launched] at ended
          cases ended
          exact ⟨path, _, rfl, rfl, .inl ⟨cause, launched, rfl⟩⟩
        | ok ran =>
          rw [launched] at ended
          cases ran with
          | endless => cases ended
          | ended finished disk =>
            dsimp only at ended
            cases judged : judge path finished with
            | ok done =>
              rw [judged] at ended
              cases ended
            | error failure =>
              rw [judged] at ended
              cases failure with
              | cutShort cause => cases ended
              | reported e =>
                cases ended
                exact ⟨path, e, rfl, rfl, .inr ⟨finished, disk, launched, judged⟩⟩

end Script

namespace Listing

/-- Files that hold no colorscheme are told of, and no problem. -/
theorem neverReports_ofFiles (levels : Nat) (files : List Path) :
    (ofFiles levels files).NeverReports := by
  -- One file a step; what is wrong with it becomes a notice here, not a problem.
  induction files with
  | nil => exact Work.neverReports_pure _
  | cons file rest ih =>
    refine Work.neverReports_disk.bind fun disk => ?_
    cases Scheme.ofFile levels disk file with
    | ok palette => exact ih.bind fun more => Work.neverReports_pure _
    | error failure =>
      cases failure with
      | reported e => exact (Work.neverReports_tell _ _).bind fun _ => ih
      | cutShort cause => exact Work.neverReports_cutShort _

/-- A directory of colorschemes that cannot be listed is reported before anything is told. -/
theorem reported_of_collect {levels : Nat} {directory : Path} {session after : Session}
    {problem : Problem}
    (ended : (collect levels directory).runIn session = (.error (.reported problem), after)) :
    after = session ∧ ∃ e, problem = .setup (.schemesUnreadable directory e) := by
  -- Looking at the tree as it is cannot fail.
  obtain refused | ⟨disk, _, looked, later⟩ := Work.error_of_bind ended
  · cases refused
  cases looked
  -- The directory is listed before any file is read, and reading the files reports nothing.
  obtain refused | ⟨found, between, listed, later⟩ := Work.error_of_bind later
  · exact Work.reported_of_grantedOr refused
  have names := Work.observes_grantedOr (fun e => .setup (.schemesUnreadable directory e))
    (session.disk.list directory)
  obtain rfl : between = session := by rw [← names session, listed]
  exact Work.reported_of_grantedOr (Work.reported_of_bind (neverReports_ofFiles levels) later)

end Listing

namespace Command

variable {environment : Environment}

/-- Saving a palette as the one loaded last reports nothing, even where it fails. -/
theorem neverReports_remember (environment : Environment) (palette : Palette) (file : Path) :
    (remember environment palette file).NeverReports := by
  intro session problem after ended
  -- A refusal of the system is handled here, and any other cuts short.
  rw [remember, Work.runIn_tryCatch, Work.runIn_bind, Scheme.runIn_save] at ended
  cases ensured : session.disk.ensurePath environment.levels.make file.parent with
  | mk made disk =>
    rw [ensured] at ended
    cases made with
    | error denial => cases denial <;> cases ended
    | ok done =>
      dsimp only at ended
      cases written : disk.writeFile file (Text.Utf8.encode (Scheme.fileText palette)) with
      | ok disk =>
        rw [written] at ended
        cases ended
      | error denial =>
        rw [written] at ended
        cases denial <;> cases ended

/-- Searching for some blueprints leaves the session alone. -/
theorem observes_findEach (layout : Layout) (names : List Value) :
    (findEach layout names).Observes := by
  -- A name is needed, searched for, and then the rest: none of the three writes.
  induction names with
  | nil => exact Work.observes_pure _
  | cons name rest ih =>
    exact (Work.observes_ofExcept _).bind fun text =>
      (Blueprint.observes_find layout text).bind fun path =>
        ih.bind fun more => Work.observes_pure _

/-- To choose the blueprint of one name is to search for it. -/
theorem runIn_choose_named (layout : Layout) (palette : Palette) (name : String)
    (withScript : Bool) (session : Session) :
    ((Action.reload [.given name] withScript).choose environment layout palette).runIn session =
      (((Blueprint.find layout name).runIn session).1.map fun path => [path], session) := by
  change (Blueprint.find layout name >>= fun path => pure [path]).runIn session = _
  rw [bind_pure_comp, Work.runIn_map, Blueprint.observes_find]

/-- All that is reported in searching for some blueprints is that one of them is nowhere. -/
theorem reported_of_findEach {layout : Layout} {names : List Value} {session after : Session}
    {problem : Problem}
    (ended : (findEach layout names).runIn session = (.error (.reported problem), after)) :
    ∃ name, .given name ∈ names ∧
      problem = .setup (.noBlueprint name (Blueprint.candidates layout name)) := by
  -- Names are searched for from the first on, and the first that is nowhere is reported.
  induction names generalizing session with
  | nil => cases ended
  | cons first rest ih =>
    rw [findEach] at ended
    cases first with
    | nothing => cases ended
    | given text =>
      rw [Value.need, Work.runIn_bind_of_ok (Work.runIn_ofExcept _ _)] at ended
      -- Either this search has failed, or it has found a path and the rest has failed.
      obtain missing | ⟨path, between, found, later⟩ := Work.error_of_bind ended
      · have nowhere := Blueprint.find_eq_reported_iff.mp (congrArg Prod.fst missing)
        exact ⟨text, List.mem_cons_self, nowhere.1⟩
      · obtain ⟨name, among, missing⟩ :=
          ih (Work.reported_of_bind (fun _ => Work.neverReports_pure _) later)
        exact ⟨name, List.mem_cons_of_mem _ among, missing⟩

/-- What goes wrong in choosing blueprints leaves the session as it was: one named is nowhere. -/
theorem reported_of_choose {layout : Layout} {palette : Palette} {action : Action}
    {session after : Session} {problem : Problem}
    (ended : (action.choose environment layout palette).runIn session =
      (.error (.reported problem), after)) :
    after = session ∧ ∃ names withScript name, action = .reload names withScript ∧
      .given name ∈ names ∧
      problem = .setup (.noBlueprint name (Blueprint.candidates layout name)) := by
  have discovers := Blueprint.neverReports_discover layout.blueprintDirs
  cases action with
  | load scheme =>
    -- A load does write a file here, but then it has nothing left to report.
    have quiet : (Action.choose environment layout palette (.load scheme)).NeverReports :=
      (Work.neverReports_tell _ _).bind fun _ =>
        (neverReports_remember _ _ _).bind fun _ => discovers
    exact absurd ended (quiet session problem after)
  | list dark light order => cases ended
  | reload names withScript =>
    simp only [Action.choose] at ended
    -- Without a name all blueprints are discovered, which reports nothing.
    split at ended
    · exact absurd ended (discovers session problem after)
    · obtain ⟨name, among, missing⟩ := reported_of_findEach ended
      refine ⟨?_, names, withScript, name, rfl, among, missing⟩
      rw [← observes_findEach layout names session, ended]

/--
A problem that a run has before it builds anything, by where it comes from.

These are the surroundings, the settings, the colorscheme, and a named blueprint that is nowhere.
-/
inductive FoundEarly (environment : Environment) (disk : Disk) (request : Request) :
    Problem → Prop
  | noHome : FoundEarly environment disk request (.setup .noHome)
  | directory {layout : Layout} {path : Path} {e : OsError}
      (layoutIs : Layout.ofEnvironment environment.bindings = .ok layout)
      (among : path ∈ layout.directories) :
      FoundEarly environment disk request (.setup (.directoryNotMade path e))
  | settings {layout : Layout} {problem : Problem}
      (layoutIs : Layout.ofEnvironment environment.bindings = .ok layout)
      (bad : request.settings environment layout (preparedDisk environment disk) =
        .error (.reported problem)) :
      FoundEarly environment disk request problem
  | schemes {layout : Layout} {e : OsError}
      (layoutIs : Layout.ofEnvironment environment.bindings = .ok layout) :
      FoundEarly environment disk request (.setup (.schemesUnreadable layout.schemesDir e))
  | scheme {layout : Layout} {file : Path} {e : SchemeError}
      (layoutIs : Layout.ofEnvironment environment.bindings = .ok layout)
      (builds : request.action.schemeFile? layout = some file)
      (bad : Scheme.ofFile environment.levels.load (preparedDisk environment disk) file =
        .error (.reported e)) :
      FoundEarly environment disk request (.scheme e)
  | name {layout : Layout} {names : List Value} {withScript : Bool} {name : String}
      (layoutIs : Layout.ofEnvironment environment.bindings = .ok layout)
      (reloads : request.action = .reload names withScript)
      (among : .given name ∈ names) :
      FoundEarly environment disk request
        (.setup (.noBlueprint name (Blueprint.candidates layout name)))

/-- What is reported in preparing comes from the surroundings or from the settings. -/
theorem foundEarly_of_prepare {environment : Environment} {disk : Disk} {request : Request}
    {after : Session} {problem : Problem}
    (ended : (request.prepare environment).runIn (.start disk) =
      (.error (.reported problem), after)) :
    FoundEarly environment disk request problem := by
  cases layoutIs : Layout.ofEnvironment environment.bindings with
  | error e =>
    -- The surroundings lack one thing only, a home directory.
    obtain rfl : e = .noHome := by
      rw [Layout.ofEnvironment] at layoutIs
      split at layoutIs <;> cases layoutIs
      rfl
    rw [Request.prepare, layoutIs] at ended
    cases ended
    exact .noHome
  | ok layout =>
    -- If a directory cannot be made, this is how preparing ends.
    have stops {failure : Failure Problem}
        (failed : ((layout.makeDirectories environment.levels.make).runIn (.start disk)).1 =
          .error failure) :
        failure = .reported problem := by
      have ran : (layout.makeDirectories environment.levels.make).runIn (.start disk) =
          (.error failure,
            ((layout.makeDirectories environment.levels.make).runIn (.start disk)).2) :=
        Prod.ext failed rfl
      rw [Request.prepare, layoutIs] at ended
      change (layout.makeDirectories environment.levels.make >>= _).runIn (.start disk) = _ at ended
      rw [Work.runIn_bind_of_error ran] at ended
      exact Except.error.inj (congrArg Prod.fst ended)
    -- All directories were made and the settings are read, or one was refused, or cut short.
    rcases Layout.ended_of_makeEach environment.levels.make layout.directories (.start disk) with
      made | ⟨path, among, ⟨e, reported⟩ | ⟨_, cut⟩ | ⟨_, cut⟩⟩
    · rw [runIn_prepare_of_made layoutIs made] at ended
      cases read : request.settings environment layout (preparedDisk environment disk) with
      | ok settings =>
        rw [read] at ended
        cases ended
      | error failure =>
        rw [read] at ended
        cases ended
        exact .settings layoutIs read
    · cases stops reported
      exact .directory layoutIs among
    · cases stops cut
    · cases stops cut

/-- A problem in gathering what is to be built leaves the disk alone and nothing told. -/
theorem reported_of_gather {layout : Layout} {settings : Settings} {action : Action}
    {file : Path} {session after : Session} {problem : Problem}
    (ended : (action.gather environment layout settings file).runIn session =
      (.error (.reported problem), after)) :
    (after.disk = session.disk ∧ after.notices = session.notices) ∧
      ((∃ e, problem = .scheme e ∧
          Scheme.ofFile environment.levels.load session.disk file = .error (.reported e)) ∨
        ∃ names withScript name, action = .reload names withScript ∧ .given name ∈ names ∧
          problem = .setup (.noBlueprint name (Blueprint.candidates layout name))) := by
  -- A problem comes from the colorscheme or from the choice; taking it into use has none.
  obtain unread | ⟨scheme, between, loaded, later⟩ := Work.error_of_bind ended
  · obtain ⟨rfl, bad⟩ := Scheme.reported_of_load unread
    exact ⟨⟨rfl, rfl⟩, .inl bad⟩
  rw [Scheme.runIn_load] at loaded
  obtain ⟨_, rfl⟩ := Prod.mk.inj loaded
  obtain failed | ⟨_, adopted, adopts, later⟩ := Work.error_of_bind later
  · cases failed
  cases adopts
  have chosen := Work.reported_of_bind (fun _ => Work.neverReports_pure _) later
  obtain ⟨rfl, missing⟩ := reported_of_choose chosen
  exact ⟨⟨rfl, rfl⟩, .inr missing⟩

/-- Once its colorscheme is read and taken into use, an action has only to choose blueprints. -/
theorem runIn_gather_of_loaded {layout : Layout} (settings : Settings) (action : Action)
    {file : Path} {session : Session} {scheme : Palette}
    (loaded : Scheme.ofFile environment.levels.load session.disk file = .ok scheme) :
    (action.gather environment layout settings file).runIn session =
      (action.choose environment layout scheme >>= fun sources =>
        pure ⟨layout, settings, scheme, sources, action.withScript⟩).runIn
          { session with palette := scheme } := by
  have loads :
      (Scheme.load environment.levels.load file).runIn session = (.ok scheme, session) := by
    rw [Scheme.runIn_load, loaded]
    rfl
  rw [Action.gather, Work.runIn_bind_of_ok loads]
  rfl

/-- What is gathered has the colorscheme of the file. -/
theorem ofFile_of_gather {layout : Layout} {settings : Settings} {action : Action} {file : Path}
    {session after : Session} {batch : Batch}
    (ended : (action.gather environment layout settings file).runIn session = (.ok batch, after)) :
    batch.layout = layout ∧ batch.settings = settings ∧
      batch.withScript = action.withScript ∧
      Scheme.ofFile environment.levels.load session.disk file = .ok batch.scheme := by
  obtain ⟨scheme, between, loaded, later⟩ := Work.ok_of_bind ended
  obtain ⟨_, adopted, _, later⟩ := Work.ok_of_bind later
  obtain ⟨sources, chosen, _, done⟩ := Work.ok_of_bind later
  cases done
  refine ⟨rfl, rfl, rfl, ?_⟩
  -- Only the scheme is more than what the batch was put together from.
  rw [Scheme.runIn_load] at loaded
  cases read : Scheme.ofFile environment.levels.load session.disk file with
  | error failure =>
    rw [read] at loaded
    cases loaded
  | ok palette =>
    rw [read] at loaded
    cases loaded
    rfl

/-- What is reported once the batch is gathered is the failure of the script, after the batch. -/
theorem reported_of_finish {environment : Environment} {batch : Batch} {session after : Session}
    {problem : Problem}
    (ended : (batch.finish environment).runIn session = (.error (.reported problem), after)) :
    ∃ outputs built script e,
      (Blueprint.buildAll batch.defaults batch.sources).runIn session = (.ok outputs, built) ∧
      batch.settings.script? batch.layout = .ok script ∧ problem = .script e ∧
      (Script.runAfter environment script).runIn built =
        (.error (.reported (.script e)), after) := by
  -- Building reports nothing, so the problem comes from what is done after it.
  obtain failed | ⟨outputs, built, ran, later⟩ := Work.error_of_bind ended
  · exact absurd failed (Blueprint.neverReports_buildAll _ _ session problem after)
  split at later
  · -- To look up the script reports nothing either.
    obtain failed | ⟨script, between, named, last⟩ := Work.error_of_bind later
    · rw [scriptOf, Work.runIn_ofExcept] at failed
      cases setting : batch.settings.script? batch.layout <;> rw [setting] at failed <;>
        cases failed
    · rw [scriptOf, Work.runIn_ofExcept] at named
      cases setting : batch.settings.script? batch.layout with
      | error e =>
        rw [setting] at named
        cases named
      | ok path =>
        rw [setting] at named
        cases named
        obtain ⟨_, e, _, rfl, _⟩ := Script.reported_of_runAfter last
        exact ⟨outputs, built, script, e, ran, rfl, rfl, last⟩
  · cases later

/--
A run that failed in its script, with all before that done.

The colorscheme was loaded, and every blueprint of the batch was attempted.
-/
inductive FailedInScript (environment : Environment) (disk : Disk) (request : Request)
    (after : Session) (e : ScriptError) : Prop
  | intro {batch : Batch} {file : Path} {outputs : List Path} {made begun built : Session}
      {script : Option Path}
      (prepared : (request.prepare environment).runIn (.start disk) =
        (.ok (batch.layout, batch.settings), made))
      (builds : request.action.schemeFile? batch.layout = some file)
      (loaded : Scheme.ofFile environment.levels.load made.disk file = .ok batch.scheme)
      (gathered : (request.action.gather environment batch.layout batch.settings file).runIn made =
        (.ok batch, begun))
      (ran : (Blueprint.buildAll batch.defaults batch.sources).runIn begun =
        (.ok outputs, built))
      (attempted : ∀ source ∈ batch.sources, built.HasAttempted source)
      (named : batch.settings.script? batch.layout = .ok script)
      (failed : (Script.runAfter environment script).runIn built =
        (.error (.reported (.script e)), after)) :
      FailedInScript environment disk request after e

/-- A problem is found before anything but directories was made, or it is the script's. -/
theorem foundEarly_or_of_script {environment : Environment} {disk : Disk} {request : Request}
    {after : Session} {problem : Problem}
    (ended : (request.run environment).runIn (.start disk) =
      (.error (.reported problem), after)) :
    (FoundEarly environment disk request problem ∧
        after.disk = preparedDisk environment disk ∧ after.notices = []) ∨
      ∃ e, problem = .script e ∧ FailedInScript environment disk request after e := by
  rw [run_eq] at ended
  -- The stages are gone through in their order, up to the one that has reported.
  obtain ⟨outcome, prepares, ready⟩ := runIn_prepare environment request disk
  obtain unprepared | ⟨⟨layout, settings⟩, made, prepared, performed⟩ := Work.error_of_bind ended
  · have found := foundEarly_of_prepare unprepared
    rw [prepares] at unprepared
    cases unprepared
    exact .inl ⟨found, rfl, rfl⟩
  obtain rfl : Session.start (preparedDisk environment disk) = made :=
    congrArg Prod.snd (prepares.symm.trans prepared)
  obtain ⟨layoutIs, _⟩ := ready layout settings (congrArg Prod.fst (prepares.symm.trans prepared))
  cases builds : request.action.schemeFile? layout with
  | none =>
    -- Only a table of the colorschemes is made without one, and then nothing is changed.
    left
    cases actionIs : request.action with
    | load scheme => simp [actionIs, Action.schemeFile?] at builds
    | reload names withScript => simp [actionIs, Action.schemeFile?] at builds
    | list dark light order =>
      rw [actionIs] at performed
      have collected := Work.reported_of_bind (fun listings => ?_) performed
      · obtain ⟨rfl, e, rfl⟩ := Listing.reported_of_collect collected
        exact ⟨.schemes layoutIs, rfl, rfl⟩
      · -- An order that nobody named cuts the run short.
        cases order <;> intro session problem after failed <;> cases failed
  | some file =>
    -- Gathering may report what is wrong early on, and finishing what the script has done.
    dsimp only at performed
    rw [perform_eq environment settings builds] at performed
    obtain ungathered | ⟨batch, begun, gathered, finished⟩ := Work.error_of_bind performed
    · obtain ⟨same, ⟨e, rfl, bad⟩ | ⟨names, withScript, name, actionIs, among, rfl⟩⟩ :=
        reported_of_gather ungathered
      · exact .inl ⟨.scheme layoutIs builds bad, same⟩
      · exact .inl ⟨.name layoutIs actionIs among, same⟩
    obtain ⟨rfl, rfl, _, loaded⟩ := ofFile_of_gather gathered
    have finished := Work.reported_of_bind (fun _ => Work.neverReports_pure _) finished
    obtain ⟨outputs, built, script, e, ran, named, rfl, failed⟩ := reported_of_finish finished
    exact .inr ⟨e, rfl, .intro prepared builds loaded gathered ran
      (Blueprint.attempted_of_buildAll ran) named failed⟩

/-- A problem is reported before anything but directories was made, or it is the script's. -/
theorem reported_of_run {environment : Environment} {disk : Disk} {request : Request}
    {after : Session} {problem : Problem}
    (ended : (request.run environment).runIn (.start disk) =
      (.error (.reported problem), after)) :
    after.disk = preparedDisk environment disk ∧ after.notices = [] ∨
      ∃ e, problem = .script e ∧ FailedInScript environment disk request after e :=
  (foundEarly_or_of_script ended).imp_left And.right

/--
What keeps a request from being carried out.

The settings or the colorscheme cannot be had, or a blueprint that is named is nowhere.
-/
inductive Blocked (environment : Environment) (disk : Disk) (request : Request) : Prop
  | settings {layout : Layout} {failure : Failure Problem}
      (layoutIs : Layout.ofEnvironment environment.bindings = .ok layout)
      (bad : request.settings environment layout (preparedDisk environment disk) = .error failure)
  | scheme {layout : Layout} {file : Path} {failure : Failure SchemeError}
      (layoutIs : Layout.ofEnvironment environment.bindings = .ok layout)
      (builds : request.action.schemeFile? layout = some file)
      (bad : Scheme.ofFile environment.levels.load (preparedDisk environment disk) file =
        .error failure)
  | name {layout : Layout} {names : List Value} {withScript : Bool} {name : String}
      (layoutIs : Layout.ofEnvironment environment.bindings = .ok layout)
      (reloads : request.action = .reload names withScript)
      (among : .given name ∈ names)
      (nowhere : ∀ candidate ∈ Blueprint.candidates layout name,
        (preparedDisk environment disk).isThere candidate = .ok false)

/-- Blueprints are not found if one of them is nowhere. -/
theorem findEach_fails {layout : Layout} {names : List Value} {name : String} {session : Session}
    (among : .given name ∈ names)
    (nowhere : ∀ candidate ∈ Blueprint.candidates layout name,
      session.disk.isThere candidate = .ok false) :
    ∃ failure, (findEach layout names).runIn session = (.error failure, session) := by
  have fails : (Blueprint.find layout name).runIn session =
      (.error (.reported (.setup (.noBlueprint name (Blueprint.candidates layout name)))),
        session) :=
    Prod.ext (Blueprint.find_eq_reported_iff.mpr ⟨rfl, nowhere⟩)
      (Blueprint.observes_find layout name session)
  -- Whatever is searched for before, it leaves the session alone.
  induction names with
  | nil => cases among
  | cons first rest ih =>
    rw [findEach]
    cases first with
    | nothing => exact ⟨_, rfl⟩
    | given text =>
      rw [Value.need, Work.runIn_bind_of_ok (Work.runIn_ofExcept _ _)]
      obtain same | later := List.mem_cons.mp among
      · cases same
        exact ⟨_, Work.runIn_bind_of_error fails _⟩
      · have alone := Blueprint.observes_find layout text session
        cases found : (Blueprint.find layout text).runIn session with
        | mk outcome between =>
          rw [found] at alone
          obtain rfl : between = session := alone
          cases outcome with
          | error failure => exact ⟨failure, Work.runIn_bind_of_error found _⟩
          | ok path =>
            obtain ⟨failure, failed⟩ := ih later
            rw [Work.runIn_bind_of_ok found]
            exact ⟨failure, Work.runIn_bind_of_error failed _⟩

/-- Nothing is gathered without a colorscheme, or without a blueprint that is named. -/
theorem gather_fails {layout : Layout} (settings : Settings) {action : Action} {file : Path}
    {session : Session}
    (lacks : (∃ failure, Scheme.ofFile environment.levels.load session.disk file = .error failure) ∨
      ∃ names withScript name, action = .reload names withScript ∧ .given name ∈ names ∧
        ∀ candidate ∈ Blueprint.candidates layout name,
          session.disk.isThere candidate = .ok false) :
    ∃ failure after,
      (action.gather environment layout settings file).runIn session = (.error failure, after) ∧
        after.disk = session.disk ∧ after.notices = session.notices := by
  have loads := Scheme.runIn_load environment.levels.load file session
  -- If the colorscheme can be read after all, it is a name that is lacking.
  cases read : Scheme.ofFile environment.levels.load session.disk file with
  | error failure =>
    rw [read] at loads
    exact ⟨_, session, Work.runIn_bind_of_error loads _, rfl, rfl⟩
  | ok palette =>
    rw [read] at loads
    obtain ⟨failure, bad⟩ | ⟨names, withScript, name, rfl, among, nowhere⟩ := lacks
    · cases bad.symm.trans read
    -- With the palette taken into use, the search goes on in the same tree.
    let adopted : Session := { session with palette }
    have filled : names.isEmpty = false := by
      cases names with
      | nil => cases among
      | cons first rest => rfl
    obtain ⟨failure, failed⟩ : ∃ failure, (findEach layout names).runIn adopted =
        (.error failure, adopted) := findEach_fails among nowhere
    have chooses : ((Action.reload names withScript).choose environment layout palette).runIn
        adopted = (.error failure, adopted) := by
      simp only [Action.choose, filled, Bool.false_eq_true, if_false, failed]
    refine ⟨failure, adopted, ?_, rfl, rfl⟩
    rw [runIn_gather_of_loaded settings _ read]
    exact Work.runIn_bind_of_error chooses _

/-- A request that is blocked fails, and nothing but directories was made by then. -/
theorem run_of_blocked {environment : Environment} {disk : Disk} {request : Request}
    (blocked : Blocked environment disk request) :
    ∃ failure after, (request.run environment).runIn (.start disk) = (.error failure, after) ∧
      after.disk = preparedDisk environment disk ∧ after.notices = [] := by
  rw [run_eq]
  -- Preparing makes the directories, and may fail at once; the session it leaves is fresh.
  obtain ⟨outcome, prepares, settingsAre⟩ := runIn_prepare environment request disk
  cases outcome with
  | error failure =>
    exact ⟨failure, _, Work.runIn_bind_of_error prepares _, rfl, rfl⟩
  | ok found =>
    obtain ⟨layout, settings⟩ := found
    obtain ⟨layoutFound, read⟩ := settingsAre layout settings rfl
    -- Without settings, preparing would have failed, and all else that is lacking is lacking later.
    obtain ⟨file, builds, lacks⟩ : ∃ file, request.action.schemeFile? layout = some file ∧
        ((∃ failure, Scheme.ofFile environment.levels.load (preparedDisk environment disk) file =
            .error failure) ∨
          ∃ names withScript name, request.action = .reload names withScript ∧
            .given name ∈ names ∧ ∀ candidate ∈ Blueprint.candidates layout name,
              (preparedDisk environment disk).isThere candidate = .ok false) := by
      cases blocked with
      | settings layoutIs bad =>
        cases layoutIs.symm.trans layoutFound
        cases bad.symm.trans read
      | scheme layoutIs builds bad =>
        cases layoutIs.symm.trans layoutFound
        exact ⟨_, builds, .inl ⟨_, bad⟩⟩
      | name layoutIs reloads among nowhere =>
        cases layoutIs.symm.trans layoutFound
        exact ⟨_, by rw [reloads]; rfl, .inr ⟨_, _, _, reloads, among, nowhere⟩⟩
    let made : Session := .start (preparedDisk environment disk)
    obtain ⟨failure, after, failed, diskIs, told⟩ : ∃ failure after,
        (request.action.gather environment layout settings file).runIn made =
            (.error failure, after) ∧
          after.disk = made.disk ∧ after.notices = made.notices := gather_fails settings lacks
    rw [Work.runIn_bind_of_ok prepares]
    dsimp only
    rw [perform_eq environment settings builds]
    exact ⟨failure, after, Work.runIn_bind_of_error failed _, diskIs, told⟩

end Command

/-- What a request leaves is the disk of its run, and its status tells how that ended. -/
theorem Command.outcome_eq (environment : Environment) (disk : Disk)
    (request : Command.Request) :
    let (result, after) := (request.run environment).runIn (.start disk)
    let left := request.outcome environment disk
    left.disk = after.disk ∧
      (left.ending = .status 1 → ∃ problem, result = .error (.reported problem)) ∧
      (∀ failure, result = .error failure → left.ending ≠ .status 0) := by
  have started : (request.run environment).run.run ⟨disk, ⟨[]⟩, []⟩ =
      (request.run environment).runIn (.start disk) := rfl
  unfold Command.Request.outcome
  rw [started]
  -- Three ways to end: well, with a problem reported as status one, or cut short.
  cases (request.run environment).runIn (.start disk) with
  | mk result after =>
    cases result with
    | ok lines => exact ⟨rfl, fun ended => by simp at ended, fun _ ended => by cases ended⟩
    | error failure =>
      cases failure with
      | reported problem => exact ⟨rfl, fun _ => ⟨problem, rfl⟩, fun _ _ => by simp⟩
      | cutShort cause => exact ⟨rfl, fun ended => by simp at ended, fun _ _ => by simp⟩

/--
A run that ends with status one has changed nothing, or it is its script that failed.

In the first case, only the directories that every run makes may be new, and nothing was told,
so that no script was launched.
In the second, the colorscheme was loaded and all blueprints of the batch were attempted before.
Settings or a colorscheme that cannot be had, or one name of a blueprint that is nowhere,
keep a run from anything but making these directories.
-/
theorem problem_before_files_or_of_script (environment : Environment)
    (arguments : List String) (disk : Disk) (request : Command.Request)
    (asked : Command.Request.read arguments = .ok request) :
    let left := Command.run environment arguments disk
    let prepared := Command.preparedDisk environment disk
    let after := ((request.run environment).runIn (.start disk)).2
    left.disk = after.disk ∧ Disk.OnlyDirectoriesNew disk prepared ∧
    (left.ending = .status 1 →
      left.disk = prepared ∧ ¬ after.HasLaunched ∨
        ∃ e, ((request.run environment).runIn (.start disk)).1 =
            .error (.reported (.script e)) ∧
          Command.FailedInScript environment disk request after e) ∧
    (Command.Blocked environment disk request →
      left.ending ≠ .status 0 ∧ left.disk = prepared ∧ ¬ after.HasLaunched) := by
  intro left prepared after
  have leftIs : left = request.outcome environment disk := by
    simp only [left, Command.run, asked]
  have quiet (told : after.notices = []) : ¬ after.HasLaunched := by
    rintro ⟨script, among⟩
    rw [told] at among
    cases among
  obtain ⟨diskIs, reports, fails⟩ := Command.outcome_eq environment disk request
  rw [← leftIs] at diskIs reports fails
  refine ⟨diskIs, Command.onlyDirectoriesNew_preparedDisk environment disk, ?_, ?_⟩
  · intro ended
    obtain ⟨problem, result⟩ := reports ended
    obtain ⟨same, told⟩ | ⟨e, rfl, failed⟩ := Command.reported_of_run (Prod.ext result rfl)
    · exact .inl ⟨diskIs.trans same, quiet told⟩
    · exact .inr ⟨e, result, failed⟩
  · intro blocked
    obtain ⟨failure, later, ran, same, told⟩ := Command.run_of_blocked blocked
    have laterIs : after = later := congrArg Prod.snd ran
    refine ⟨fails failure (congrArg Prod.fst ran), ?_, quiet (by rw [laterIs, told])⟩
    rw [diskIs]
    change after.disk = prepared
    rw [laterIs, same]

/-- One blueprint is there and the other is not, so the output and the colorscheme stay. -/
theorem problem_before_files_or_of_script_name :
    let cache : Location := ["home", ".cache", "chromasync"]
    let disk : Disk := ⟨["home"], [(["home"], .directory), (["home", ".cache"], .directory),
      (cache, .directory), (cache ++ ["current.json"], .file (Text.Utf8.encode
        (Json.writeObject (Scheme.names.map fun name => (name, "#a1b2c3")))) false),
      (cache ++ ["blueprints"], .directory), (cache ++ ["blueprints", "ink"], .file [] false),
      (cache ++ ["out"], .directory), (cache ++ ["out", "ink"], .file [0x23] false)]⟩
    let environment : Environment := .atHand [("HOME", "/home")]
    let arguments := ["reload", "-b", "ink", "-b", "none"]
    let request : Command.Request := ⟨.usual, none, .reload [.given "ink", .given "none"] true⟩
    let left := Command.run environment arguments disk
    Command.Request.read arguments = .ok request ∧
      Command.Blocked environment disk request ∧ left.ending ≠ .status 0 ∧
      left.disk.entry? (cache ++ ["current.json"]) =
        disk.entry? (cache ++ ["current.json"]) ∧
      left.disk.entry? (cache ++ ["out", "ink"]) = disk.entry? (cache ++ ["out", "ink"]) := by
  intro cache disk environment arguments request left
  have asked : Command.Request.read arguments = .ok request := by decide +kernel
  let layout : Layout := ⟨Path.ofString "/home", Path.ofString "/home/.config/chromasync",
    Path.ofString "/home/.cache/chromasync"⟩
  have blocked : Command.Blocked environment disk request := by
    have layoutIs : Layout.ofEnvironment environment.bindings = .ok layout := by
      rw [Layout.ofEnvironment,
        (by decide : Layout.ofEnvironment? environment.bindings = some layout)]
    have nowhere : ∀ candidate ∈ Blueprint.candidates layout "none",
        ((Command.preparedDisk environment disk).isThere candidate).toOption = some false := by
      decide +kernel
    exact .name layoutIs rfl (by simp) fun candidate among =>
      ok_of_toOption (nowhere candidate among)
  have current : disk.entry? (cache ++ ["current.json"]) ≠ none := by decide
  have built : disk.entry? (cache ++ ["out", "ink"]) ≠ none := by decide
  -- the rest holds of every disk, and nothing should compute with this one
  clear_value disk
  obtain ⟨_, onlyNew, _, stopped⟩ :=
    problem_before_files_or_of_script environment arguments disk request asked
  obtain ⟨ending, diskIs, _⟩ := stopped blocked
  have kept (place : Location) (there : disk.entry? place ≠ none) :
      left.disk.entry? place = disk.entry? place := by
    rw [diskIs]
    exact (onlyNew.kept place).resolve_right fun new => there new.1
  exact ⟨asked, blocked, ending, kept _ current, kept _ built⟩

end Themer
