import Themer.Command.Run
import Themer.Proofs.Blueprint.Attempted
import Themer.Proofs.Disk.Directories

/-! A run in stages: it prepares, it gathers what is to be built, it builds, and a script runs. -/

namespace Themer

/-- A session before anything was done or told. -/
def Session.start (disk : Disk) : Session := ⟨disk, ⟨[]⟩, []⟩

/-- A script has been launched in a session, which tells so first. -/
def Session.HasLaunched (session : Session) : Prop :=
  ∃ script : Path, ⟨.debug, s!"Running {script.text}"⟩ ∈ session.notices

namespace Command

/-- What a run builds: in which places, with which settings and colors, and what comes after. -/
structure Batch where
  layout : Layout
  settings : Settings
  scheme : Palette
  sources : List Path
  withScript : Bool

/-- What the blueprints of a batch start from. -/
def Batch.defaults (batch : Batch) : Defaults := defaultsOf batch.layout batch.settings

/-- The settings that a request asks for, or else the usual ones. -/
def Request.settings (environment : Environment) (request : Request) (layout : Layout)
    (disk : Disk) : Except (Failure Problem) Settings := do
  let asked ← request.config.mapM (Value.need .settingsPath)
  Settings.load environment.reader environment.levels.tell disk (some layout)
    (asked.map Path.ofString)

/-- The first stage: the directories are made and the settings are read. -/
def Request.prepare (environment : Environment) (request : Request) :
    Work (Layout × Settings) := do
  let layout ← Work.ofExcept
    ((Layout.ofEnvironment environment.bindings).mapError fun e => .reported (.setup e))
  layout.makeDirectories environment.levels.make
  let settings ← Work.ofExcept (request.settings environment layout (← Work.disk))
  return (layout, settings)

namespace Action

/-- The file of the colorscheme that an action builds with, if it builds. -/
def schemeFile? (layout : Layout) : Action → Option Path
  | .load scheme => some (layout.schemeFile scheme)
  | .reload _ _ => some layout.currentScheme
  | .list _ _ _ => none

/-- Whether a script is to run after the blueprints. -/
def withScript : Action → Bool
  | .reload _ withScript => withScript
  | _ => true

/-- The blueprints that an action builds with a palette; a new one is saved before. -/
def choose (environment : Environment) (layout : Layout) (palette : Palette) :
    Action → Work (List Path)
  | .load scheme => do
    Work.tell .info s!"Loaded colorscheme {scheme}"
    remember environment palette layout.currentScheme
    Blueprint.discover layout.blueprintDirs
  | .reload names _ =>
    if names.isEmpty then Blueprint.discover layout.blueprintDirs else findEach layout names
  | .list _ _ _ => pure []

/-- The second stage: the colorscheme is loaded and the blueprints are found. -/
def gather (environment : Environment) (layout : Layout) (settings : Settings) (action : Action)
    (file : Path) : Work Batch := do
  let scheme ← Scheme.load environment.levels.load file
  adopt scheme
  let sources ← action.choose environment layout scheme
  return ⟨layout, settings, scheme, sources, action.withScript⟩

end Action

/-- The last stages: the blueprints are built, and then a script may run. -/
def Batch.finish (environment : Environment) (batch : Batch) : Work Unit := do
  let _ ← Blueprint.buildAll batch.defaults batch.sources
  if batch.withScript then
    Script.runAfter environment (← scriptOf batch.layout batch.settings)

/-- A request is carried out by preparing and then performing its action. -/
theorem run_eq (environment : Environment) (request : Request) :
    request.run environment = (do
      let (layout, settings) ← request.prepare environment
      perform environment layout settings request.action) := by
  -- Both say the same steps, which are only bracketed in another way.
  unfold Request.run Request.prepare Request.settings
  simp only [bind_assoc, pure_bind]
  cases Layout.ofEnvironment environment.bindings with
  | error e => rfl
  | ok layout =>
    change layout.makeDirectories environment.levels.make >>= _ =
      layout.makeDirectories environment.levels.make >>= _
    refine bind_congr fun _ => ?_
    -- Whether a file of settings is asked for does not depend on the disk.
    cases request.config.mapM (Value.need .settingsPath) <;> rfl

/-- An action that builds gathers what it builds, and then builds it. -/
theorem perform_eq (environment : Environment) {layout : Layout} (settings : Settings)
    {action : Action} {file : Path} (builds : action.schemeFile? layout = some file) :
    perform environment layout settings action = (do
      let batch ← action.gather environment layout settings file
      batch.finish environment
      return []) := by
  cases action with
  | load scheme =>
    cases builds
    simp only [perform, load, Action.gather, Action.choose, Action.withScript, Batch.finish,
      bind_assoc, pure_bind, if_true]
    rfl
  | reload names withScript =>
    cases builds
    simp only [perform, reload, Action.gather, Action.choose, Batch.finish, bind_assoc, pure_bind]
    -- Either way the blueprints are found in one piece of work, and the rest is the same.
    by_cases all : names.isEmpty = true
    · simp only [all, if_true, bind_assoc]
      rfl
    · simp only [all, if_false, bind_assoc, Bool.false_eq_true]
      rfl
  | list dark light order => cases builds

/-- The tree once the directories of a layout were made in it, as far as they could be. -/
def preparedDisk (environment : Environment) (disk : Disk) : Disk :=
  match Layout.ofEnvironment environment.bindings with
  | .error _ => disk
  | .ok layout => ((layout.makeDirectories environment.levels.make).runIn (.start disk)).2.disk

end Command

namespace Layout

/-- There is a layout exactly where the environment names a home directory. -/
theorem ofEnvironment_eq_ok_iff {environment : List (String × String)} {layout : Layout} :
    ofEnvironment environment = .ok layout ↔ ofEnvironment? environment = some layout := by
  unfold ofEnvironment
  split <;> rename_i found <;> simp [found]

/-- Making directories goes on as long as each of them can be made. -/
theorem runIn_makeEach_cons (levels : Nat) (directory : Path) (rest : List Path)
    (session : Session) :
    (makeEach levels (directory :: rest)).runIn session =
      match session.disk.ensurePath levels directory with
      | (.ok _, disk) => (makeEach levels rest).runIn { session with disk }
      | (.error (.os e), disk) =>
        (.error (.reported (.setup (.directoryNotMade directory e))), { session with disk })
      | (.error other, disk) => (.error (.cutShort (.denied other)), { session with disk }) := by
  -- However far a directory comes, the tree that it leaves is kept before its outcome counts.
  rw [makeEach, Work.runIn_bind_of_ok (Work.runIn_disk session)]
  cases session.disk.ensurePath levels directory with
  | mk made disk =>
    dsimp only
    rw [Work.runIn_bind_of_ok (Work.runIn_setDisk disk session), Work.runIn_bind,
      Work.runIn_grantedOr]
    cases made with
    | ok done => rfl
    | error denial => cases denial <;> rfl

/-- Making directories puts nothing but directories, and tells nothing. -/
theorem changed_of_makeEach (levels : Nat) (directories : List Path) (session : Session) :
    Disk.Changed Disk.DirectoryAnywhere session.disk
        ((makeEach levels directories).runIn session).2.disk ∧
      ((makeEach levels directories).runIn session).2 =
        { session with disk := ((makeEach levels directories).runIn session).2.disk } := by
  -- A directory that cannot be made ends it, with those above that were made for it.
  induction directories generalizing session with
  | nil => exact ⟨.same, rfl⟩
  | cons directory rest ih =>
    have changed := Disk.changed_of_ensurePath session.disk levels directory
    rw [runIn_makeEach_cons]
    cases ensured : session.disk.ensurePath levels directory with
    | mk made disk =>
      rw [ensured] at changed
      cases made with
      | ok done =>
        obtain ⟨later, kept⟩ := ih { session with disk }
        exact ⟨changed.trans later, kept⟩
      | error denial => cases denial <;> exact ⟨changed, rfl⟩

/--
Directories are all made, or one of them cannot be, and that is reported.

It is not reported if its path has a NUL, or if it still lies too deep then.
-/
theorem ended_of_makeEach (levels : Nat) (directories : List Path) (session : Session) :
    let ended := ((makeEach levels directories).runIn session).1
    let after := ((makeEach levels directories).runIn session).2
    ended = .ok () ∨ ∃ directory ∈ directories,
      (∃ e, ended = .error (.reported (.setup (.directoryNotMade directory e)))) ∨
        (Disk.hasNul directory = true ∧ ended = .error (.cutShort (.denied .nulByte))) ∨
        after.disk.IsTooDeep levels directory ∧
          ended = .error (.cutShort (.denied (.tooDeep ⟨.call⟩))) := by
  intro ended after
  -- The first that cannot be made ends it; the others start from the tree that it was made in.
  induction directories generalizing session with
  | nil => exact .inl rfl
  | cons directory rest ih =>
    have ran := runIn_makeEach_cons levels directory rest session
    have endedIs : ended = _ := congrArg Prod.fst ran
    have afterIs : after = _ := congrArg Prod.snd ran
    cases ensured : session.disk.ensurePath levels directory with
    | mk made disk =>
      rw [ensured] at endedIs afterIs
      cases made with
      | ok done =>
        rw [endedIs, afterIs]
        rcases ih { session with disk } with later | ⟨other, among, failed⟩
        · exact .inl later
        · exact .inr ⟨other, List.mem_cons_of_mem _ among, failed⟩
      | error denial =>
        refine .inr ⟨directory, List.mem_cons_self, ?_⟩
        -- Of a directory that lies too deep nothing was made, so it still does.
        obtain ⟨e, rfl⟩ | ⟨rfl, nul⟩ | ⟨rfl, same, deep⟩ := Disk.ensurePath_refused ensured
        · exact .inl ⟨e, endedIs⟩
        · exact .inr (.inl ⟨nul, endedIs⟩)
        · refine .inr (.inr ⟨?_, endedIs⟩)
          rw [afterIs]
          exact same.symm ▸ deep

end Layout

namespace Command

/-- Of all that preparing does, only new directories are left. -/
theorem onlyDirectoriesNew_preparedDisk (environment : Environment) (disk : Disk) :
    Disk.OnlyDirectoriesNew disk (preparedDisk environment disk) := by
  -- Without a layout nothing is made, and with one it is its directories.
  unfold preparedDisk
  split
  · exact .refl disk
  · rename_i layout _
    exact (Layout.changed_of_makeEach environment.levels.make layout.directories
      (.start disk)).1.onlyDirectoriesNew

/-- Preparing tells nothing, and ends with settings that are read once the directories are made. -/
theorem runIn_prepare (environment : Environment) (request : Request) (disk : Disk) :
    ∃ outcome, (request.prepare environment).runIn (.start disk) =
        (outcome, .start (preparedDisk environment disk)) ∧
      ∀ layout settings, outcome = .ok (layout, settings) →
        Layout.ofEnvironment environment.bindings = .ok layout ∧
          request.settings environment layout (preparedDisk environment disk) = .ok settings := by
  unfold Request.prepare preparedDisk
  cases Layout.ofEnvironment environment.bindings with
  | error e => exact ⟨_, rfl, fun _ _ ended => by cases ended⟩
  | ok layout =>
    have kept : ((layout.makeDirectories environment.levels.make).runIn (.start disk)).2 =
        .start ((layout.makeDirectories environment.levels.make).runIn (.start disk)).2.disk :=
      (Layout.changed_of_makeEach environment.levels.make layout.directories (.start disk)).2
    change ∃ outcome, (layout.makeDirectories environment.levels.make >>= fun _ =>
      Work.disk >>= fun disk =>
      Work.ofExcept (request.settings environment layout disk) >>= fun settings =>
        pure (layout, settings)).runIn (.start disk) = _ ∧ _
    rw [Work.runIn_bind]
    dsimp only
    -- Whether the directories were made or not, the session is a fresh one in the tree they left.
    cases ran : (layout.makeDirectories environment.levels.make).runIn (.start disk) with
    | mk made between =>
      rw [ran] at kept
      obtain ⟨prepared, rfl⟩ : ∃ prepared, between = .start prepared := ⟨between.disk, kept⟩
      cases made with
      | error failure => exact ⟨_, rfl, fun _ _ ended => by cases ended⟩
      | ok done =>
        dsimp only
        rw [Work.runIn_bind_of_ok (Work.runIn_disk _), Work.runIn_bind, Work.runIn_ofExcept]
        cases read : request.settings environment layout (Session.start prepared).disk with
        | error failure => exact ⟨_, rfl, fun _ _ ended => by cases ended⟩
        | ok settings =>
          refine ⟨_, rfl, fun _ _ ended => ?_⟩
          cases ended
          exact ⟨rfl, read⟩

/-- Preparing a request in directories that were made ends as the reading of its settings does. -/
theorem runIn_prepare_of_made {environment : Environment} {request : Request} {layout : Layout}
    {disk : Disk} (found : Layout.ofEnvironment environment.bindings = .ok layout)
    (made : ((layout.makeDirectories environment.levels.make).runIn (.start disk)).1 = .ok ()) :
    (request.prepare environment).runIn (.start disk) =
      ((request.settings environment layout (preparedDisk environment disk)).map (layout, ·),
        .start (preparedDisk environment disk)) := by
  have kept : ((layout.makeDirectories environment.levels.make).runIn (.start disk)).2 =
      .start ((layout.makeDirectories environment.levels.make).runIn (.start disk)).2.disk :=
    (Layout.changed_of_makeEach environment.levels.make layout.directories (.start disk)).2
  have ran : (layout.makeDirectories environment.levels.make).runIn (.start disk) =
      (.ok (), .start (preparedDisk environment disk)) := by
    unfold preparedDisk
    rw [found]
    exact Prod.ext made kept
  -- From there on the reading of the settings is all that can fail, and it changes nothing.
  unfold Request.prepare
  rw [found]
  change (layout.makeDirectories environment.levels.make >>= fun _ => Work.disk >>= fun disk =>
    Work.ofExcept (request.settings environment layout disk) >>= fun settings =>
      pure (layout, settings)).runIn (.start disk) = _
  rw [Work.runIn_bind_of_ok ran, Work.runIn_bind_of_ok (Work.runIn_disk _), Work.runIn_bind,
    Work.runIn_ofExcept]
  change _ = ((request.settings environment layout
    (Session.start (preparedDisk environment disk)).disk).map _, _)
  cases request.settings environment layout
    (Session.start (preparedDisk environment disk)).disk <;> rfl

/-- What a request leaves that fails without a notice: the error for a problem, if it is one. -/
def Request.failed (request : Request) : Failure Problem → Disk → Outcome
  | .reported problem, disk =>
    ⟨.status 1, "", Usage.lines (([⟨.error, problem.message⟩].filter
      request.loudness.shows).map noticeLine), disk⟩
  | .cutShort cause, disk => ⟨.cutShort cause, "", "", disk⟩

/-- A run that fails before it has told anything leaves nothing but this failure. -/
theorem outcome_of_run_error {environment : Environment} {request : Request} {disk : Disk}
    {failure : Failure Problem} {after : Session}
    (ran : (request.run environment).runIn (.start disk) = (.error failure, after))
    (quiet : after.notices = []) :
    request.outcome environment disk = request.failed failure after.disk := by
  -- Nothing comes before the line of the failure, and no list was asked for.
  have ran : (request.run environment).run.run ⟨disk, ⟨[]⟩, []⟩ = (.error failure, after) := ran
  rw [Request.outcome, ran]
  cases failure <;> simp only [quiet, List.nil_append] <;> rfl

end Command

end Themer
