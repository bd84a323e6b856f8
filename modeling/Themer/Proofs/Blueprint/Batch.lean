import Themer.Proofs.Blueprint.AllOrNothing
import Themer.Proofs.Blueprint.ChangedTree

/-! Blueprints built in a batch: each comes to what it comes to on its own. -/

namespace Themer

/-- The errors that a session has told of, the oldest first. -/
def Session.errors (session : Session) : List Notice :=
  session.notices.filter (·.severity = .error)

/-- A rendering may warn, but what it fails with is not told by itself. -/
theorem Defaults.notices_renderFile (defaults : Defaults) (disk : Disk) (palette : Palette)
    (source : Path) :
    ∃ warnings : List Warning, (defaults.renderFile disk palette source).notices =
      ⟨.debug, s!"Rendering blueprint {source.text}"⟩ ::
        warnings.map (Warning.notice source.text) := by
  -- Whatever the bytes of the file are, the notices on the way are warnings of the lines.
  have ofBytes (bytes : Text.Bytes) : ∃ warnings : List Warning,
      (defaults.renderBytes disk palette source bytes).notices =
        warnings.map (Warning.notice source.text) := by
    unfold renderBytes
    split
    · exact ⟨_, rfl⟩
    · dsimp only
      split <;> exact ⟨_, rfl⟩
  unfold renderFile
  dsimp only
  cases disk.readFile source with
  | ok bytes =>
    obtain ⟨warnings, told⟩ := ofBytes bytes
    exact ⟨warnings, congrArg _ told⟩
  | error denial => cases denial <;> exact ⟨[], rfl⟩

/-- Rendering tells of no error. -/
theorem Session.errors_withRendering (session : Session) (defaults : Defaults) (disk : Disk)
    (palette : Palette) (source : Path) :
    (session.withRendering (defaults.renderFile disk palette source)).errors =
      session.errors := by
  obtain ⟨warnings, told⟩ := defaults.notices_renderFile disk palette source
  have quiet : (warnings.map (Warning.notice source.text)).filter (·.severity = .error) = [] := by
    simp [List.filter_eq_nil_iff, Warning.notice]
  simp [errors, withRendering, told, quiet]

namespace Blueprint

/-- The path of what building a blueprint in a session gives, if it gives anything. -/
def output? (defaults : Defaults) (session : Session) (source : Path) : Option Path :=
  ((build defaults source).runIn session).1.toOption

/-- The last of some blueprints whose output, built on its own, is at a place. -/
def lastInto? (defaults : Defaults) (session : Session) (sources : List Path)
    (place : Location) : Option Path :=
  (sources.filter fun source =>
    (output? defaults session source).bind session.disk.place? = some place).getLast?

/-- Each of some blueprints is blamed in an error of its own, in their order. -/
def BlamedFor (sources : List Path) (errors : List Notice) : Prop :=
  List.Forall₂ (fun source notice => ∃ fault,
    notice = ⟨.error, BlueprintError.message ⟨source, fault⟩⟩) sources errors

/-- What a session has a blueprint rendered to, if that can be written as well. -/
def product? (defaults : Defaults) (session : Session) (source : Path) : Option Rendered :=
  (defaults.renderFile session.disk session.palette source).outcome.toOption.filter
    fun rendered =>
      (session.disk.writeFile rendered.output (Text.Utf8.encode rendered.text)).isOk

/--
What is at a place after some blueprints were built in a row.

It is the whole text of the last one that goes there, as this is rendered on its own,
or what was there before.
-/
def SettledAt (defaults : Defaults) (begun : Session) (sources : List Path)
    (earlier after : Disk) (place : Location) : Prop :=
  match lastInto? defaults begun sources place with
  | none => after.entry? place = earlier.entry? place
  | some source => ∃ rendered,
      (defaults.renderFile begun.disk begun.palette source).outcome = .ok rendered ∧
        after.entry? place =
          some (begun.disk.entryWith place (Text.Utf8.encode rendered.text))

variable {defaults : Defaults} {session : Session} {source : Path}

/-- A blueprint has a product where it is rendered and the system grants the write. -/
theorem product?_eq_some_iff {rendered : Rendered} :
    product? defaults session source = some rendered ↔
      (defaults.renderFile session.disk session.palette source).outcome = .ok rendered ∧
        ∃ after, session.disk.writeFile rendered.output (Text.Utf8.encode rendered.text) =
          .ok after := by
  unfold product?
  rw [Option.filter_eq_some_iff]
  refine and_congr ?_ isOk_iff
  cases (defaults.renderFile session.disk session.palette source).outcome <;>
    simp [Except.toOption]

/-- The output of a rendered blueprint has no NUL in its path. -/
theorem hasNul_output {rendered : Rendered} (free : Disk.hasNul source = false)
    (usual : Disk.hasNul defaults.directory = false)
    (ended : (defaults.renderFile session.disk session.palette source).outcome =
      .ok rendered) : Disk.hasNul rendered.output = false := by
  obtain ⟨bytes, text, _, _, whole⟩ := Defaults.whole_of_renderFile ended
  obtain ⟨sourceIs, _, freeDirectory⟩ := Defaults.directory_of_renderText whole
  refine Disk.hasNul_child (freeDirectory usual) ?_
  -- The name is one in the path of the source, or there is none.
  rw [sourceIs, Path.name]
  cases last : source.parts.getLast? with
  | none => decide
  | some name =>
    have clean := Disk.not_contains_of_hasNul free (List.mem_of_getLast? last)
    simpa using clean

/-- A blueprint with a product is built: the product is written, and no error is told. -/
theorem runIn_build_of_product {rendered : Rendered}
    (made : product? defaults session source = some rendered) :
    ∃ after, (build defaults source).runIn session = (.ok rendered.output, after) ∧
      session.disk.writeFile rendered.output (Text.Utf8.encode rendered.text) =
        .ok after.disk ∧
      after.palette = (defaults.renderFile session.disk session.palette source).palette ∧
      after.errors = session.errors := by
  obtain ⟨ended, disk, written⟩ := product?_eq_some_iff.mp made
  have quiet := session.errors_withRendering defaults session.disk session.palette source
  rw [runIn_build_of_ok ended, written]
  refine ⟨_, rfl, rfl, rfl, ?_⟩
  rw [← quiet]
  simp [Session.errors]

/-- A blueprint without a product is blamed, and the disk is left alone. -/
theorem runIn_build_of_no_product (free : Disk.hasNul source = false)
    (usual : Disk.hasNul defaults.directory = false)
    (unmade : product? defaults session source = none) :
    ∃ fault, (build defaults source).runIn session =
      (.error (.reported (.blueprint ⟨source, fault⟩)),
        session.withRendering
          (defaults.renderFile session.disk session.palette source)) := by
  cases ended : (defaults.renderFile session.disk session.palette source).outcome with
  | error failure =>
    obtain ⟨fault, rfl⟩ := Defaults.error_of_renderFile free ended
    exact ⟨fault, runIn_build_of_error ended⟩
  | ok rendered =>
    obtain ⟨_, _, _, _, whole⟩ := Defaults.whole_of_renderFile ended
    obtain ⟨sourceIs, _, _⟩ := Defaults.directory_of_renderText whole
    rw [runIn_build_of_ok ended]
    cases written : session.disk.writeFile rendered.output (Text.Utf8.encode rendered.text) with
    | ok disk =>
      -- With the write granted there would be a product.
      cases unmade.symm.trans (product?_eq_some_iff.mpr ⟨ended, disk, written⟩)
    | error denial =>
      obtain ⟨e, rfl⟩ := Disk.writeFile_refused (hasNul_output free usual ended) written
      exact ⟨.unwritable rendered.output e, by rw [sourceIs]⟩

/-- The output of a blueprint is that of its product. -/
theorem output?_eq (free : Disk.hasNul source = false)
    (usual : Disk.hasNul defaults.directory = false) :
    output? defaults session source =
      (product? defaults session source).map Rendered.output := by
  unfold output?
  -- The two ways to end are the two lemmas on building.
  cases made : product? defaults session source with
  | some rendered =>
    obtain ⟨after, built, _⟩ := runIn_build_of_product made
    rw [built]
    rfl
  | none =>
    obtain ⟨fault, failed⟩ := runIn_build_of_no_product free usual made
    rw [failed]
    rfl

/-- The last of one blueprint is this one, if its output is at the place. -/
theorem lastInto?_singleton (place : Location) :
    lastInto? defaults session [source] place =
      if (output? defaults session source).bind session.disk.place? = some place
        then some source else none := by
  unfold lastInto?
  rw [List.filter_singleton]
  by_cases into : (output? defaults session source).bind session.disk.place? = some place <;>
    simp [into]

/-- The last of more blueprints is the last of those that come later, or else of the others. -/
theorem lastInto?_append (earlier later : List Path) (place : Location) :
    lastInto? defaults session (earlier ++ later) place =
      (lastInto? defaults session later place).or
        (lastInto? defaults session earlier place) := by
  unfold lastInto?
  rw [← List.getLast?_append, ← List.filter_append]

/-- A place is settled by more blueprints if it is by the first and then by the others. -/
theorem SettledAt.cons {rest : List Path} {earlier between after : Disk} {place : Location}
    (first : SettledAt defaults session [source] earlier between place)
    (later : SettledAt defaults session rest between after place) :
    SettledAt defaults session (source :: rest) earlier after place := by
  -- The last of all is the last of the others, or else the first.
  have last : lastInto? defaults session (source :: rest) place =
      (lastInto? defaults session rest place).or (lastInto? defaults session [source] place) :=
    lastInto?_append [source] rest place
  unfold SettledAt at first later ⊢
  rw [last]
  cases fromRest : lastInto? defaults session rest place with
  | some other =>
    rw [fromRest] at later
    exact later
  | none =>
    rw [fromRest] at later
    dsimp only at later
    rw [Option.none_or, later]
    exact first

/-- A blueprint by itself settles the place of its product, and leaves all others alone. -/
theorem settledAt_of_product {rendered : Rendered} {earlier after : Disk} {place : Location}
    (made : product? defaults session source = some rendered)
    (output : output? defaults session source = some rendered.output)
    (leads : session.disk.place? rendered.output = some place)
    (holds : after.entry? place =
      some (session.disk.entryWith place (Text.Utf8.encode rendered.text)))
    (others : ∀ other, other ≠ place → after.entry? other = earlier.entry? other)
    (here : Location) : SettledAt defaults session [source] earlier after here := by
  rw [SettledAt, lastInto?_singleton, output, Option.bind_some, leads]
  by_cases same : here = place
  · subst same
    rw [if_pos rfl]
    exact ⟨rendered, (product?_eq_some_iff.mp made).1, holds⟩
  · rw [if_neg fun other => same (Option.some.inj other).symm]
    exact others here same

/-- A blueprint by itself that comes to nothing goes nowhere, and no place has to change. -/
theorem settledAt_of_no_product (disk : Disk) (output : output? defaults session source = none)
    (here : Location) : SettledAt defaults session [source] disk disk here := by
  rw [SettledAt, lastInto?_singleton, output, Option.bind_none, if_neg (by simp)]

/-- The step of a batch: one blueprint is built, and a problem with it is told. -/
def attempt (defaults : Defaults) (source : Path) : Work (Option Path) :=
  tryCatch (some <$> build defaults source) fun
    | .reported (.blueprint e) => do
      Work.tell .error e.message
      return none
    | other => throw other

/-- A batch attempts its first blueprint and goes on with the others. -/
theorem buildEach_cons (rest : List Path) :
    buildEach defaults (source :: rest) = (do
      let built ← attempt defaults source
      let (written, failed) ← buildEach defaults rest
      return match built with
        | some output => (output :: written, failed)
        | none => (written, failed + 1)) := rfl

/-- An attempt at a blueprint with a product builds it. -/
theorem runIn_attempt_of_product {rendered : Rendered}
    (made : product? defaults session source = some rendered) :
    ∃ after, (attempt defaults source).runIn session = (.ok (some rendered.output), after) ∧
      session.disk.writeFile rendered.output (Text.Utf8.encode rendered.text) =
        .ok after.disk ∧
      after.palette = (defaults.renderFile session.disk session.palette source).palette ∧
      after.errors = session.errors := by
  obtain ⟨after, built, effects⟩ := runIn_build_of_product made
  refine ⟨after, ?_, effects⟩
  rw [attempt, Work.runIn_tryCatch, Work.runIn_map, built]
  rfl

/-- An attempt at a blueprint without a product tells of one error and changes no file. -/
theorem runIn_attempt_of_no_product (free : Disk.hasNul source = false)
    (usual : Disk.hasNul defaults.directory = false)
    (unmade : product? defaults session source = none) :
    ∃ after fault, (attempt defaults source).runIn session = (.ok none, after) ∧
      after.disk = session.disk ∧
      after.palette = (defaults.renderFile session.disk session.palette source).palette ∧
      after.errors =
        session.errors ++ [⟨.error, BlueprintError.message ⟨source, fault⟩⟩] := by
  obtain ⟨fault, failed⟩ := runIn_build_of_no_product free usual unmade
  have quiet := session.errors_withRendering defaults session.disk session.palette source
  let between :=
    session.withRendering (defaults.renderFile session.disk session.palette source)
  have blamed : (attempt defaults source).runIn session =
      (.ok none, { between with notices := between.notices ++
        [⟨.error, BlueprintError.message ⟨source, fault⟩⟩] }) := by
    rw [attempt, Work.runIn_tryCatch, Work.runIn_map, failed]
    rfl
  refine ⟨_, fault, blamed, rfl, rfl, ?_⟩
  rw [← quiet]
  simp [Session.errors, between]

end Blueprint

/--
A later session that blueprints come to the same in as in an earlier one.

Files were put where they may be, and mixes were asked for.
-/
structure Session.Follows (may : Location → Entry → Prop) (begun later : Session) : Prop where
  disk : Disk.Changed may begun.disk later.disk
  palette : later.palette.Agrees begun.palette

namespace Session.Follows

variable {defaults : Defaults} {source : Path} {may : Location → Entry → Prop}
  {begun later : Session} (follows : begun.Follows may later)
include follows

/-- The palette after a rendering still agrees with the first one. -/
theorem palette_renderFile :
    (defaults.renderFile later.disk later.palette source).palette.Agrees begun.palette :=
  ((Palette.bisimulation_agrees begun.palette).renderFile ⟨follows.palette, follows.palette⟩
    defaults later.disk source).2.1

variable (files : Disk.FilesOnly may) (tree : begun.disk.IsTree)
  (kept : begun.disk.Keeps may source)
include files tree kept

/-- A blueprint whose file was kept has the product it had. -/
theorem product?_eq :
    Blueprint.product? defaults later source = Blueprint.product? defaults begun source := by
  -- The palettes answer alike, and the tree differs only in files that are not asked for.
  have outcome : (defaults.renderFile later.disk later.palette source).outcome.toOption =
      (defaults.renderFile begun.disk begun.palette source).outcome.toOption := by
    have alike := (Palette.bisimulation_agrees begun.palette).renderFile
      ⟨follows.palette, .refl _⟩ defaults later.disk source
    rw [alike.1.outcome]
    exact defaults.renderFile_of_changed follows.disk files tree begun.palette
      fun place leads => follows.disk.kept (kept place leads)
  -- Whether a write is granted depends on directories alone, and these are the same.
  have granted (rendered : Rendered) :
      (later.disk.writeFile rendered.output (Text.Utf8.encode rendered.text)).isOk =
        (begun.disk.writeFile rendered.output (Text.Utf8.encode rendered.text)).isOk := by
    rw [Bool.eq_iff_iff, isOk_iff, isOk_iff, Disk.exists_writeFile_iff,
      Disk.exists_writeFile_iff, follows.disk.place?_eq files tree]
    simp only [ne_eq, follows.disk.directory_iff files]
  unfold Blueprint.product?
  rw [outcome]
  simp only [granted]

/--
An attempt at a blueprint writes the product that this had at first.

It goes to the place that its path led to at first, and is what it would have been there.
-/
theorem attempt_of_product {rendered : Rendered}
    (made : Blueprint.product? defaults begun source = some rendered)
    (allowed : begun.disk.Takes may rendered.output (Text.Utf8.encode rendered.text)) :
    ∃ after place, begun.Follows may after ∧
      (Blueprint.attempt defaults source).runIn later = (.ok (some rendered.output), after) ∧
      after.errors = later.errors ∧ begun.disk.place? rendered.output = some place ∧
      after.disk.entry? place =
        some (begun.disk.entryWith place (Text.Utf8.encode rendered.text)) ∧
      ∀ other, other ≠ place → after.disk.entry? other = later.disk.entry? other := by
  have still := (follows.product?_eq files tree kept).trans made
  obtain ⟨after, built, written, paletteIs, quiet⟩ := Blueprint.runIn_attempt_of_product still
  obtain ⟨place, leads, changed, holds⟩ := Disk.changed_of_writeFile written
  rw [follows.disk.place?_eq files tree] at leads
  refine ⟨after, place, ⟨?_, ?_⟩, built, quiet, leads, ?_, ?_⟩
  · -- The one file put anew is put where it may be.
    refine follows.disk.trans (changed.mono ?_)
    rintro _ _ ⟨rfl, executable, rfl⟩
    exact allowed _ leads executable
  · rw [paletteIs]
    exact follows.palette_renderFile
  · rw [holds, follows.disk.entryWith]
  · intro other elsewhere
    exact changed.kept fun entry => fun ⟨here, _⟩ => elsewhere here

/-- An attempt at a blueprint that had no product tells of one error and changes no file. -/
theorem attempt_of_no_product (free : Disk.hasNul source = false)
    (usual : Disk.hasNul defaults.directory = false)
    (unmade : Blueprint.product? defaults begun source = none) :
    ∃ after fault, begun.Follows may after ∧
      (Blueprint.attempt defaults source).runIn later = (.ok none, after) ∧
      after.disk = later.disk ∧
      after.errors =
        later.errors ++ [⟨.error, BlueprintError.message ⟨source, fault⟩⟩] := by
  have still := (follows.product?_eq files tree kept).trans unmade
  obtain ⟨after, fault, blamed, diskIs, paletteIs, told⟩ :=
    Blueprint.runIn_attempt_of_no_product free usual still
  refine ⟨after, fault, ⟨?_, ?_⟩, blamed, diskIs, told⟩
  · rw [diskIs]
    exact follows.disk
  · rw [paletteIs]
    exact follows.palette_renderFile

omit files tree kept

/--
Blueprints built in a row come to what each of them came to on its own at first.

Those that came to nothing are blamed in their order, and all else in the tree is as it was.
-/
theorem buildEach (files : Disk.FilesOnly may) (tree : begun.disk.IsTree)
    (usual : Disk.hasNul defaults.directory = false) (sources : List Path)
    (free : ∀ source ∈ sources, Disk.hasNul source = false)
    (kept : ∀ source ∈ sources, begun.disk.Keeps may source)
    (allowed : ∀ source ∈ sources, ∀ rendered,
      Blueprint.product? defaults begun source = some rendered →
        begun.disk.Takes may rendered.output (Text.Utf8.encode rendered.text)) :
    ∃ after failed faults,
      (Blueprint.buildEach defaults sources).runIn later =
        (.ok (sources.filterMap (Blueprint.output? defaults begun), failed), after) ∧
      begun.Follows may after ∧ after.errors = later.errors ++ faults ∧
      Blueprint.BlamedFor
        (sources.filter fun source => Blueprint.output? defaults begun source = none) faults ∧
      ∀ place, Blueprint.SettledAt defaults begun sources later.disk after.disk place := by
  -- Each blueprint leaves a session that follows the first one, from which the others go on.
  induction sources generalizing later with
  | nil => exact ⟨later, 0, [], rfl, follows, by simp, .nil, fun _ => rfl⟩
  | cons source rest ih =>
    have keptHere := kept source (by simp)
    have outputIs : Blueprint.output? defaults begun source =
        (Blueprint.product? defaults begun source).map Rendered.output :=
      Blueprint.output?_eq (free source (by simp)) usual
    have later' {between : Session} (follows : begun.Follows may between) :=
      ih follows (fun other among => free other (by simp [among]))
        (fun other among => kept other (by simp [among]))
        (fun other among => allowed other (by simp [among]))
    -- Both cases are one step and then the rest; they differ in what the step adds to each list.
    cases made : Blueprint.product? defaults begun source with
    | some rendered =>
      obtain ⟨between, place, followsBetween, attempted, quiet, leads, holds, others⟩ :=
        follows.attempt_of_product files tree keptHere made (allowed source (by simp) _ made)
      obtain ⟨after, failed, faults, ran, followsAfter, told, blamed, settled⟩ :=
        later' followsBetween
      rw [made, Option.map_some] at outputIs
      refine ⟨after, failed, faults, ?_, followsAfter, by rw [told, quiet], ?_, fun here => ?_⟩
      · rw [Blueprint.buildEach_cons, Work.runIn_bind_of_ok attempted,
          Work.runIn_bind_of_ok ran, List.filterMap_cons_some outputIs]
        rfl
      · rw [List.filter_cons_of_neg (by simp [outputIs])]
        exact blamed
      · exact (Blueprint.settledAt_of_product made outputIs leads holds others here).cons
          (settled here)
    | none =>
      obtain ⟨between, fault, followsBetween, attempted, diskIs, blame⟩ :=
        follows.attempt_of_no_product files tree keptHere (free source (by simp)) usual made
      obtain ⟨after, failed, faults, ran, followsAfter, told, blamed, settled⟩ :=
        later' followsBetween
      rw [made, Option.map_none] at outputIs
      refine ⟨after, failed + 1, ⟨.error, BlueprintError.message ⟨source, fault⟩⟩ :: faults, ?_,
        followsAfter, by simp [told, blame], ?_, fun here => ?_⟩
      · rw [Blueprint.buildEach_cons, Work.runIn_bind_of_ok attempted,
          Work.runIn_bind_of_ok ran, List.filterMap_cons_none outputIs]
        rfl
      · rw [List.filter_cons_of_pos (by simp [outputIs])]
        exact .cons ⟨fault, rfl⟩ blamed
      · refine Blueprint.SettledAt.cons ?_ (settled here)
        rw [diskIs]
        exact Blueprint.settledAt_of_no_product later.disk outputIs here

end Session.Follows

/--
Blueprints of a batch do not get in each other's way.

A batch always comes to its end, and gives the outputs of exactly those blueprints, in order,
that can be built on their own in the tree of the beginning, with a palette that is still fresh.
For each of the others one error is told.
At the place of each output is the whole text of the last blueprint that goes there,
as it is rendered on its own, and everything else in the tree is as it was.

For this, no output may take the place of a blueprint.
The palette of the batch may have been asked for mixes before, and the usual directory comes from
the environment, whose values have no NUL.
-/
theorem batch_isolated (defaults : Defaults) (sources : List Path) (session : Session)
    (fresh : Palette) (agree : session.palette.Agrees fresh) (tree : session.disk.IsTree)
    (free : ∀ source ∈ sources, Disk.hasNul source = false)
    (usual : Disk.hasNul defaults.directory = false)
    (apart : ∀ built ∈ sources, ∀ output,
      Blueprint.output? defaults { session with palette := fresh } built = some output →
        ∀ listed ∈ sources, session.disk.place? listed ≠ session.disk.place? output) :
    let alone : Session := { session with palette := fresh }
    let (outcome, after) := (Blueprint.buildAll defaults sources).runIn session
    outcome = .ok (sources.filterMap (Blueprint.output? defaults alone)) ∧
      (∃ faults, after.errors = session.errors ++ faults ∧
        Blueprint.BlamedFor
          (sources.filter fun source => Blueprint.output? defaults alone source = none)
          faults) ∧
      after.disk.workDir = session.disk.workDir ∧
      ∀ place, Blueprint.SettledAt defaults alone sources session.disk after.disk place := by
  intro alone
  -- Files may be put anywhere but at the places of the blueprints.
  let may (place : Location) (entry : Entry) : Prop :=
    entry ≠ .directory ∧ ∀ source ∈ sources, session.disk.place? source ≠ some place
  have files : Disk.FilesOnly may := fun _ _ allowed => allowed.1
  have follows : alone.Follows may session := ⟨.same, agree⟩
  have kept : ∀ source ∈ sources, alone.disk.Keeps may source :=
    fun source among place leads entry allowed => allowed.2 source among leads
  have allowed : ∀ source ∈ sources, ∀ rendered,
      Blueprint.product? defaults alone source = some rendered →
        alone.disk.Takes may rendered.output (Text.Utf8.encode rendered.text) := by
    intro source among rendered made place leads executable
    refine ⟨by simp, fun listed listedToo taken => ?_⟩
    have built : Blueprint.output? defaults alone source = some rendered.output := by
      rw [Blueprint.output?_eq (free source among) usual, made]
      rfl
    exact apart source among _ built listed listedToo (taken.trans leads.symm)
  obtain ⟨after, failed, faults, ran, followsAfter, told, blamed, settled⟩ :=
    follows.buildEach files tree usual sources free kept allowed
  rw [Blueprint.buildAll, Work.runIn_bind_of_ok ran]
  refine ⟨rfl, ⟨faults, ?_, blamed⟩, followsAfter.disk.workDir, settled⟩
  -- The count that is told at the end is no error.
  rw [← told]
  simp [Session.errors]

/-- One of three blueprints is at fault; of the others, which go to one place, the last stays. -/
theorem batch_isolated_last_stays :
    let out : Location := ["home", ".cache", "chromasync", "out"]
    let disk : Disk := ⟨["home"], [(["home"], .directory), (["home", ".cache"], .directory),
      (["home", ".cache", "chromasync"], .directory), (out, .directory),
      (["home", "one"], .directory),
      (["home", "one", "ink"], .file (Text.Utf8.encode "\x7bink\x7d".toList) false),
      (["home", "two"], .directory),
      (["home", "two", "ink"], .file (Text.Utf8.encode "\x7bink:50:ink\x7d!".toList) false),
      (["home", "bad"], .file (Text.Utf8.encode "% what".toList) false)]⟩
    let fresh : Palette := ⟨[("ink", ⟨17, 34, 51⟩)]⟩
    let session : Session := ⟨disk, (fresh.mixed "ink" 50 "ink").2, []⟩
    let alone : Session := { session with palette := fresh }
    let layout : Layout := ⟨Path.ofString "/home", Path.ofString "/home/.config/chromasync",
      Path.ofString "/home/.cache/chromasync"⟩
    let defaults : Defaults := ⟨layout.home, .hashed, layout.outDir⟩
    let sources := ["one/ink", "bad", "two/ink"].map Path.ofString
    let (outcome, after) := (Blueprint.buildAll defaults sources).runIn session
    session.palette.Agrees fresh ∧ disk.IsTree ∧
      (∀ source ∈ sources, Disk.hasNul source = false) ∧
      Disk.hasNul defaults.directory = false ∧
      (∀ built ∈ sources, ∀ output, Blueprint.output? defaults alone built = some output →
        ∀ listed ∈ sources, disk.place? listed ≠ disk.place? output) ∧
      outcome = .ok [layout.outDir.entry "ink", layout.outDir.entry "ink"] ∧
      (∃ fault, after.errors =
        [⟨.error, BlueprintError.message ⟨Path.ofString "bad", fault⟩⟩]) ∧
      after.disk.entry? (out ++ ["ink"]) =
        some (.file (Text.Utf8.encode "#112233!\n".toList) false) ∧
      after.disk.entry? ["home", "one", "ink"] = disk.entry? ["home", "one", "ink"] := by
  intro out disk fresh session alone layout defaults sources
  have agree : session.palette.Agrees fresh :=
    Palette.agrees_mixed fresh 50 (by decide) (by decide)
  have tree : disk.IsTree := by decide
  have free : ∀ source ∈ sources, Disk.hasNul source = false := by decide
  have usual : Disk.hasNul defaults.directory = false := by decide
  have apart : ∀ built ∈ sources, ∀ output,
      Blueprint.output? defaults alone built = some output →
        ∀ listed ∈ sources, disk.place? listed ≠ disk.place? output := by
    change ∀ built ∈ sources, ∀ output ∈ Blueprint.output? defaults alone built,
      ∀ listed ∈ sources, disk.place? listed ≠ disk.place? output
    decide +kernel
  have outputs : sources.filterMap (Blueprint.output? defaults alone) =
      [layout.outDir.entry "ink", layout.outDir.entry "ink"] := by decide +kernel
  have failing : (sources.filter fun source => Blueprint.output? defaults alone source = none) =
      [Path.ofString "bad"] := by decide +kernel
  have last : Blueprint.lastInto? defaults alone sources (out ++ ["ink"]) =
      some (Path.ofString "two/ink") := by decide +kernel
  have kept : Blueprint.lastInto? defaults alone sources ["home", "one", "ink"] = none := by
    decide +kernel
  have whole : (defaults.renderFile disk fresh (Path.ofString "two/ink")).outcome =
      .ok ⟨Path.ofString "two/ink", layout.outDir, .hashed, "#112233!\n".toList⟩ := by
    decide +kernel
  have isolated := batch_isolated defaults sources session fresh agree tree free usual apart
  -- What the batch leaves is known from the theorem alone, so its run may be any.
  generalize (Blueprint.buildAll defaults sources).runIn session = ran at isolated ⊢
  obtain ⟨outcome, after⟩ := ran
  obtain ⟨ended, ⟨faults, told, blamed⟩, _, settled⟩ := isolated
  refine ⟨agree, tree, free, usual, apart, ended.trans (congrArg _ outputs), ?_, ?_, ?_⟩
  · rw [failing] at blamed
    cases blamed with
    | cons blame none =>
      cases none
      obtain ⟨fault, rfl⟩ := blame
      exact ⟨fault, told⟩
  · have there := settled (out ++ ["ink"])
    rw [Blueprint.SettledAt, last] at there
    obtain ⟨rendered, ended, held⟩ := there
    cases whole.symm.trans ended
    rw [held]
    decide +kernel
  · have there := settled ["home", "one", "ink"]
    rw [Blueprint.SettledAt, kept] at there
    exact there

end Themer
