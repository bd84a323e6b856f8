import Themer.Blueprint.Build
import Themer.Proofs.Blueprint.Sections
import Themer.Proofs.Disk.Tree
import Themer.Proofs.Session.Work

/-! Building one blueprint is all or nothing: its whole text in one place, or the tree as it was. -/

namespace Themer

/-- A path at which the system finds something has no NUL in it. -/
theorem Disk.hasNul_of_look {disk : Disk} {path : Path} {entry : Entry}
    (seen : disk.look path = .ok (some entry)) : hasNul path = false := by
  cases nul : hasNul path with
  | false => rfl
  -- With one, the look would have found nothing.
  | true => simp [look, nul] at seen

/-- A directory that a sound line asks for has no NUL in its path, since it was seen. -/
theorem Directive.hasNul_of_directory? {home : Path} {disk : Disk} {line : List Char}
    {directory : Path} (sound : fault? home disk line = none)
    (asked : directory? home line = some directory) : Disk.hasNul directory = false := by
  unfold directory? at asked
  unfold fault? at sound
  cases spelled : read? line with
  | none => simp [spelled] at asked
  | some directive =>
    simp only [spelled] at asked sound
    split at asked
    · rename_i onDirectory
      cases asked
      -- Being sound, the directive passed the test for a directory.
      have notFormat : ¬ directive.name = formatName := by
        rw [onDirectory]
        decide
      rw [if_neg notFormat, if_pos onDirectory] at sound
      -- Every answer but that of a directory is a fault.
      split at sound
      · rename_i seen
        exact Disk.hasNul_of_look seen
      all_goals cases sound
    · cases asked

namespace Defaults

/-- The directory that some lines go to: the last that their head asks for, or the usual one. -/
def directoryFor (defaults : Defaults) (lines : List (List Char)) : Path :=
  ((headLines lines).filterMap (Directive.directory? defaults.home)).getLast?.getD
    defaults.directory

/-- A rendering that comes to its end settles on the directory that its lines ask for. -/
theorem directory_of_progress {defaults : Defaults} {disk : Disk} {palette : Palette}
    {lines : List (List Char)} {head : Head}
    (ended : (defaults.progress disk palette lines).head = .ok head) :
    head.directory = defaults.directoryFor lines ∧
      (Disk.hasNul defaults.directory = false → Disk.hasNul head.directory = false) := by
  have isOpen : defaults.head.closed = false := rfl
  rw [progress, renderFrom_of_open defaults.home disk isOpen] at ended
  cases first : (headLines lines).findSome? (Directive.fault? defaults.home disk) with
  | some e =>
    rw [first] at ended
    cases ended
  | none =>
    -- No line of the head is at fault, so the fold over all of them settles it.
    have sound := List.findSome?_eq_none_iff.mp first
    have settled : head.directory = defaults.directoryFor lines := by
      simp only [first, bodyProgress, Head.foldl_settle] at ended
      cases ended
      split <;> rfl
    refine ⟨settled, fun usual => ?_⟩
    -- The directory is one that a sound line asks for, or else the usual one.
    rw [settled, directoryFor]
    cases last : ((headLines lines).filterMap (Directive.directory? defaults.home)).getLast? with
    | none => exact usual
    | some directory =>
      obtain ⟨line, among, asked⟩ := List.mem_filterMap.mp (List.mem_of_getLast? last)
      exact Directive.hasNul_of_directory? (sound line among) asked

/-- Progress that a head failed on is reported with the blueprint. -/
theorem error_of_rendering {progress : Progress} {source : Path}
    {failure : Failure BlueprintError}
    (failed : (progress.rendering source).outcome = .error failure) :
    ∃ fault, failure = .reported ⟨source, fault⟩ := by
  unfold Progress.rendering at failed
  dsimp only at failed
  split at failed <;> cases failed
  exact ⟨_, rfl⟩

/-- Rendering a file fails with an error of the blueprint, if its path can be passed on. -/
theorem error_of_renderFile {defaults : Defaults} {disk : Disk} {palette : Palette}
    {source : Path} {failure : Failure BlueprintError} (free : Disk.hasNul source = false)
    (failed : (defaults.renderFile disk palette source).outcome = .error failure) :
    ∃ fault, failure = .reported ⟨source, fault⟩ := by
  unfold renderFile at failed
  dsimp only at failed
  -- Either the file cannot be read at all, or its bytes come to no rendering.
  cases read : disk.readFile source with
  | error denial =>
    obtain ⟨e, rfl⟩ := Disk.readFile_refused free read
    rw [read] at failed
    cases failed
    exact ⟨_, rfl⟩
  | ok bytes =>
    rw [read] at failed
    dsimp only [renderBytes] at failed
    split at failed
    · exact error_of_rendering failed
    · -- The lines before bytes that cannot be read may be at fault first.
      split at failed
      · cases failed
        exact ⟨_, rfl⟩
      · exact error_of_rendering failed

/-- A file that is rendered was read to its end, and its whole text is what is rendered. -/
theorem whole_of_renderFile {defaults : Defaults} {disk : Disk} {palette : Palette}
    {source : Path} {rendered : Rendered}
    (ended : (defaults.renderFile disk palette source).outcome = .ok rendered) :
    ∃ bytes text, disk.readFile source = .ok bytes ∧
      Text.Utf8.decodeFile bytes = (text, none) ∧
      (defaults.renderText disk palette source text).outcome = .ok rendered := by
  unfold renderFile at ended
  dsimp only at ended
  -- Of all ways the rendering of a file goes, one alone ends with a text.
  cases read : disk.readFile source with
  | error denial =>
    rw [read] at ended
    cases denial <;> cases ended
  | ok bytes =>
    rw [read] at ended
    dsimp only [renderBytes] at ended
    split at ended
    · rename_i text decoded
      refine ⟨bytes, text, rfl, decoded, ?_⟩
      unfold renderText renderLines
      dsimp only
      split
      · -- A head that failed would have ended the rendering of the file too.
        rename_i failed
        simp [Progress.rendering, failed] at ended
      · exact ended
    · split at ended
      · cases ended
      · rename_i failed
        rw [failed] at ended
        cases ended

/-- A text that is rendered keeps its source, and goes to the directory its lines ask for. -/
theorem directory_of_renderText {defaults : Defaults} {disk : Disk} {palette : Palette}
    {source : Path} {text : List Char} {rendered : Rendered}
    (ended : (defaults.renderText disk palette source text).outcome = .ok rendered) :
    rendered.source = source ∧ rendered.directory = defaults.directoryFor (linesOf text) ∧
      (Disk.hasNul defaults.directory = false → Disk.hasNul rendered.directory = false) := by
  unfold renderText renderLines at ended
  dsimp only at ended
  -- The rendering has its directory from the head that its lines settle.
  cases settled : (defaults.progress disk palette (linesOf text)).head with
  | error e =>
    rw [settled] at ended
    cases e <;> simp [Progress.rendering, settled] at ended
  | ok head =>
    simp only [settled, Progress.rendering] at ended
    cases ended
    exact ⟨rfl, directory_of_progress settled⟩

end Defaults

/-- A session once a blueprint is rendered in it: colors were mixed and notices given. -/
def Session.withRendering (session : Session) (rendering : Rendering) : Session :=
  { session with
    palette := rendering.palette
    notices := session.notices ++ rendering.notices }

/-- The disk is the one from before the rendering. -/
@[simp] theorem Session.withRendering_disk (session : Session) (rendering : Rendering) :
    (session.withRendering rendering).disk = session.disk := rfl

namespace Blueprint

/-- Rendering a blueprint mixes colors and gives notices, and leaves the disk alone. -/
theorem runIn_render (defaults : Defaults) (source : Path) (session : Session) :
    (render defaults source).runIn session =
      ((defaults.renderFile session.disk session.palette source).outcome.mapError
          (·.map .blueprint),
        session.withRendering (defaults.renderFile session.disk session.palette source)) := by
  rw [render, Work.runIn_bind_of_ok (Work.runIn_get session),
    Work.runIn_bind_of_ok (Work.runIn_set session _), Work.runIn_ofExcept]
  rfl

/-- Writing a rendered blueprint puts another disk in place, unless the system refuses. -/
theorem runIn_write (rendered : Rendered) (session : Session) :
    (write rendered).runIn session =
      match session.disk.writeFile rendered.output (Text.Utf8.encode rendered.text) with
      | .ok disk => (.ok rendered.output, { session with disk })
      | .error (.os e) =>
        (.error (.reported (.blueprint ⟨rendered.source, .unwritable rendered.output e⟩)),
          session)
      | .error other => (.error (.cutShort (.denied other)), session) := by
  rw [write, Work.runIn_bind_of_ok (Work.runIn_disk session), Work.runIn_bind,
    Work.runIn_grantedOr]
  cases session.disk.writeFile rendered.output (Text.Utf8.encode rendered.text) with
  | ok disk => exact Work.runIn_bind_of_ok (Work.runIn_setDisk disk session) _
  | error denial => cases denial <;> rfl

variable {defaults : Defaults} {source : Path} {session : Session}

/-- A blueprint that cannot be rendered is not built, and the disk is left alone. -/
theorem runIn_build_of_error {failure : Failure BlueprintError}
    (failed : (defaults.renderFile session.disk session.palette source).outcome =
      .error failure) :
    (build defaults source).runIn session =
      (.error (failure.map .blueprint),
        session.withRendering (defaults.renderFile session.disk session.palette source)) := by
  have ended := runIn_render defaults source session
  rw [failed] at ended
  exact Work.runIn_bind_of_error ended _

/-- A blueprint that is rendered is built if it can be written, and the write decides alone. -/
theorem runIn_build_of_ok {rendered : Rendered}
    (ended : (defaults.renderFile session.disk session.palette source).outcome =
      .ok rendered) :
    let between :=
      session.withRendering (defaults.renderFile session.disk session.palette source)
    (build defaults source).runIn session =
      match session.disk.writeFile rendered.output (Text.Utf8.encode rendered.text) with
      | .ok disk =>
        (.ok rendered.output,
          { between with
            disk
            notices := between.notices ++
              [⟨.debug, s!"Blueprint {source.text} -> {rendered.output.text}"⟩] })
      | .error (.os e) =>
        (.error (.reported (.blueprint ⟨rendered.source, .unwritable rendered.output e⟩)),
          between)
      | .error other => (.error (.cutShort (.denied other)), between) := by
  intro between
  have done := runIn_render defaults source session
  rw [ended] at done
  rw [build, Work.runIn_bind_of_ok done, Work.runIn_bind, runIn_write,
    Session.withRendering_disk]
  -- The write is to the disk of the beginning, and ends the work or lets it tell of the output.
  cases session.disk.writeFile rendered.output (Text.Utf8.encode rendered.text) with
  | ok disk => exact Work.runIn_bind_of_ok (Work.runIn_tell .debug _ _) _
  | error denial => cases denial <;> rfl

end Blueprint

/--
A blueprint is built as a whole or not at all.

Built, the bytes of its whole rendered text are in the one file of its own name,
right in the directory that its head settles on, and the tree is otherwise as it was.
Failed, the blueprint is reported and nothing in the tree has changed,
and it fails only where it cannot be rendered or the system refuses the write.
The usual directory comes from the environment, whose values have no NUL.
-/
theorem build_all_or_nothing (defaults : Defaults) (spelled : String) (session : Session)
    (tree : session.disk.IsTree) (free : '\x00' ∉ spelled.toList)
    (usual : Disk.hasNul defaults.directory = false) :
    let source := Path.ofString spelled
    let (outcome, after) := (Blueprint.build defaults source).runIn session
    (∃ bytes text rendered place,
      session.disk.readFile source = .ok bytes ∧
      Text.Utf8.decodeFile bytes = (text, none) ∧
      (defaults.renderText session.disk session.palette source text).outcome = .ok rendered ∧
      outcome = .ok ((defaults.directoryFor (Defaults.linesOf text)).entry source.name) ∧
      session.disk.spot (defaults.directoryFor (Defaults.linesOf text)) =
        .ok (.taken place .directory) ∧
      Disk.WrittenAt session.disk after.disk (place ++ [source.name])
        (Text.Utf8.encode rendered.text)) ∨
    (∃ fault, outcome = .error (.reported (.blueprint ⟨source, fault⟩)) ∧
      after.disk = session.disk ∧
      let rendering := defaults.renderFile session.disk session.palette source
      (rendering.outcome = .error (.reported ⟨source, fault⟩) ∨
        ∃ rendered e, rendering.outcome = .ok rendered ∧
          session.disk.writeFile rendered.output (Text.Utf8.encode rendered.text) =
            .error (.os e) ∧
          fault = .unwritable rendered.output e)) := by
  intro source
  have freeSource : Disk.hasNul source = false := Disk.hasNul_ofString free
  cases ended : (defaults.renderFile session.disk session.palette source).outcome with
  | error failure =>
    -- Nothing is written before the whole rendering has ended well.
    obtain ⟨fault, rfl⟩ := Defaults.error_of_renderFile freeSource ended
    rw [Blueprint.runIn_build_of_error ended]
    exact .inr ⟨fault, rfl, rfl, .inl ended⟩
  | ok rendered =>
    obtain ⟨bytes, text, read, decoded, whole⟩ := Defaults.whole_of_renderFile ended
    obtain ⟨sourceIs, directoryIs, freeDirectory⟩ := Defaults.directory_of_renderText whole
    -- What was read is no directory, so the path ends in a name of its own.
    obtain ⟨_, entry, led, noDirectory⟩ := Disk.spot_of_readFile read
    obtain ⟨among, down⟩ := tree.name_of_spot led noDirectory
    have clean := Path.isClean_ofString spelled source.name among
    have outputIs : rendered.output = rendered.directory.entry source.name := by
      rw [Rendered.output, sourceIs, Path.child_of_isCleanName _ clean]
    rw [Blueprint.runIn_build_of_ok ended]
    cases written : session.disk.writeFile rendered.output (Text.Utf8.encode rendered.text) with
    | error denial =>
      -- A refused write leaves the tree, and is reported, since no NUL is in the path.
      have freeOutput : Disk.hasNul rendered.output = false := by
        rw [outputIs, Disk.hasNul_entry, freeDirectory usual, Bool.false_or]
        exact Disk.not_contains_of_hasNul freeSource among
      obtain ⟨e, rfl⟩ := Disk.writeFile_refused freeOutput written
      exact .inr ⟨.unwritable rendered.output e, by rw [sourceIs], rfl,
        .inr ⟨rendered, e, ended, written, rfl⟩⟩
    | ok disk =>
      -- A write that is granted changes one place, right below the directory.
      rw [outputIs] at written
      obtain ⟨place, above, changed⟩ := Disk.writeFile_entry clean.ne_empty down written
      rw [directoryIs] at above outputIs
      exact .inl ⟨bytes, text, rendered, place, read, decoded, whole, by rw [outputIs], above,
        changed⟩

/-- A file of one placeholder is written in full to where the environment has it go. -/
theorem build_all_or_nothing_written :
    let out : Location := ["home", ".cache", "chromasync", "out"]
    let disk : Disk := ⟨["home"], [(["home"], .directory), (["home", ".cache"], .directory),
      (["home", ".cache", "chromasync"], .directory), (out, .directory),
      (["home", "ink.css"], .file (Text.Utf8.encode "\x7bink\x7d".toList) false)]⟩
    let session : Session := ⟨disk, ⟨[("ink", ⟨17, 34, 51⟩)]⟩, []⟩
    let layout : Layout := ⟨Path.ofString "/home", Path.ofString "/home/.config/chromasync",
      Path.ofString "/home/.cache/chromasync"⟩
    let defaults : Defaults := ⟨layout.home, .hashed, layout.outDir⟩
    let (outcome, after) := (Blueprint.build defaults (Path.ofString "ink.css")).runIn session
    disk.IsTree ∧ '\x00' ∉ "ink.css".toList ∧ Disk.hasNul defaults.directory = false ∧
      outcome = .ok (layout.outDir.entry "ink.css") ∧
      Disk.WrittenAt disk after.disk (out ++ ["ink.css"])
        (Text.Utf8.encode "#112233\n".toList) := by
  intro out disk session layout defaults
  have tree : disk.IsTree := by decide
  have free : '\x00' ∉ "ink.css".toList := by decide
  have made : Layout.ofEnvironment? [("HOME", "/home")] = some layout := by decide
  have usual : Disk.hasNul defaults.directory = false := Layout.hasNul_outDir (by decide) made
  refine ⟨tree, free, usual, ?_⟩
  obtain ⟨bytes, text, rendered, place, read, decoded, whole, built, above, changed⟩ | failed :=
    build_all_or_nothing defaults "ink.css" session tree free usual
  · -- Each step of the work has one result, which the steps after it start from.
    cases read
    cases decoded
    cases whole
    cases above
    have spelled : Text.Utf8.encode "#112233\n".toList = [35, 49, 49, 50, 50, 51, 51, 10] := by
      decide +kernel
    refine ⟨built, ?_⟩
    rw [spelled]
    exact changed
  · have done : Except.isOk ((Blueprint.build defaults (Path.ofString "ink.css")).runIn
        session).1 = true := by decide +kernel
    obtain ⟨fault, ended, _⟩ := failed
    cases done.symm.trans (congrArg Except.isOk ended)

end Themer
