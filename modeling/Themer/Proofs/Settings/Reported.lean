import Themer.Proofs.Command.Stages
import Themer.Proofs.Disk.Overlong
import Themer.Proofs.Settings.Merged
import Themer.Proofs.Text.Encoded
import Themer.Proofs.Yaml.Sources

/-!
What is wrong with a file of settings is reported, and ends a run with this error alone.

Only a path that is too long, bytes that spell no text, and texts that are too much to read or to
show cut the run short instead.
-/

namespace Themer

/-- The file of settings that a problem with the surroundings is one of. -/
def SetupError.settingsFile? : SetupError → Option Path
  | .noSettings file | .settingsUnreadable file _ | .settingsMalformed file _
  | .settingsNotMapping file | .settings file _ => some file
  | .noHome | .directoryNotMade _ _ | .noBlueprint _ _ | .schemesUnreadable _ _ => none

namespace Settings

/--
What cuts short that bytes are taken as settings.

Either their reader does not get through, or what is wrong with the settings cannot be told, as the
value that would be shown is too long or too deep for the levels that are left.
-/
inductive IsCutShort (reader : DocumentReader) (levels : Nat) (bytes : Text.Bytes) :
    Interruption → Prop
  | read {cause : Interruption} (cut : reader.read bytes = .error (.cutShort cause)) :
      IsCutShort reader levels bytes cause
  | unshown {entries : List (Datum × Datum)} {fault : SettingsFault} {reason : Unshown}
      (read : reader.read bytes = .ok (.map entries))
      (wrong : (ofDocument entries).fault? = some fault)
      (shows : fault.unshown? levels = some reason) :
      IsCutShort reader levels bytes reason.interruption

/-- How the settings of a file may fail: by a problem with this file, or cut short. -/
def MayFail (reader : DocumentReader) (levels : Nat) (disk : Disk) (file : Path) :
    Failure Problem → Prop
  | .reported problem => ∃ e : SetupError, problem = .setup e ∧ e.settingsFile? = some file
  | .cutShort cause =>
    disk.IsOverlong file ∧ cause = .denied (.os ⟨.nameTooLong, file.text⟩) ∨
      ∃ bytes, disk.readFile file = .ok bytes ∧ IsCutShort reader levels bytes cause

/-- A setting that was not joined has the value from the document or the usual one. -/
theorem Merges.find?_or {settings : Settings} {entries : List (Datum × Datum)} {key value : Datum}
    (merges : settings.Merges entries) (found : settings.find? key = some value)
    (single : key = scriptKey → ∀ others, value ≠ .map others) :
    Datum.find? entries key = some value ∨ usual.find? key = some value := by
  cases own : Datum.find? entries key with
  | none => exact .inr ((merges.kept key own).symm.trans found)
  | some given =>
    -- Only a map for the script is joined with the usual one, and then the value would be a map.
    by_cases joins : key = scriptKey ∧ ∃ others, given = .map others
    · obtain ⟨rfl, others, rfl⟩ := joins
      obtain ⟨script, same, _⟩ := merges.joined others own
      rw [found] at same
      exact absurd (Option.some.inj same) (single rfl script)
    · have same := merges.replaced key given own fun ofScript others isMap =>
        joins ⟨ofScript, others, isMap⟩
      exact .inl (same.symm.trans found)

/--
Whether a map has a value that keeps its settings from being told of.

What it has for the format would be put into a sentence, and what it has for the script be shown.
-/
def Untold (levels : Nat) (entries : List (Datum × Datum)) (reason : Unshown) : Prop :=
  (∃ value, Datum.find? entries formatKey = some value ∧ value.unplain? levels = some reason) ∨
    ∃ value, Datum.find? entries scriptKey = some value ∧ value.unshown? levels = some reason

/-- What keeps a fault from being told is a value that the settings have from their document. -/
theorem Merges.untold {settings : Settings} {entries : List (Datum × Datum)}
    (merges : settings.Merges entries) {levels : Nat} {fault : SettingsFault} {reason : Unshown}
    (wrong : settings.fault? = some fault) (shows : fault.unshown? levels = some reason) :
    Untold levels entries reason := by
  have usualFormat : usual.find? formatKey = some (.text Format.hashed.name) := by rfl
  have usualMap : usual.find? scriptKey = some (.map usualScript) := by rfl
  unfold fault? at wrong
  dsimp only at wrong
  split at wrong
  · -- The usual format would be none that is wrong.
    rename_i noFormat
    cases wrong
    obtain ⟨value, found⟩ : ∃ value, settings.find? formatKey = some value :=
      Option.isSome_iff_exists.mp ((merges.keys formatKey).mpr (.inl (by rw [usualFormat]; rfl)))
    have apart : formatKey ≠ scriptKey := by simp [formatKey, scriptKey]
    rw [found, Option.getD_some] at noFormat shows
    rcases merges.find?_or found fun same => absurd same apart with given | isUsual
    · exact .inl ⟨value, given, shows⟩
    · cases usualFormat.symm.trans isUsual
      exact absurd noFormat (by decide)
  · split at wrong
    · split at wrong
      · cases wrong
        cases shows
      · split at wrong <;> cases wrong
        cases shows
    · -- The usual settings for the script are a map, and it has none here.
      rename_i noMap
      cases wrong
      obtain ⟨value, found⟩ : ∃ value, settings.find? scriptKey = some value :=
        Option.isSome_iff_exists.mp ((merges.keys scriptKey).mpr (.inl (by rw [usualMap]; rfl)))
      rw [found, Option.getD_some] at noMap shows
      rcases merges.find?_or found fun _ => noMap with given | isUsual
      · exact .inr ⟨value, given, shows⟩
      · exact absurd (Option.some.inj (usualMap.symm.trans isUsual)).symm (noMap usualScript)

variable {reader : DocumentReader} {levels : Nat} {disk : Disk} {layout : Option Layout}
  {asked : Option Path} {file : Path} {bytes : Text.Bytes}

/-- Settings are checked with a problem of their file, if what is wrong with them can be told. -/
theorem checked_cases (levels : Nat) (file : Path) (settings : Settings) :
    checked levels file settings = .ok settings ∨
      (∃ fault, checked levels file settings =
        .error (.reported (.setup (.settings file fault)))) ∨
      ∃ fault reason, checked levels file settings = .error (.cutShort reason.interruption) ∧
        settings.fault? = some fault ∧ fault.unshown? levels = some reason := by
  unfold checked
  split
  · rename_i fault wrong
    split
    · rename_i reason shows
      exact .inr (.inr ⟨fault, reason, rfl, wrong, shows⟩)
    · exact .inr (.inl ⟨fault, rfl⟩)
  · exact .inl rfl

/-- The settings of a file that is there are read, or fail as they may. -/
theorem gives_ofFile (free : Disk.hasNul file = false) :
    Gives (fun _ => True) (MayFail reader levels disk file) (ofFile reader levels disk file) := by
  -- The file is read, its bytes are given to the reader, and what they come to is checked.
  unfold ofFile
  cases held : disk.readFile file with
  | error denial =>
    obtain ⟨e, rfl⟩ := Disk.readFile_refused free held
    exact ⟨_, rfl, rfl⟩
  | ok bytes =>
    dsimp only
    cases parsed : reader.read bytes with
    | error stop =>
      cases stop with
      | reported complaint => exact ⟨_, rfl, rfl⟩
      | cutShort cause => exact .inr ⟨bytes, held, .read parsed⟩
    | ok document =>
      dsimp only
      unfold ofValue
      split
      · -- A document that counts as nothing leaves the usual settings.
        rw [checked, noFault_usual]
        exact trivial
      split
      · rename_i entries _
        obtain fine | ⟨fault, told⟩ | ⟨fault, reason, cut, wrong, shows⟩ :=
          checked_cases levels file (ofDocument entries)
        · rw [fine]
          exact trivial
        · rw [told]
          exact ⟨_, rfl, rfl⟩
        · rw [cut]
          exact .inr ⟨bytes, held, .unshown parsed wrong shows⟩
      · exact ⟨_, rfl, rfl⟩

/-- A file whose document is told to be malformed has bytes that their reader complains of. -/
theorem readFile_of_malformed {own : Path} {complaint : Complaint}
    (bad : ofFile reader levels disk file =
      .error (.reported (.setup (.settingsMalformed own complaint)))) :
    own = file ∧ ∃ bytes, disk.readFile file = .ok bytes ∧
      reader.read bytes = .error (.reported complaint) := by
  unfold ofFile at bad
  split at bad
  · cases bad
  · cases bad
  rename_i bytes held
  split at bad
  · rename_i parsed
    cases bad
    exact ⟨rfl, bytes, held, parsed⟩
  · cases bad
  · -- A document that was read is told of for what is in it.
    unfold ofValue checked at bad
    repeat' split at bad
    all_goals cases bad

/-- Where a file is looked for, it can be read if it is there, or its path is too long. -/
theorem of_look {disk : Disk} {file : Path} {sees : Option Entry → Bool}
    (nothing : sees none = false) :
    Gives (fun found => found = true → Disk.hasNul file = false)
      (fun e => disk.IsOverlong file ∧ e = ⟨.nameTooLong, file.text⟩)
      ((disk.look file).map sees) := by
  -- Looking is refused for length only, and nothing is seen at a path with a NUL.
  cases looked : disk.look file with
  | error e => exact (Disk.look_eq_error_iff.mp looked).2
  | ok there =>
    intro found
    cases free : Disk.hasNul file with
    | false => rfl
    | true =>
      rw [Disk.look, if_pos free] at looked
      cases looked
      exact absurd (nothing.symm.trans found) (by decide)

/-- The settings of a session are read, or fail as those of their file may. -/
theorem gives_load (reader : DocumentReader) (levels : Nat) (disk : Disk) (layout : Option Layout)
    (asked : Option Path) :
    Gives (fun _ => True)
      (fun failure => ∃ file, file? layout asked = some file ∧
        MayFail reader levels disk file failure)
      (load reader levels disk layout asked) := by
  -- The file asked for comes before the usual one, and without either nothing can fail.
  have named {file : Path} (same : file? layout asked = some file)
      {outcome : Except (Failure Problem) Settings}
      (gives : Gives (fun _ => True) (MayFail reader levels disk file) outcome) :
      Gives (fun _ => True)
        (fun failure => ∃ file, file? layout asked = some file ∧
          MayFail reader levels disk file failure)
        outcome :=
    gives.mono (fun _ _ => trivial) fun failure may => ⟨file, same, may⟩
  unfold load
  split
  · rename_i file
    refine named rfl ?_
    have looked : Gives _ _ (disk.isFile file) := of_look rfl
    split
    · exact gives_ofFile (looked.of_ok ‹_› rfl)
    · exact ⟨_, rfl, rfl⟩
    · obtain ⟨tooLong, rfl⟩ := looked.of_error ‹_›
      exact .inl ⟨tooLong, rfl⟩
  · rename_i own
    refine named rfl ?_
    have looked : Gives _ _ (disk.isThere own.configFile) := of_look rfl
    split
    · exact gives_ofFile (looked.of_ok ‹_› rfl)
    · exact trivial
    · obtain ⟨tooLong, rfl⟩ := looked.of_error ‹_›
      exact .inl ⟨tooLong, rfl⟩
  · exact trivial

/-- Settings that are told to be malformed are so by the words of their reader. -/
theorem readFile_of_load_malformed {complaint : Complaint}
    (bad : load reader levels disk layout asked =
      .error (.reported (.setup (.settingsMalformed file complaint)))) :
    ∃ bytes, disk.readFile file = .ok bytes ∧ reader.read bytes = .error (.reported complaint) := by
  -- Whichever file it is, it is told of as the one that it is.
  have read {other : Path} (bad : ofFile reader levels disk other =
      .error (.reported (.setup (.settingsMalformed file complaint)))) :
      ∃ bytes, disk.readFile file = .ok bytes ∧
        reader.read bytes = .error (.reported complaint) := by
    obtain ⟨rfl, found⟩ := readFile_of_malformed bad
    exact found
  unfold load at bad
  split at bad
  · split at bad
    · exact read bad
    · cases bad
    · cases bad
  · split at bad
    · exact read bad
    · cases bad
    · cases bad
  · cases bad

/-- A path that is too long goes through as the refusal of the system. -/
theorem load_of_isOverlong (same : file? layout asked = some file)
    (free : Disk.hasNul file = false) (tooLong : disk.IsOverlong file) :
    load reader levels disk layout asked =
      .error (.cutShort (.denied (.os ⟨.nameTooLong, file.text⟩))) := by
  -- Either file is looked at before anything is read.
  have refused := Disk.look_eq_error_iff.mpr ⟨free, tooLong, rfl⟩
  cases asked with
  | some path =>
    cases same
    simp only [load, Disk.isFile, refused, Except.map]
  | none =>
    cases layout with
    | none => cases same
    | some own =>
      cases same
      simp only [load, Disk.isThere, refused, Except.map]

/-- The settings in a file that is there are those that its reader makes of its bytes. -/
theorem load_eq_ofFile (reader : DocumentReader) (levels : Nat) {executable : Bool}
    (chosen : file? layout asked = some file)
    (isFile : disk.look file = .ok (some (.file bytes executable))) :
    disk.readFile file = .ok bytes ∧
      load reader levels disk layout asked = ofFile reader levels disk file := by
  constructor
  · -- A file that is seen can be read, by the same way through the tree.
    obtain ⟨free, place, leads, holds⟩ := Disk.look_eq_some_iff.mp isFile
    exact Disk.readFile_eq_ok_iff.mpr ⟨free, place, leads, by rw [holds]; rfl⟩
  · cases asked with
    | some path =>
      cases chosen
      simp only [load, Disk.isFile, isFile, Except.map]
    | none =>
      cases layout with
      | none => cases chosen
      | some own =>
        cases chosen
        simp only [load, Disk.isThere, isFile, Except.map, Option.isSome_some]

/-- What cuts short that the bytes of a file are taken as settings goes through. -/
theorem ofFile_of_isCutShort {cause : Interruption} (held : disk.readFile file = .ok bytes)
    (cut : IsCutShort reader levels bytes cause) :
    ofFile reader levels disk file = .error (.cutShort cause) := by
  cases cut with
  | read stopped => simp only [ofFile, held, stopped]
  | @unshown entries fault reason read wrong shows =>
    -- A map without entries has nothing wrong in it, so this one counts as something.
    have something : (Datum.map entries).isTruthy = true := by
      cases entries with
      | nil =>
        rw [ofDocument, List.foldl_nil, noFault_usual] at wrong
        cases wrong
      | cons => rfl
    simp only [ofFile, held, read, ofValue, something, checked, wrong, shows, Bool.not_true,
      Bool.false_eq_true, if_false]

/-- A file that is there is not taken for its bytes alone exactly where they are cut short. -/
theorem load_cutShort_iff {executable : Bool} {cause : Interruption}
    (chosen : file? layout asked = some file)
    (isFile : disk.look file = .ok (some (.file bytes executable))) :
    load reader levels disk layout asked = .error (.cutShort cause) ↔
      IsCutShort reader levels bytes cause := by
  obtain ⟨held, same⟩ := load_eq_ofFile reader levels chosen isFile
  constructor
  · intro cut
    obtain ⟨own, alike, may⟩ := (gives_load reader levels disk layout asked).of_error cut
    cases chosen.symm.trans alike
    rcases may with ⟨tooLong, _⟩ | ⟨other, read, cut⟩
    · -- A path that is too long is not seen at all.
      obtain ⟨free, _⟩ := Disk.look_eq_some_iff.mp isFile
      rw [Disk.look_eq_error_iff.mpr ⟨free, tooLong, rfl⟩] at isFile
      cases isFile
    · cases held.symm.trans read
      exact cut
  · intro cut
    rw [same, ofFile_of_isCutShort held cut]

/-- Whether bytes spell no text, or one that has the reason for an interruption in it. -/
def Excuses (bytes : Text.Bytes) (cause : Interruption) : Prop :=
  (¬ ∃ text, bytes = Text.Utf8.encode text) ∨
    ∃ text, bytes = Text.Utf8.encode text ∧ Yaml.Justified text cause

/--
What cuts short that bytes are taken as settings in YAML has its reason in these bytes.

Or else there is a value in them that lies too deep for the levels left to tell of it.
-/
theorem excuses_of_isCutShort {cause : Interruption} (cut : IsCutShort .yaml levels bytes cause) :
    Excuses bytes cause ∨ ∃ entries e, DocumentReader.yaml.read bytes = .ok (.map entries) ∧
      Untold levels entries (.tooDeep e) ∧ cause = .tooDeep e := by
  -- Bytes that spell no text are an excuse for anything, and a text has the reason in it.
  by_cases spelled : ∃ text, bytes = Text.Utf8.encode text
  case neg => exact .inl (.inl spelled)
  obtain ⟨text, rfl⟩ := spelled
  have reading := Yaml.gives_readBytes
    (Text.Utf8.decode_eq_ok_iff.mpr (rfl : _ = Text.Utf8.encode text))
  cases cut with
  | read stopped =>
    exact .inl (.inr ⟨text, rfl, reading.of_error (cutShort_of_mapError stopped)⟩)
  | @unshown entries fault reason read wrong shows =>
    have untold := (merges_ofDocument (DocumentReader.yaml.isProper read)).untold wrong shows
    cases reason with
    | tooDeep e => exact .inr ⟨entries, e, read, untold, rfl⟩
    | tooLong =>
      -- Were the numbers of the text short, then so would be those of each value in it.
      refine .inl (.inr ⟨text, rfl, fun within => ?_⟩)
      have short := reading.of_ok (mapError_eq_ok_iff.mp read) within
      rcases untold with ⟨value, found, long⟩ | ⟨value, found, long⟩
      · obtain ⟨entry, among, rfl⟩ := Datum.exists_mem_of_find? found
        exact short (.value among (Datum.holdsTooLong_of_unplain? long))
      · obtain ⟨entry, among, rfl⟩ := Datum.exists_mem_of_find? found
        exact short (.value among (Datum.holdsTooLong_of_unshown? long))

end Settings

namespace Command

/-- A problem with the settings ends a run with the error for it, and with nothing else told. -/
theorem outcome_of_reported {environment : Environment} {request : Request} {layout : Layout}
    {disk : Disk} {problem : Problem}
    (found : Layout.ofEnvironment environment.bindings = .ok layout)
    (made : ((layout.makeDirectories environment.levels.make).runIn (.start disk)).1 = .ok ())
    (wrong : request.settings environment layout (preparedDisk environment disk) =
      .error (.reported problem)) :
    request.outcome environment disk =
      request.failed (.reported problem) (preparedDisk environment disk) := by
  -- Settings come right after the preparations, so that nothing was told before them.
  have ran : (request.run environment).runIn (.start disk) =
      (.error (.reported problem), .start (preparedDisk environment disk)) := by
    rw [run_eq]
    refine Work.runIn_bind_of_error ?_ _
    rw [runIn_prepare_of_made found made, wrong]
    rfl
  exact outcome_of_run_error ran rfl

end Command

/-- What is told of an outcome: the message of a problem, or what cut it short. -/
def outcomeTold {α : Type} (outcome : Except (Failure Problem) α) : Except (Failure String) Unit :=
  (outcome.map fun _ => ()).mapError (·.map Problem.message)

/-- A message that is told is that of a problem. -/
theorem exists_problem_of_told {α : Type} {outcome : Except (Failure Problem) α}
    {message : String} (same : outcomeTold outcome = .error (.reported message)) :
    ∃ problem, outcome = .error (.reported problem) ∧ problem.message = message := by
  cases outcome with
  | ok value => cases same
  | error failure =>
    cases failure with
    | reported problem =>
      cases same
      exact ⟨problem, rfl, rfl⟩
    | cutShort cause => cases same

/-- What is told to have cut an outcome short has done so. -/
theorem cutShort_of_told {α : Type} {outcome : Except (Failure Problem) α} {cause : Interruption}
    (same : outcomeTold outcome = .error (.cutShort cause)) :
    outcome = .error (.cutShort cause) := by
  cases outcome with
  | ok value => cases same
  | error failure =>
    cases failure with
    | reported problem => cases same
    | cutShort own =>
      cases same
      rfl

/--
Settings are read, or there is a problem with their file, unless something cuts the reading short.

This is a path that is too long, which always does so, or what the file holds: bytes that their
reader does not get through, or a value that is too long or too deep for the message about it.
For a file that is there this is exactly when.
A problem ends a run with status one and the error for it, and nothing else is told or changed.
-/
theorem settings_read_or_reported (reader : DocumentReader) (levels : Nat) (disk : Disk)
    (layout : Option Layout) (asked : Option Path) :
    ((∃ settings, Settings.load reader levels disk layout asked = .ok settings) ∨
      ∃ file failure, Settings.file? layout asked = some file ∧
        Settings.load reader levels disk layout asked = .error failure ∧
        Settings.MayFail reader levels disk file failure) ∧
    (∀ file, Settings.file? layout asked = some file → Disk.hasNul file = false →
      disk.IsOverlong file → Settings.load reader levels disk layout asked =
        .error (.cutShort (.denied (.os ⟨.nameTooLong, file.text⟩)))) ∧
    (∀ file bytes executable cause, Settings.file? layout asked = some file →
      disk.look file = .ok (some (.file bytes executable)) →
      (Settings.load reader levels disk layout asked = .error (.cutShort cause) ↔
        Settings.IsCutShort reader levels bytes cause)) ∧
    ∀ environment arguments request own problem,
      Command.Request.read arguments = .ok request →
      Layout.ofEnvironment environment.bindings = .ok own →
      ((own.makeDirectories environment.levels.make).runIn (.start disk)).1 = .ok () →
      request.settings environment own (Command.preparedDisk environment disk) =
        .error (.reported problem) →
      Command.run environment arguments disk =
        ⟨.status 1, "", Command.Usage.lines (([⟨.error, problem.message⟩].filter
          request.loudness.shows).map Command.noticeLine),
          Command.preparedDisk environment disk⟩ := by
  refine ⟨?_, fun _ => Settings.load_of_isOverlong,
    fun _ _ _ _ => Settings.load_cutShort_iff, ?_⟩
  · have gives := Settings.gives_load reader levels disk layout asked
    cases loaded : Settings.load reader levels disk layout asked with
    | ok settings => exact .inl ⟨settings, rfl⟩
    | error failure =>
      obtain ⟨file, same, may⟩ := gives.of_error loaded
      exact .inr ⟨file, failure, same, rfl, may⟩
  · intro environment arguments request own problem reads found made wrong
    rw [Command.run, reads]
    exact Command.outcome_of_reported found made wrong

/-- A format that there is none of is told in one line, and the run ends with status one. -/
theorem settings_read_or_reported_format :
    let file := Path.ofString "c.yaml"
    let disk : Disk := ⟨["home"], [(["home"], .directory),
      (["home", "c.yaml"], .file (Text.Utf8.encode "color_format: x\n".toList) false)]⟩
    let environment : Environment := .atHand [("HOME", "/home")]
    let left := Command.run environment ["--config", "c.yaml", "list"] disk
    let message := "Config `c.yaml`: invalid color_format `x`. Valid color formats are " ++
      Format.listed
    (∃ failure, Settings.load .yaml 994 disk none (some file) = .error failure ∧
      Settings.MayFail .yaml 994 disk file failure) ∧
    left.ending = .status 1 ∧ left.output = "" ∧
    left.errors = "ERROR: " ++ message ++ "\n" ∧
    left.disk = Command.preparedDisk environment disk := by
  intro file disk environment left message
  let own : Layout := ⟨Path.ofString "/home", Path.ofString "/home/.config/chromasync",
    Path.ofString "/home/.cache/chromasync"⟩
  let request : Command.Request :=
    ⟨.usual, some (.given "c.yaml"), .list false false (.given "name")⟩
  have reads : Command.Request.read ["--config", "c.yaml", "list"] = .ok request := by
    decide +kernel
  have found : Layout.ofEnvironment environment.bindings = .ok own := by
    rw [Layout.ofEnvironment, (by decide : Layout.ofEnvironment? environment.bindings = some own)]
  obtain ⟨⟨⟩, made⟩ := isOk_iff.mp (by decide +kernel :
    ((own.makeDirectories environment.levels.make).runIn (.start disk)).1.isOk = true)
  obtain ⟨problem, wrong, same⟩ := exists_problem_of_told (by decide +kernel :
    outcomeTold (request.settings environment own (Command.preparedDisk environment disk)) =
      .error (.reported message))
  have fails : (Settings.load .yaml 994 disk none (some file)).isOk = false := by decide +kernel
  obtain ⟨settled, _, _, reported⟩ := settings_read_or_reported .yaml 994 disk none (some file)
  have ends : left = _ := reported environment _ request own problem reads found made wrong
  rw [same] at ends
  have line : Command.Usage.lines (([⟨.error, message⟩].filter request.loudness.shows).map
      Command.noticeLine) = "ERROR: " ++ message ++ "\n" := by decide +kernel
  -- All that has to be computed is known, and nothing else should compute with this disk.
  clear_value left disk environment
  constructor
  · obtain ⟨settings, loaded⟩ | ⟨_, failure, chosen, failed, may⟩ := settled
    · rw [loaded] at fails
      cases fails
    · cases chosen
      exact ⟨failure, failed, may⟩
  · subst ends
    exact ⟨rfl, rfl, line, rfl⟩

/-- A byte that spells no text cuts the reading of a file short, and so the run, untold. -/
theorem settings_not_reported_of_byte :
    let file := Path.ofString "c.yaml"
    let disk : Disk := ⟨["home"], [(["home"], .directory),
      (["home", "c.yaml"], .file [0xFF] false)]⟩
    let environment : Environment := .atHand [("HOME", "/home")]
    let left := Command.run environment ["--config", "c.yaml", "list"] disk
    let cause : Interruption := .notUtf8 ⟨0, [0xFF], .invalidStart⟩
    Settings.load .yaml 994 disk none (some file) = .error (.cutShort cause) ∧
    left.ending = .cutShort cause ∧ left.errors = "" ∧
    cause.message = "'utf-8' codec can't decode byte 0xff in position 0: invalid start byte" := by
  intro file disk environment left cause
  have cut : outcomeTold (Settings.load .yaml 994 disk none (some file)) =
      .error (.cutShort cause) := by decide +kernel
  exact ⟨cutShort_of_told cut, by decide +kernel, by decide +kernel, by decide +kernel⟩

end Themer
