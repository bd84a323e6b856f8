import Themer.Proofs.Messages
import Themer.Proofs.Script.Judged
import Themer.Proofs.Scheme.Listed
import Themer.Proofs.Settings.Reported
import Themer.Proofs.Command.Gathered

/-!
The line that a run ends with for a problem: what may break it, and where that comes from.

A message breaks only with a text that it takes over, and such a text comes from the environment,
from the request, from what a file holds in the place of a name, a color or a format, from what the
reader of settings says of a file, or from what a script complains of.
-/

namespace Themer

open Text (IsOneLine)

namespace Scheme

/-- The name that a fault is told with, for the faults of one color. -/
def Fault.IsOfNames : Fault → Prop
  | .notText name _ | .notColor name _ | .missing name => name ∈ names
  | .notJson _ _ | .repeatedName _ | .notObject | .unknownName _ => True

/-- A member is at fault with a name of a color, or with a name that is none. -/
theorem gives_readMember (name : String) (value : Datum) :
    Gives (fun _ => True) Fault.IsOfNames (readMember name value) := by
  unfold readMember
  split
  · exact trivial
  · rename_i known
    -- The name is one of a color, so whatever is wrong with the value is told with that.
    have known : name ∈ names := not_not.mp known
    cases value with
    | text text =>
      dsimp only
      cases Color.read text with
      | ok color => exact trivial
      | error e => exact known
    | _ => exact known

/-- Members are at fault as one of them is. -/
theorem gives_readMembers (members : List (Datum × Datum)) :
    Gives (fun _ => True) Fault.IsOfNames (readMembers members) := by
  -- Members are read one after the other, up to the first at fault.
  induction members with
  | nil => exact trivial
  | cons member rest ih =>
    obtain ⟨key, value⟩ := member
    exact (gives_readMember key.plain value).bind fun entry _ => ih.bind fun more _ => trivial

/-- A document is at fault with a name of a color, or with something that is none. -/
theorem gives_ofDatum (document : Datum) :
    Gives (fun _ => True) Fault.IsOfNames (ofDatum document) := by
  cases document with
  | map members =>
    refine (gives_readMembers members).bind fun colors _ => ?_
    unfold complete
    split
    · -- The one that is missing was searched for among the names.
      rename_i name found
      exact List.mem_of_find?_eq_some found
    · exact trivial
  | _ => exact trivial

/-- A text is at fault with a name of a color, or with something that is none. -/
theorem isOfNames_of_read {levels : Nat} {text : String} {fault : Fault}
    (bad : read levels text = .error (.reported fault)) : fault.IsOfNames := by
  unfold read at bad
  -- What is no JSON has no name in it; the last case is the document that was read.
  split at bad
  · cases bad
    exact trivial
  · cases bad
    exact trivial
  · cases bad
  · cases bad
  · rename_i document _
    have gives := gives_ofDatum document
    cases taken : ofDatum document with
    | ok palette =>
      rw [taken] at bad
      cases bad
    | error own =>
      rw [taken] at bad gives
      cases bad
      exact gives

/-- What is wrong in a file is told with a name of a color, or with something that is none. -/
theorem isOfNames_of_ofFile {levels : Nat} {disk : Disk} {path source : Path} {fault : Fault}
    (bad : ofFile levels disk path = .error (.reported ⟨source, .content fault⟩)) :
    fault.IsOfNames := by
  unfold ofFile at bad
  split at bad
  · -- The file is read, then decoded, then parsed; only the last has a content at fault.
    obtain ⟨_, held, same⟩ := reported_of_mapError bad
    cases same
    unfold ofBytes at held
    split at held
    · cases held
    · obtain ⟨_, unread, same⟩ := reported_of_mapError held
      cases same
      exact isOfNames_of_read unread
  · cases bad
  · cases bad

end Scheme

namespace Path

/-- The path that a text spells for a user has no character that neither text nor home has. -/
theorem Lacks.expandHome {home : Path} {text : String} {c : Char} (lacks : home.Lacks c)
    (free : c ∉ text.toList) : (Path.expandHome home text).Lacks c := by
  unfold Path.expandHome
  split
  · rename_i rest spelled
    -- What follows the tilde and the slash is a part of the text.
    refine lacks.child fun inside => free ?_
    rw [String.toList_ofList] at inside
    rw [spelled]
    exact List.mem_cons_of_mem _ (List.mem_cons_of_mem _ inside)
  · exact lacks_ofString free

end Path

namespace Settings

/-- The script to run is the usual one, or the one at the path that the settings have for it. -/
theorem of_script? {settings : Settings} {layout : Layout} {script : Path}
    (named : settings.script? layout = .ok (some script)) :
    script = layout.postScript ∨ ∃ entries value, settings.scriptEntries = .ok entries ∧
      Datum.find? entries pathKey = some value ∧
      script = Path.expandHome layout.home value.plain := by
  unfold script? at named
  -- The entries must be a mapping, the script enabled, and its path is taken if it is filled.
  cases set : settings.scriptEntries with
  | error e =>
    rw [set] at named
    cases named
  | ok entries =>
    rw [set] at named
    change (if _ then _ else _) = _ at named
    split at named
    · cases named
    · cases found : Datum.find? entries pathKey with
      | none =>
        rw [found] at named
        cases named
        exact .inl rfl
      | some value =>
        rw [found] at named
        dsimp only [Option.getD_some] at named
        cases named
        split
        · exact .inr ⟨entries, value, rfl, found, rfl⟩
        · exact .inl rfl

end Settings

namespace Command

/-- The text that a value gives, if it gives one. -/
def Value.texts : Value → List String
  | .given text => [text]
  | .nothing => []

/-- The texts that a request is given, whatever they stand for. -/
def Request.texts (request : Request) : List String :=
  request.config.toList.flatMap Value.texts ++ match request.action with
    | .load scheme => [scheme]
    | .reload names _ => names.flatMap Value.texts
    | .list _ _ order => order.texts

/--
Where a text comes from that breaks the message for the problem of a run.

A variable that says where everything lies or a text of the request has more than one line itself,
or the text is part of a file that is read, or what the reader of settings says of one, or the
script complains in more than one line.
-/
inductive BrokenBy (environment : Environment) (disk : Disk) (request : Request)
    (problem : Problem) (text : String) : Prop
  | variable {name value : String} (asked : name ∈ Layout.placeVariables)
      (filled : Layout.filled? environment.bindings name = some value) (broken : ¬ IsOneLine value)
  | argument {given : String} (among : given ∈ request.texts) (broken : ¬ IsOneLine given)
  | format {layout : Layout} {file : Path}
      (bad : request.settings environment layout (preparedDisk environment disk) =
        .error (.reported problem))
      (told : problem = .setup (.settings file (.badFormat (.text text))))
  | reader {file : Path} {bytes : Text.Bytes} {complaint : Complaint}
      (held : (preparedDisk environment disk).readFile file = .ok bytes)
      (bad : environment.reader.read bytes = .error (.reported complaint))
      (told : problem = .setup (.settingsMalformed file complaint))
      (spelled : text = complaint.words)
  | member {file : Path} {fault : Scheme.Fault}
      (bad : Scheme.ofFile environment.levels.load (preparedDisk environment disk) file =
        .error (.reported ⟨file, .content fault⟩))
      (told : problem = .scheme ⟨file, .content fault⟩)
      (spelled : fault = .repeatedName text ∨ fault = .unknownName text ∨
        ∃ name ∈ Scheme.names, fault = .notColor name ⟨text⟩)
  | scriptPath {layout : Layout} {settings : Settings} {entries : List (Datum × Datum)}
      {path : String}
      (read : request.settings environment layout (preparedDisk environment disk) = .ok settings)
      (set : settings.scriptEntries = .ok entries)
      (given : Datum.find? entries Settings.pathKey = some (.text path))
      (broken : ¬ IsOneLine path)
  | complaint {script : Path} {finished : Script.Finished} {session : Session}
      {said : List Char}
      (launched : ∃ after,
        environment.launch session.disk script = .ok (.ended finished after))
      (errors : finished.errors = Text.Utf8.encode said) (failed : finished.status ≠ 0)
      (told : problem = .script (.exited script finished.status
        (Text.trim (Text.unifyBreaks said))))
      (spelled : text = String.ofList (Text.trim (Text.unifyBreaks said)))

section

variable {environment : Environment} {disk : Disk} {request : Request} {layout : Layout}
  {problem : Problem} {text : String}
  (freeEnvironment : ∀ name ∈ Layout.placeVariables,
    ∀ value ∈ Layout.filled? environment.bindings name, IsOneLine value)
  (freeRequest : ∀ given ∈ request.texts, IsOneLine given)

include freeRequest in
/-- The settings that a request asks for are those of a file that it names, or else the usual. -/
theorem load_of_settings
    (bad : request.settings environment layout disk = .error (.reported problem)) :
    ∃ asked : Option Path, (∀ path ∈ asked, path.Lacks '\n') ∧
      Settings.load environment.reader environment.levels.tell disk (some layout) asked =
        .error (.reported problem) := by
  unfold Request.settings at bad
  -- An option without its value cuts the run short, which is not to report.
  cases config : request.config with
  | none =>
    rw [config] at bad
    exact ⟨none, nofun, bad⟩
  | some value =>
    rw [config] at bad
    cases value with
    | nothing => cases bad
    | given text =>
      refine ⟨some (Path.ofString text), ?_, bad⟩
      rintro path ⟨⟩
      refine Path.lacks_ofString (freeRequest text ?_)
      simp [Request.texts, config, Value.texts]

include freeRequest in
/-- A problem with the settings takes over one line, unless a text has the place of a format. -/
theorem taken_of_settings (config : layout.configFile.Lacks '\n')
    (bad : request.settings environment layout (preparedDisk environment disk) =
      .error (.reported problem))
    (among : text ∈ problem.taken) :
    IsOneLine text ∨ BrokenBy environment disk request problem text := by
  obtain ⟨asked, plain, failed⟩ := load_of_settings freeRequest bad
  obtain ⟨file, found, e, rfl, ofFile⟩ := (Settings.gives_load _ _ _ _ _).of_error failed
  have lacks : file.Lacks '\n' := by
    -- With no file asked for, the usual one is read.
    cases asked with
    | none =>
      cases found
      exact config
    | some path =>
      cases found
      exact plain file rfl
  have line := Path.isOneLine_text_iff.mpr lacks
  -- Each fault tells the path of its file; only a bad format and a reader tell more than that.
  cases e with
  | settings own fault =>
    cases ofFile
    rcases List.mem_cons.mp among with rfl | inside
    · exact .inl line
    · cases fault with
      | badFormat value =>
        cases value with
        | text own =>
          obtain rfl : text = own := List.mem_singleton.mp inside
          exact .inr (.format bad rfl)
        | _ => cases inside
      | _ => cases inside
  | settingsMalformed own complaint =>
    cases ofFile
    simp only [Problem.taken, SetupError.taken, List.mem_cons, List.not_mem_nil,
      or_false] at among
    rcases among with rfl | spelled
    · exact .inl line
    · obtain ⟨bytes, held, bad⟩ := Settings.readFile_of_load_malformed failed
      exact .inr (.reader held bad rfl spelled)
  | noSettings | settingsUnreadable | settingsNotMapping =>
    cases ofFile
    rw [List.mem_singleton.mp among]
    exact .inl line
  | _ => cases ofFile

include freeRequest in
/-- The file of the colorscheme to build with is at a path of one line. -/
theorem lacks_of_schemeFile? {file : Path} (config : layout.configDir.Lacks '\n')
    (cache : layout.cacheDir.Lacks '\n')
    (builds : request.action.schemeFile? layout = some file) : file.Lacks '\n' := by
  cases actionIs : request.action with
  | load scheme =>
    -- It is named by the request, and lies below the directory of the user's own files.
    rw [actionIs] at builds
    cases builds
    have given : IsOneLine scheme := freeRequest scheme (by simp [Request.texts, actionIs])
    refine (config.child (by decide)).child ?_
    exact Text.isOneLine_append.mpr ⟨given, by decide⟩
  | reload names withScript =>
    -- It is the copy that the last load has kept, whatever the request names.
    rw [actionIs] at builds
    cases builds
    exact cache.child (by decide)
  | list dark light order =>
    rw [actionIs] at builds
    cases builds

/-- A problem with a colorscheme takes over one line, but for a name or a color of its file. -/
theorem taken_of_scheme {file : Path} {e : SchemeError} (lacks : file.Lacks '\n')
    (bad : Scheme.ofFile environment.levels.load (preparedDisk environment disk) file =
      .error (.reported e))
    (among : text ∈ (Problem.scheme e).taken) :
    IsOneLine text ∨ BrokenBy environment disk request (.scheme e) text := by
  obtain ⟨fault, rfl⟩ := Scheme.source_of_ofFile bad
  -- First comes the path of the file, then what the fault takes over.
  rcases List.mem_cons.mp among with rfl | inside
  · exact .inl (Path.isOneLine_text_iff.mpr lacks)
  cases fault with
  | unreadable | notUtf8 => cases inside
  | content fault =>
    have named := Scheme.isOfNames_of_ofFile bad
    -- The names of colors are words of the program.
    have known {name : String} (of : name ∈ Scheme.names) : IsOneLine name := by
      revert name
      decide
    cases fault with
    | notJson | notObject => cases inside
    | repeatedName name =>
      obtain rfl : text = name := List.mem_singleton.mp inside
      exact .inr (.member bad rfl (.inl rfl))
    | unknownName name =>
      obtain rfl : text = name := List.mem_singleton.mp inside
      exact .inr (.member bad rfl (.inr (.inl rfl)))
    | notText name value | missing name =>
      obtain rfl : text = name := List.mem_singleton.mp inside
      exact .inl (known named)
    | notColor name e =>
      -- The one fault with two texts: a name of the program, and what stands there as its color.
      rcases List.mem_cons.mp inside with rfl | ofColor
      · exact .inl (known named)
      · obtain rfl : text = e.text := List.mem_singleton.mp ofColor
        exact .inr (.member bad rfl (.inr (.inr ⟨name, named, rfl⟩)))

/-- Where a blueprint was searched for is told in one line if its name is one. -/
theorem taken_of_noBlueprint {name : String} (config : layout.configDir.Lacks '\n')
    (cache : layout.cacheDir.Lacks '\n') (line : IsOneLine name)
    (among : text ∈ (Problem.setup (.noBlueprint name (Blueprint.candidates layout name))).taken) :
    IsOneLine text := by
  -- A name is looked for in two directories and as a path of its own, and all three are told.
  simp only [Problem.taken, SetupError.taken, Blueprint.candidates, Layout.blueprintDirs,
    List.map_cons, List.map_nil, List.cons_append, List.nil_append, List.mem_cons,
    List.not_mem_nil, or_false] at among
  rcases among with rfl | rfl | rfl | rfl
  · exact line
  · exact Path.isOneLine_text_iff.mpr ((config.child (by decide)).child line)
  · exact Path.isOneLine_text_iff.mpr ((cache.child (by decide)).child line)
  · exact Path.isOneLine_text_iff.mpr (Path.lacks_ofString line)

include freeEnvironment freeRequest in
/-- A problem found early takes over one line, unless a file holds one that breaks. -/
theorem taken_of_foundEarly (found : FoundEarly environment disk request problem)
    (among : text ∈ problem.taken) :
    IsOneLine text ∨ BrokenBy environment disk request problem text := by
  -- The program's own files lie below the home and the directories that the environment names.
  have places {layout : Layout}
      (layoutIs : Layout.ofEnvironment environment.bindings = .ok layout) :=
    Layout.lacks_of_environment freeEnvironment (Layout.ofEnvironment_eq_ok_iff.mp layoutIs)
      (by decide)
  cases found with
  | noHome => cases among
  | directory layoutIs made =>
    have lacks := Layout.lacks_of_mem_directories freeEnvironment
      (Layout.ofEnvironment_eq_ok_iff.mp layoutIs) (by decide) _ made
    rw [List.mem_singleton.mp among]
    exact .inl (Path.isOneLine_text_iff.mpr lacks)
  | settings layoutIs bad =>
    exact taken_of_settings freeRequest ((places layoutIs).2.1.child (by decide)) bad among
  | schemes layoutIs =>
    have lacks := (places layoutIs).2.1.child (show '\n' ∉ "colorschemes".toList by decide)
    rw [List.mem_singleton.mp among]
    exact .inl (Path.isOneLine_text_iff.mpr lacks)
  | @scheme layout file e layoutIs builds bad =>
    obtain ⟨_, config, cache⟩ := places layoutIs
    exact taken_of_scheme (lacks_of_schemeFile? freeRequest config cache builds) bad among
  | @name layout names withScript name layoutIs reloads given =>
    obtain ⟨_, config, cache⟩ := places layoutIs
    have line : IsOneLine name := by
      refine freeRequest name ?_
      simp only [Request.texts, reloads, List.mem_append, List.mem_flatMap]
      exact .inr ⟨.given name, given, List.mem_singleton_self name⟩
    exact .inl (taken_of_noBlueprint config cache line among)

include freeEnvironment in
/-- The script is at a path of one line, unless the settings have one that breaks. -/
theorem text_of_script? {settings : Settings} {script : Path}
    (layoutIs : Layout.ofEnvironment environment.bindings = .ok layout)
    (read : request.settings environment layout (preparedDisk environment disk) = .ok settings)
    (named : settings.script? layout = .ok (some script)) :
    IsOneLine script.text ∨
      ∀ problem text, BrokenBy environment disk request problem text := by
  obtain ⟨home, config, _⟩ := Layout.lacks_of_environment freeEnvironment
    (Layout.ofEnvironment_eq_ok_iff.mp layoutIs) (by decide)
  rcases Settings.of_script? named with rfl | ⟨entries, value, set, given, rfl⟩
  · exact .inl (Path.isOneLine_text_iff.mpr (config.child (by decide)))
  by_cases line : IsOneLine value.plain
  · exact .inl (Path.isOneLine_text_iff.mpr (home.expandHome line))
  · -- What is no text is shown, and that is one line.
    cases value with
    | text own => exact .inr fun _ _ => .scriptPath read set given line
    | foreign own => exact absurd own.isOneLine_plain line
    | _ => exact absurd (Datum.isOneLine_shown _) line

include freeEnvironment in
/-- A problem with the script takes over one line, unless its path or what it says breaks. -/
theorem taken_of_failedInScript {after : Session} {e : ScriptError}
    (failed : FailedInScript environment disk request after e)
    (among : text ∈ (Problem.script e).taken) :
    IsOneLine text ∨ BrokenBy environment disk request (.script e) text := by
  obtain ⟨prepared, _, _, _, _, _, named, failed⟩ := failed
  obtain ⟨outcome, prepares, ready⟩ := runIn_prepare environment request disk
  obtain ⟨layoutIs, read⟩ := ready _ _ (congrArg Prod.fst (prepares.symm.trans prepared))
  obtain ⟨path, _, rfl, same, told⟩ := Script.reported_of_runAfter failed
  cases same
  have atPath := text_of_script? freeEnvironment layoutIs read named
  -- It was not launched, or it was and its complaint is told after its path.
  rcases told with ⟨cause, _, rfl⟩ | ⟨finished, left, launched, judged⟩
  · rw [List.mem_singleton.mp among]
    exact atPath.imp_right fun breaks => breaks _ _
  · obtain ⟨said, errors, bad, rfl⟩ := Script.reported_of_judge judged
    rcases List.mem_cons.mp among with rfl | complains
    · exact atPath.imp_right fun breaks => breaks _ _
    · exact .inr (.complaint ⟨left, launched⟩ errors bad rfl (List.mem_singleton.mp complains))

end

/-- A text that breaks the message of a run has come from somewhere. -/
theorem brokenBy_of_taken {environment : Environment} {disk : Disk} {request : Request}
    {problem : Problem} {after : Session} {text : String}
    (ended : (request.run environment).runIn (.start disk) = (.error (.reported problem), after))
    (among : text ∈ problem.taken) (broken : ¬ IsOneLine text) :
    BrokenBy environment disk request problem text := by
  by_cases freeEnvironment : ∀ name ∈ Layout.placeVariables,
      ∀ value ∈ Layout.filled? environment.bindings name, IsOneLine value
  · by_cases freeRequest : ∀ given ∈ request.texts, IsOneLine given
    · -- What is given has no break, so one in the message is from a file or from the script.
      rcases foundEarly_or_of_script ended with ⟨found, _⟩ | ⟨e, rfl, failed⟩
      · exact (taken_of_foundEarly freeEnvironment freeRequest found among).resolve_left broken
      · exact (taken_of_failedInScript freeEnvironment failed among).resolve_left broken
    · simp only [not_forall] at freeRequest
      obtain ⟨given, inside, breaks⟩ := freeRequest
      exact .argument inside breaks
  · simp only [not_forall] at freeEnvironment
    obtain ⟨name, asked, value, filled, breaks⟩ := freeEnvironment
    exact .variable asked filled breaks

/-- A file of settings that is asked for and is not there is a problem. -/
theorem settings_of_missing {environment : Environment} {request : Request} {layout : Layout}
    {disk : Disk} {text : String}
    (config : request.config = some (.given text))
    (nothing : disk.isFile (Path.ofString text) = .ok false) :
    request.settings environment layout disk =
      .error (.reported (.setup (.noSettings (Path.ofString text)))) := by
  unfold Request.settings
  rw [config]
  show Settings.load environment.reader environment.levels.tell disk (some layout)
    (some (Path.ofString text)) = _
  rw [Settings.load, nothing]

/-- A run that reports a problem ends with status one, and tells of it after all else. -/
theorem run_of_reported {environment : Environment} {arguments : List String} {disk : Disk}
    {request : Request} {problem : Problem} {after : Session}
    (asked : Request.read arguments = .ok request)
    (ended : (request.run environment).runIn (.start disk) =
      (.error (.reported problem), after)) :
    run environment arguments disk = ⟨.status 1, "", Usage.lines
      (((after.notices ++ [(⟨.error, problem.message⟩ : Notice)]).filter
        request.loudness.shows).map noticeLine), after.disk⟩ := by
  have ran : (request.run environment).run.run ⟨disk, ⟨[]⟩, []⟩ =
      (.error (.reported problem), after) := ended
  -- The notices of the run come first, and the problem is the last of them.
  simp only [run, asked, Request.outcome, ran]

/-- A script that exits with a status other than zero is reported with what it complains of. -/
theorem Gathers.run_of_exited {environment : Environment} {disk : Disk} {request : Request}
    {batch : Batch} {begun : Session} {outputs : List Path} {finished : Script.Finished}
    (built : Session) (script : Path) (printed said : List Char)
    (gathers : Gathers environment disk request batch begun) (scripted : batch.withScript = true)
    (ran : (Blueprint.buildAll batch.defaults batch.sources).runIn begun = (.ok outputs, built))
    (named : batch.settings.script? batch.layout = .ok (some script))
    (finishes : Script.Finishes environment script built finished)
    (output : finished.output = Text.Utf8.encode printed)
    (errors : finished.errors = Text.Utf8.encode said) (bad : finished.status ≠ 0) :
    ∃ after, (request.run environment).runIn (.start disk) =
        (.error (.reported (.script (.exited script finished.status
          (Text.trim (Text.unifyBreaks said))))),
          { built with
            disk := after
            notices := built.notices ++ [⟨.debug, s!"Running {script.text}"⟩] }) := by
  obtain ⟨isThere, left, launched⟩ := finishes
  -- Both streams are texts, so it is the status that decides.
  have judged : Script.judge script finished = .error (.reported (.exited script finished.status
      (Text.trim (Text.unifyBreaks said)))) := by
    rw [Script.judge, Text.Utf8.decode_eq_ok_iff.mpr output, Text.Utf8.decode_eq_ok_iff.mpr errors]
    simp only [bad, if_false]
  have ended := Script.runIn_runAfter environment script built
  rw [isThere] at ended
  dsimp only at ended
  rw [launched] at ended
  dsimp only at ended
  rw [judged] at ended
  refine ⟨left, gathers.run_of_error ?_⟩
  rw [Batch.finish, Work.runIn_bind_of_ok ran, if_pos scripted, scriptOf, named]
  exact ended

end Command

/--
The last line for a problem that a run reports is one line exactly where each text is one that the
message takes over.

A text of more than one line is brought in by a variable, by the request, by what stands in a file
as a name, as a color, as a format or as the path of the script, by the reader of settings in what
it says of a file, or by a script that is launched, exits with a status other than zero and
complains in more than one line.
-/
theorem problem_told_in_one_line_iff (environment : Environment)
    (arguments : List String) (disk : Disk) (request : Command.Request) (problem : Problem)
    (after : Session) (asked : Command.Request.read arguments = .ok request)
    (ended : (request.run environment).runIn (.start disk) =
      (.error (.reported problem), after)) :
    let left := Command.run environment arguments disk
    let last : Notice := ⟨.error, problem.message⟩
    left.ending = .status 1 ∧ left.output = "" ∧
    left.errors = Command.Usage.lines
      (((after.notices ++ [last]).filter request.loudness.shows).map Command.noticeLine) ∧
    (IsOneLine (Command.noticeLine last) ↔ ∀ text ∈ problem.taken, IsOneLine text) ∧
    ∀ text ∈ problem.taken, ¬ IsOneLine text →
      Command.BrokenBy environment disk request problem text := by
  intro left last
  have leftIs : left = _ := Command.run_of_reported asked ended
  rw [leftIs]
  refine ⟨rfl, rfl, rfl, ?_, fun text => Command.brokenBy_of_taken ended⟩
  have label : IsOneLine "ERROR: " := by decide
  rw [← Problem.isOneLine_message_iff]
  show IsOneLine ("ERROR: " ++ problem.message) ↔ _
  rw [Text.isOneLine_append]
  exact and_iff_right label

/-- A file of settings that is asked for by a name of two lines is told of in two lines. -/
theorem problem_told_in_one_line_iff_argument :
    let disk : Disk := ⟨["home"], [(["home"], .directory)]⟩
    let environment : Environment := .atHand [("HOME", "/home")]
    let request : Command.Request :=
      ⟨.usual, some (.given "a\nb"), .list false false (.given "name")⟩
    let problem : Problem := .setup (.noSettings (Path.ofString "a\nb"))
    let left := Command.run environment ["--config", "a\nb", "list"] disk
    Command.Request.read ["--config", "a\nb", "list"] = .ok request ∧
      left.ending = .status 1 ∧ left.errors = "ERROR: Config file `a\nb` doesn't exist\n" ∧
      ¬ IsOneLine (Command.noticeLine ⟨.error, problem.message⟩) ∧
      Command.BrokenBy environment disk request problem "a\nb" := by
  intro disk environment request problem left
  have asked : Command.Request.read ["--config", "a\nb", "list"] = .ok request := by
    decide +kernel
  let layout : Layout := ⟨Path.ofString "/home", Path.ofString "/home/.config/chromasync",
    Path.ofString "/home/.cache/chromasync"⟩
  have layoutIs : Layout.ofEnvironment environment.bindings = .ok layout :=
    Layout.ofEnvironment_eq_ok_iff.mpr (by decide)
  have made : ((layout.makeDirectories environment.levels.make).runIn (.start disk)).1.toOption =
      some () := by
    decide +kernel
  have nothing : ((Command.preparedDisk environment disk).isFile
      (Path.ofString "a\nb")).toOption = some false := by decide +kernel
  have missing : request.settings environment layout (Command.preparedDisk environment disk) =
      .error (.reported problem) := Command.settings_of_missing rfl (ok_of_toOption nothing)
  have ended : (request.run environment).runIn (.start disk) =
      (.error (.reported problem), .start (Command.preparedDisk environment disk)) := by
    rw [Command.run_eq]
    refine Work.runIn_bind_of_error ?_ _
    rw [Command.runIn_prepare_of_made layoutIs (ok_of_toOption made), missing]
    rfl
  obtain ⟨status, _, errors, exactly, broken⟩ := problem_told_in_one_line_iff environment
    ["--config", "a\nb", "list"] disk request problem _ asked ended
  have taken : problem.taken = ["a\nb"] := by decide +kernel
  have breaks : ¬ IsOneLine "a\nb" := by decide
  refine ⟨asked, status, errors.trans (by decide +kernel), ?_, broken _ ?_ breaks⟩
  · rw [exactly, taken]
    exact fun line => breaks (line _ (List.mem_singleton_self _))
  · rw [taken]
    exact List.mem_singleton_self _

/-- A script that complains in two lines is told of in two lines. -/
theorem complaint_told_in_two_lines :
    let config : Location := ["home", ".config", "chromasync"]
    let cache : Location := ["home", ".cache", "chromasync"]
    let night : Palette := ⟨Scheme.names.map fun name => (name, ⟨17, 34, 51⟩)⟩
    let content := Text.Utf8.encode "#!/bin/sh\nprintf 'a\\nb\\n' >&2\nexit 3\n".toList
    let disk : Disk := ⟨["home"], [(["home"], .directory), (["home", ".config"], .directory),
      (config, .directory), (config ++ ["colorschemes"], .directory),
      (config ++ ["blueprints"], .directory),
      (config ++ ["chromasync-post.sh"], .file content true), (["home", ".cache"], .directory),
      (cache, .directory),
      (cache ++ ["current.json"], .file (Text.Utf8.encode (Scheme.fileText night)) false),
      (cache ++ ["blueprints"], .directory), (cache ++ ["out"], .directory)]⟩
    let environment : Environment := .atHand [("HOME", "/home")]
    let request : Command.Request := ⟨.usual, none, .reload [] true⟩
    let script := Path.ofString "/home/.config/chromasync/chromasync-post.sh"
    let problem : Problem := .script (.exited script 3 "a\nb".toList)
    let left := Command.run environment ["reload"] disk
    Command.Request.read ["reload"] = .ok request ∧
      ((request.run environment).runIn (.start disk)).1 = .error (.reported problem) ∧
      ¬ IsOneLine problem.message ∧ left.ending = .status 1 ∧
      left.errors = "INFO: Built 0 blueprint(s), 0 failed\nERROR: " ++
        "`/home/.config/chromasync/chromasync-post.sh` exited with status 3: a\nb\n" := by
  intro config cache night content disk environment request script problem left
  have asked : Command.Request.read ["reload"] = .ok request := by decide +kernel
  let layout : Layout := ⟨Path.ofString "/home", Path.ofString "/home/.config/chromasync",
    Path.ofString "/home/.cache/chromasync"⟩
  have layoutIs : Layout.ofEnvironment environment.bindings = .ok layout :=
    Layout.ofEnvironment_eq_ok_iff.mpr (by decide)
  have seen : ∀ directory ∈ layout.directories,
      (disk.look directory).toOption = some (some .directory) := by decide +kernel
  have read : ((request.settings environment layout disk).toOption.map fun settings =>
      (settings.script? layout).toOption) = some (some (some script)) := by decide +kernel
  have whole : night.IsWhole := ⟨by decide, by decide, by decide⟩
  have loaded : Scheme.ofFile environment.levels.load disk layout.currentScheme = .ok night :=
    Scheme.ofFile_of_saved (by decide) whole (Disk.readFile_eq_ok_iff.mpr
      ⟨by decide, cache ++ ["current.json"], by decide +kernel, rfl⟩)
  have none : ((Blueprint.discover layout.blueprintDirs).runIn ⟨disk, night, []⟩).1.toOption =
      some [] := by decide +kernel
  have isThere : (disk.isThere script).toOption = some true := by decide +kernel
  have ran : ∃ left, environment.launch disk script =
      .ok (.ended ⟨3, [], [0x61, 0x0A, 0x62, 0x0A]⟩ left) :=
    Script.exists_ended_of_finished? (by decide +kernel)
  have broken : ¬ IsOneLine problem.message := by decide +kernel
  -- The rest follows from what is known of the tree, and nothing should compute with it.
  clear_value disk
  obtain ⟨settings, settingsAre, isSet⟩ := exists_ok_of_map_toOption read
  obtain ⟨later, launched⟩ := ran
  have gathers := Command.gathers_of_reload layoutIs
    (fun _ among => ok_of_toOption (seen _ among)) settingsAre loaded (ok_of_toOption none)
  let built : Session := ⟨disk, night, [⟨.info, "Built 0 blueprint(s), 0 failed"⟩]⟩
  obtain ⟨after, ended⟩ := gathers.run_of_exited built script [] "a\nb\n".toList rfl rfl
    (ok_of_toOption isSet) ⟨ok_of_toOption isThere, later, launched⟩ rfl (by decide +kernel)
    (by decide)
  have leftIs : left = _ := Command.run_of_reported asked ended
  refine ⟨asked, congrArg Prod.fst ended, broken, ?_, ?_⟩
  · rw [leftIs]
  · rw [leftIs]
    dsimp only [built]
    decide +kernel

end Themer
