import Themer.Proofs.AtHome
import Themer.Proofs.Script.Judged

/-!
Which file runs when a script is launched: the one that was seen at its path, or another one.

A path whose text has no slash in it is taken for the name of a program, which is searched for.
-/

namespace Themer

namespace Path

variable {path : Path}

/-- A path of one name at most that starts nowhere in particular. -/
def IsLone (path : Path) : Prop :=
  path.anchor = .here ∧ path.parts.length ≤ 1

instance (path : Path) : Decidable path.IsLone :=
  inferInstanceAs (Decidable (_ ∧ _))

/-- The text of a path has a slash in it unless the path is a lone one. -/
theorem slash_mem_text_iff (clean : path.IsClean) : '/' ∈ path.text.toList ↔ ¬ path.IsLone := by
  obtain ⟨anchor, parts⟩ := path
  -- A root is written as a slash itself.
  cases anchor with
  | root | doubleRoot => simp [IsLone, text, Anchor.text]
  | here =>
    -- With one name there is nothing to put a slash between, and a clean name has none in it.
    rcases parts with _ | ⟨name, _ | ⟨second, rest⟩⟩
    · simp [IsLone, text]
    · have whole := (clean name (by simp)).2
      simp [IsLone, text, Anchor.text, whole]
    · simp [IsLone, text, Anchor.text, String.intercalate_cons_cons]

/-- What a text spells starts nowhere in particular if neither it does nor where it is seen. -/
theorem anchor_child_eq_here_iff {text : String} :
    (path.child text).anchor = .here ↔ path.anchor = .here ∧ (ofString text).anchor = .here := by
  unfold child join
  split
  · rename_i here
    simp [here]
  · rename_i rooted
    exact iff_of_false rooted fun both => rooted both.2

/-- A text that begins with a slash has no tilde in front. -/
theorem expandHome_of_slash {text : String} (slash : text.toList.head? = some '/') :
    expandHome path text = ofString text := by
  unfold expandHome
  split
  · rename_i spelled
    rw [spelled] at slash
    cases slash
  · rfl

/-- Every text spells a clean path, be it with a tilde. -/
theorem isClean_expandHome (clean : path.IsClean) (text : String) :
    (expandHome path text).IsClean := by
  unfold expandHome
  split
  · exact isClean_child clean _
  · exact isClean_ofString text

end Path

namespace Layout

variable {bindings : Script.Variables} {layout : Layout}

/-- The usual script lies in a directory that the environment asks for, so it is no lone path. -/
theorem not_isLone_postScript (asked : ofEnvironment? bindings = some layout) :
    ¬ layout.postScript.IsLone := by
  obtain ⟨text, _, rfl⟩ := Option.map_eq_some_iff.mp asked
  -- Below whatever directory there is, the program adds two names of its own.
  have app : Path.IsCleanName appName := by decide
  have script : Path.IsCleanName postScriptName := by decide
  rintro ⟨_, short⟩
  simp [postScript, Path.child_of_isCleanName _ app, Path.child_of_isCleanName _ script,
    Path.entry] at short

end Layout

namespace Script

open Themer.Text (Bytes)

variable {environment : Environment} {disk : Disk} {script : Path} {session : Session}
  {content : Bytes}

/-- A path that is no lone one is launched as the file that it leads to. -/
theorem launch_of_not_isLone (environment : Environment) (clean : script.IsClean)
    (other : ¬ script.IsLone) (there : disk.look script = .ok (some (.file content true))) :
    environment.launch disk script =
      environment.system.runFile disk environment.bindings script.text content := by
  have slash : script.text.toList.contains '/' = true := by
    simpa using (Path.slash_mem_text_iff clean).mpr other
  -- What is seen at the path is at the place where it is looked for to be run.
  have held : executable disk script = .ok content := by
    obtain ⟨_, place, leads, held⟩ := Disk.look_eq_some_iff.mp there
    rw [executable, Disk.place?_eq_some_iff.mp leads, Disk.spotAt, held]
  rw [Environment.launch, System.launch, if_pos slash, System.runAt, held]

/-- A lone path is searched for as a program, even if a file is seen at it. -/
theorem launch_of_isLone (environment : Environment) (disk : Disk) (clean : script.IsClean)
    (lone : script.IsLone) :
    environment.launch disk script =
      runFirst (environment.system.runIn disk environment.bindings script.text)
        (searchPath environment.bindings) := by
  have plain : script.text.toList.contains '/' = false := by
    simpa using fun slash => (Path.slash_mem_text_iff clean).mp slash lone
  rw [Environment.launch, System.launch, plain]
  rfl

/-- A directory has nothing under a name that the system would run, not even one of its own. -/
def LacksIn (environment : Environment) (disk : Disk) (name directory : String) : Prop :=
  ∃ cause, environment.system.runIn disk environment.bindings name directory = .error cause ∧
    Disk.isAbsence cause = true

/-- Where no directory has anything under a name, nothing is launched by it. -/
theorem runFirst_of_lacksIn {name : String} {directories : List String}
    (lacks : ∀ directory ∈ directories, LacksIn environment disk name directory) :
    ∃ cause, runFirst (environment.system.runIn disk environment.bindings name) directories =
        .error cause ∧ Disk.isAbsence cause = true := by
  -- Each directory fails with an absence, so that the search goes on to the next.
  induction directories with
  | nil => exact ⟨.notFound, rfl, rfl⟩
  | cons directory rest ih =>
    rw [List.forall_mem_cons] at lacks
    obtain ⟨cause, here, absent⟩ := lacks.1
    obtain ⟨later, failed, absentToo⟩ := ih lacks.2
    -- Whichever of the two causes is told, it is an absence.
    rw [runFirst, here, failed]
    dsimp only
    split
    · exact ⟨later, rfl, absentToo⟩
    · exact ⟨cause, rfl, absent⟩

/--
The file at a path runs after a batch, and whatever becomes of it is waited for.

Its end is judged, and what it did to the tree stays.
-/
def RunsItself (environment : Environment) (script : Path) (content : Bytes) (session : Session) :
    Prop :=
  let told : Session :=
    { session with notices := session.notices ++ [⟨.debug, s!"Running {script.text}"⟩] }
  ∃ ran, environment.system.runFile session.disk environment.bindings script.text content =
      .ok ran ∧
    (runAfter environment (some script)).runIn session = match ran with
      | .ended finished disk =>
        ((judge script finished).mapError (·.map .script), { told with disk })
      | .endless => (.error (.cutShort .endless), told)

/-- A script that is seen and can be run is the one that runs, unless its path is a lone one. -/
theorem runsItself_of_not_isLone (environment : Environment) (clean : script.IsClean)
    (other : ¬ script.IsLone)
    (there : session.disk.look script = .ok (some (.file content true)))
    (has : environment.system.HasInterpreter session.disk content) :
    RunsItself environment script content session := by
  -- With an interpreter it is run, and then launching it as itself cannot fail.
  obtain ⟨ran, runs⟩ :=
    environment.system.exists_runFile has environment.bindings script.text
  refine ⟨ran, runs, ?_⟩
  rw [runIn_runAfter, Disk.isThere_eq_true_iff.mpr ⟨_, there⟩]
  dsimp only
  rw [launch_of_not_isLone environment clean other there, runs]
  cases ran <;> rfl

/-- A script that has run is never said not to be launched. -/
theorem RunsItself.ne_notLaunched (runs : RunsItself environment script content session)
    (path : Path) (e : OsError) :
    ((runAfter environment (some script)).runIn session).1 ≠
      .error (.reported (.script (.notLaunched path e))) := by
  obtain ⟨ran, _, ends⟩ := runs
  rw [ends]
  cases ran with
  | endless => exact nofun
  | ended finished disk =>
    -- All that a script is judged to is told of its end.
    intro same
    obtain ⟨own, judged, isOwn⟩ := reported_of_mapError same
    obtain ⟨said, _, _, rfl⟩ := reported_of_judge judged
    cases isOwn

/-- A script at a lone path is said not to be launched where the search finds nothing. -/
theorem notLaunched_of_isLone (clean : script.IsClean) (lone : script.IsLone)
    (isThere : session.disk.isThere script = .ok true)
    (lacks : ∀ directory ∈ searchPath environment.bindings,
      LacksIn environment session.disk script.text directory) :
    ∃ cause, Disk.isAbsence cause = true ∧
      ((runAfter environment (some script)).runIn session).1 =
        .error (.reported (.script (.notLaunched script ⟨cause, script.text⟩))) := by
  obtain ⟨cause, failed, absent⟩ := runFirst_of_lacksIn lacks
  refine ⟨cause, absent, ?_⟩
  rw [runIn_runAfter, isThere]
  dsimp only
  rw [launch_of_isLone environment session.disk clean lone, failed]

end Script

namespace Settings

variable {bindings : Script.Variables} {layout : Layout}

/-- The script is at a clean path, and at a lone one only if the settings spell it so. -/
theorem scriptAt_of_environment (asked : Layout.ofEnvironment? bindings = some layout)
    (path : Option String) :
    (scriptAt layout path).IsClean ∧ ((scriptAt layout path).IsLone →
      ∃ text, path = some text ∧ text.toList.head? ≠ some '/' ∧
        (layout.home.anchor ≠ .here → ∀ rest, text ≠ "~/" ++ rest)) := by
  obtain ⟨home, config⟩ := Layout.isClean_of_environment asked
  have usual : layout.postScript.IsClean ∧ (layout.postScript.IsLone → False) :=
    ⟨Path.isClean_child config _, Layout.not_isLone_postScript asked⟩
  cases path with
  | none => exact usual.imp_right fun never lone => (never lone).elim
  | some text =>
    unfold scriptAt
    dsimp only
    split
    · exact usual.imp_right fun never lone => (never lone).elim
    · -- A root in the text or in the home directory is one in the path, which is lone without one.
      refine ⟨Path.isClean_expandHome home text, fun lone => ⟨text, rfl, fun slash => ?_, ?_⟩⟩
      · rw [Path.expandHome_of_slash slash] at lone
        exact Path.anchorOf_eq_here_iff.mp lone.1 slash
      · rintro rooted rest rfl
        rw [Path.expandHome_tilde] at lone
        exact rooted (Path.anchor_child_eq_here_iff.mp lone.1).1

end Settings

/--
A script that is there, may be run and has a valid interpreter, on any system.

It is the one that runs, unless the text of its path has no slash: then the search for a program
of this name decides, and where that finds nothing, the script is said not to be launched.
The text has no slash for a single name, with or without a dot in front, which the settings spell.
The usual script is never at such a path, nor is one at a path that starts at a root, or with a
tilde if the home directory does.
-/
theorem script_seen_is_launched_unless_lone (environment : Environment) (layout : Layout)
    (settings : Settings) (format : Format) (path : Option String) (session : Session)
    (content : Text.Bytes)
    (asked : Layout.ofEnvironment? environment.bindings = some layout)
    (fits : settings.Fits format true path)
    (there : session.disk.look (Settings.scriptAt layout path) = .ok (some (.file content true)))
    (has : environment.system.HasInterpreter session.disk content) :
    let script := Settings.scriptAt layout path
    let ended := ((Script.runAfter environment (some script)).runIn session).1
    settings.script? layout = .ok (some script) ∧
    (¬ script.IsLone → Script.RunsItself environment script content session ∧
      ∀ e, ended ≠ .error (.reported (.script (.notLaunched script e)))) ∧
    (script.IsLone →
      environment.launch session.disk script =
        Script.runFirst (environment.system.runIn session.disk environment.bindings script.text)
          (Script.searchPath environment.bindings) ∧
      ((∀ directory ∈ Script.searchPath environment.bindings,
          Script.LacksIn environment session.disk script.text directory) →
        ∃ cause, Disk.isAbsence cause = true ∧
          ended = .error (.reported (.script (.notLaunched script ⟨cause, script.text⟩)))) ∧
      ∃ text, path = some text ∧ text.toList.head? ≠ some '/' ∧
        (layout.home.anchor ≠ .here → ∀ rest, text ≠ "~/" ++ rest)) := by
  intro script ended
  obtain ⟨clean, spelled⟩ := Settings.scriptAt_of_environment asked path
  refine ⟨?_, fun other => ?_, fun lone => ⟨?_, fun lacks => ?_, spelled lone⟩⟩
  · rw [fits.script?_eq, if_pos rfl]
  · have runs := Script.runsItself_of_not_isLone environment clean other there has
    exact ⟨runs, runs.ne_notLaunched script⟩
  · exact Script.launch_of_isLone environment session.disk clean lone
  · exact Script.notLaunched_of_isLone clean lone
      (Disk.isThere_eq_true_iff.mpr ⟨_, there⟩) lacks

/-- One script at two paths: with a tilde it runs, and with a dot in front it is not launched. -/
theorem script_seen_is_launched_unless_lone_twice :
    let environment : Environment := .atHand [("HOME", "/home/u")]
    let content := Text.Utf8.encode "#!/bin/sh\nexit 0\n".toList
    let disk : Disk := ⟨["home", "u"], [(["home"], .directory), (["home", "u"], .directory),
      (["home", "u", "post.sh"], .file content true)]⟩
    let session : Session := ⟨disk, ⟨[]⟩, []⟩
    Script.RunsItself environment (Path.ofString "/home/u/post.sh") content session ∧
    ∃ cause, Disk.isAbsence cause = true ∧
      ((Script.runAfter environment (some (Path.ofString "./post.sh"))).runIn session).1 =
        .error (.reported
          (.script (.notLaunched (Path.ofString "post.sh") ⟨cause, "post.sh"⟩))) := by
  intro environment content disk session
  let layout : Layout := ⟨Path.ofString "/home/u", Path.ofString "/home/u/.config/chromasync",
    Path.ofString "/home/u/.cache/chromasync"⟩
  have asked : Layout.ofEnvironment? environment.bindings = some layout := by decide
  let settings (text : String) : Settings := ⟨[(Settings.formatKey, .text Format.hashed.name),
    (Settings.scriptKey, .map [(Settings.enabledKey, .flag true),
      (Settings.pathKey, .text text)])]⟩
  have fits (text : String) : (settings text).Fits .hashed true (some text) :=
    ⟨rfl, _, rfl, rfl, rfl⟩
  have has : environment.system.HasInterpreter disk content := by
    have named : Script.interpreter? content = some ⟨"/bin/sh", ""⟩ := by decide +kernel
    have runs : Script.Interpreter.runner? ⟨"/bin/sh", ""⟩ = some (.shell "") := by
      decide +kernel
    exact Script.NamesInterpreter.shell named runs
  have lacks : ∀ directory ∈ Script.searchPath environment.bindings,
      Script.LacksIn environment disk "post.sh" directory := by
    have usual : Script.searchPath environment.bindings = ["/bin", "/usr/bin"] := by
      decide +kernel
    have inBin : Script.LacksIn environment disk "post.sh" "/bin" := ⟨.notFound, rfl, rfl⟩
    have inUsrBin : Script.LacksIn environment disk "post.sh" "/usr/bin" := ⟨.notFound, rfl, rfl⟩
    rw [usual]
    simp [inBin, inUsrBin]
  have atHome : Settings.scriptAt layout (some "~/post.sh") = Path.ofString "/home/u/post.sh" ∧
      ¬ (Path.ofString "/home/u/post.sh").IsLone ∧
      disk.look (Path.ofString "/home/u/post.sh") = .ok (some (.file content true)) := by
    decide +kernel
  have here : Settings.scriptAt layout (some "./post.sh") = Path.ofString "post.sh" ∧
      (Path.ofString "post.sh").IsLone ∧
      disk.look (Path.ofString "post.sh") = .ok (some (.file content true)) := by
    decide +kernel
  have dropped : Path.ofString "./post.sh" = Path.ofString "post.sh" := by decide
  have text : (Path.ofString "post.sh").text = "post.sh" := by decide
  have runs := script_seen_is_launched_unless_lone environment layout (settings "~/post.sh")
    .hashed (some "~/post.sh") session content asked (fits _)
  have fails := script_seen_is_launched_unless_lone environment layout (settings "./post.sh")
    .hashed (some "./post.sh") session content asked (fits _)
  rw [atHome.1] at runs
  rw [here.1] at fails
  obtain ⟨_, ends, _⟩ := (fails here.2.2 has).2.2 here.2.1
  obtain ⟨cause, absent, ends⟩ := ends (by rw [text]; exact lacks)
  rw [text] at ends
  rw [dropped]
  exact ⟨((runs atHome.2.2 has).2.1 atHome.2.1).1, cause, absent, ends⟩

/-- A script in the working directory is seen and could run, but is not launched by a dot. -/
theorem script_seen_is_not_launched_by_dot :
    let environment : Environment := .atHand [("HOME", "/home/u")]
    let layout : Layout := ⟨Path.ofString "/home/u", Path.ofString "/home/u/.config/chromasync",
      Path.ofString "/home/u/.cache/chromasync"⟩
    let settings : Settings := ⟨[(Settings.formatKey, .text Format.hashed.name),
      (Settings.scriptKey, .map [(Settings.enabledKey, .flag true),
        (Settings.pathKey, .text "./p.sh")])]⟩
    let content := Text.Utf8.encode "#!/bin/sh\nexit 0\n".toList
    let disk : Disk := ⟨["home", "u"], [(["home"], .directory), (["home", "u"], .directory),
      (["home", "u", "p.sh"], .file content true)]⟩
    let session : Session := ⟨disk, ⟨[]⟩, []⟩
    let script := Path.ofString "./p.sh"
    Layout.ofEnvironment? environment.bindings = some layout ∧
    settings.script? layout = .ok (some script) ∧
    disk.look script = .ok (some (.file content true)) ∧
    environment.system.HasInterpreter disk content ∧
    ∃ e, ((Script.runAfter environment (some script)).runIn session).1 =
      .error (.reported (.script (.notLaunched script e))) := by
  intro environment layout settings content disk session script
  have asked : Layout.ofEnvironment? environment.bindings = some layout := by decide
  have chosen : settings.script? layout = .ok (some script) := by decide +kernel
  have there : disk.look script = .ok (some (.file content true)) := by decide +kernel
  have named : Script.interpreter? content = some ⟨"/bin/sh", ""⟩ := by decide +kernel
  have runs : Script.Interpreter.runner? ⟨"/bin/sh", ""⟩ = some (.shell "") := by decide +kernel
  have fails : (environment.launch disk script).toOption.isNone = true := by decide +kernel
  refine ⟨asked, chosen, there, Script.NamesInterpreter.shell named runs, ?_⟩
  rw [Script.runIn_runAfter, Disk.isThere_eq_true_iff.mpr ⟨_, there⟩]
  dsimp only
  cases launched : environment.launch session.disk script with
  | error cause => exact ⟨_, rfl⟩
  | ok ran =>
    rw [launched] at fails
    cases fails

end Themer
