import Themer.Proofs.Command.Gathered
import Themer.Proofs.Text.OneLine

/-!
The directories of the program: all of them are made, or it is reported which one is not.

It is not reported of one that lies in more missing directories than there are levels left.
However it ends, everything that was there stays, and only directories that were called for are new.
-/

namespace Themer

namespace Layout

variable {bindings : Script.Variables} {layout : Layout}

/-- Whatever comes of making some directories, what is new are these and those they lie in. -/
theorem grownAt_of_makeEach (levels : Nat) (directories : List Path) (session : Session) :
    Disk.GrownAt (fun path => ∃ directory ∈ directories, path.Begins directory) session.disk
      ((makeEach levels directories).runIn session).2.disk := by
  -- Each directory is made in the tree that those before it have left.
  induction directories generalizing session with
  | nil => exact .refl _ _
  | cons directory rest ih =>
    have first := (Disk.grownAt_of_ensurePath session.disk levels directory).mono
      fun path begins => (⟨directory, List.mem_cons_self, begins⟩ :
        ∃ other ∈ directory :: rest, path.Begins other)
    rw [runIn_makeEach_cons]
    cases ensured : session.disk.ensurePath levels directory with
    | mk made disk =>
      rw [ensured] at first
      cases made with
      | ok done =>
        -- What the others call for is called for by all, so the two growths are one.
        refine first.trans ((ih { session with disk }).mono ?_)
        rintro path ⟨other, among, begins⟩
        exact ⟨other, List.mem_cons_of_mem _ among, begins⟩
      | error denial => cases denial <;> exact first

/--
The directories that an environment asks for are all made, or one that cannot be is reported.

Only one that lies in more missing directories than there are levels left is not reported, and it is
still missing then, with all of these.
Once they are made, to make them again succeeds and changes nothing.
However it ends, all that was there is as it was, and what is new is a directory, where one of the
six paths leads or one that it begins with.
-/
theorem directories_made_reported_or_too_deep (levels : Nat) (free : IsFreeOfNul bindings)
    (asked : ofEnvironment bindings = .ok layout) (session : Session) :
    let outcome := ((layout.makeDirectories levels).runIn session).1
    let after := ((layout.makeDirectories levels).runIn session).2
    ((outcome = .ok () ∧
        (∀ directory ∈ layout.directories, after.disk.look directory = .ok (some .directory)) ∧
        (layout.makeDirectories levels).runIn after = (.ok (), after)) ∨
      ∃ directory ∈ layout.directories,
        (∃ e, outcome = .error (.reported (.setup (.directoryNotMade directory e)))) ∨
        after.disk.IsTooDeep levels directory ∧
          outcome = .error (.cutShort (.denied (.tooDeep ⟨.call⟩)))) ∧
    after = { session with disk := after.disk } ∧
    after.disk.workDir = session.disk.workDir ∧
    (∀ place entry, session.disk.entry? place = some entry →
      after.disk.entry? place = some entry) ∧
    ∀ place, session.disk.entry? place = none → after.disk.entry? place ≠ none →
      after.disk.entry? place = some .directory ∧
        ∃ path, (∃ directory ∈ layout.directories, path.Begins directory) ∧
          after.disk.place? path = some place := by
  intro outcome after
  have grown := grownAt_of_makeEach levels layout.directories session
  refine ⟨?_, (changed_of_makeEach levels layout.directories session).2, grown.changed.workDir,
    fun place entry there => grown.kept there,
    fun place nothing there => ⟨grown.isDirectory nothing there, grown.named place nothing there⟩⟩
  rcases ended_of_makeEach levels layout.directories session with
    done | ⟨directory, among, reported | ⟨nul, _⟩ | tooDeep⟩
  · have seen := seen_of_makeEach (Prod.ext done rfl :
      (makeEach levels layout.directories).runIn session = (.ok (), after))
    exact .inl ⟨done, seen, runIn_makeEach_of_seen seen levels⟩
  · exact .inr ⟨directory, among, .inl reported⟩
  · -- No variable has a NUL in its value, so none of the paths has one.
    have none := hasNul_of_mem_directories free (ofEnvironment_eq_ok_iff.mp asked)
      directory among
    rw [nul] at none
    cases none
  · exact .inr ⟨directory, among, .inr tooDeep⟩

/-- Where the home is spelled by a way through a missing directory, that one is made as well. -/
theorem directories_made_reported_or_too_deep_by_detour :
    let layout : Layout :=
      ⟨⟨.root, ["u", "..", "v"]⟩, ⟨.root, ["u", "..", "v", ".config", "chromasync"]⟩,
        ⟨.root, ["u", "..", "v", ".cache", "chromasync"]⟩⟩
    let outcome := ((layout.makeDirectories 4).runIn (.start ⟨[], []⟩)).1
    let after := ((layout.makeDirectories 4).runIn (.start ⟨[], []⟩)).2
    IsFreeOfNul [("HOME", "/u/../v")] ∧ ofEnvironment [("HOME", "/u/../v")] = .ok layout ∧
    outcome = .ok () ∧
    (∀ directory ∈ layout.directories, after.disk.look directory = .ok (some .directory)) ∧
    (layout.makeDirectories 4).runIn after = (.ok (), after) ∧
    after.disk.entry? ["u"] = some .directory ∧
    ∃ path, (∃ directory ∈ layout.directories, path.Begins directory) ∧
      after.disk.place? path = some ["u"] := by
  intro layout outcome after
  have free : IsFreeOfNul [("HOME", "/u/../v")] := by decide
  have asked : ofEnvironment [("HOME", "/u/../v")] = .ok layout :=
    ofEnvironment_eq_ok_iff.mpr (by decide)
  have granted : outcome.toOption = some () := by decide +kernel
  have new : after.disk.entry? ["u"] = some .directory := by decide +kernel
  obtain ⟨ended, -, -, -, named⟩ :=
    directories_made_reported_or_too_deep 4 free asked (.start ⟨[], []⟩)
  rcases ended with ⟨done, seen, again⟩ | ⟨_, _, ⟨_, failed⟩ | ⟨_, failed⟩⟩
  · obtain ⟨isDirectory, begins⟩ := named ["u"] (by decide) (by rw [new]; simp)
    exact ⟨free, asked, done, seen, again, isDirectory, begins⟩
  all_goals
    rw [show outcome = _ from failed] at granted
    cases granted

/-- Where the first of the directories lies too deep, it ends at that and makes nothing. -/
theorem runIn_makeDirectories_of_isTooDeep {levels : Nat} {session : Session}
    (tree : session.disk.IsTree) (free : Disk.hasNul layout.configDir = false)
    (clean : layout.configDir.IsClean)
    (short : layout.configDir.text.utf8ByteSize < Disk.pathLimit)
    (deep : session.disk.IsTooDeep levels layout.configDir) :
    (layout.makeDirectories levels).runIn session =
      (.error (.cutShort (.denied (.tooDeep ⟨.call⟩))), session) := by
  have named : ∀ name ∈ layout.configDir.parts, name ≠ "" :=
    fun name among => (clean name among).ne_empty
  rw [makeDirectories, directories, runIn_makeEach_cons,
    Disk.ensurePath_of_isTooDeep tree free named short deep]

/-- The layout for a home directory of clean names that starts nowhere in particular. -/
theorem ofEnvironment_of_names {names : List String} (filled : names ≠ [])
    (clean : ∀ name ∈ names, Path.IsCleanName name) :
    ofEnvironment [("HOME", "/".intercalate names)] = .ok
      ⟨⟨.here, names⟩, ⟨.here, names ++ [".config", appName]⟩,
        ⟨.here, names ++ [".cache", appName]⟩⟩ := by
  have home := Path.ofString_intercalate filled clean
  -- A text that spells names is not empty, as an empty one spells none.
  have isSet : filled? [("HOME", "/".intercalate names)] "HOME" =
      some ("/".intercalate names) := by
    have other : "/".intercalate names ≠ "" := by
      intro same
      rw [same] at home
      exact filled (congrArg Path.parts home).symm
    unfold filled?
    split
    · rename_i empty
      exact absurd (Option.some.inj empty) other
    · rfl
  have config : filled? [("HOME", "/".intercalate names)] "XDG_CONFIG_HOME" = none := by rfl
  have cache : filled? [("HOME", "/".intercalate names)] "XDG_CACHE_HOME" = none := by rfl
  have dotConfig : Path.IsCleanName ".config" := by decide
  have dotCache : Path.IsCleanName ".cache" := by decide
  have app : Path.IsCleanName appName := by decide
  refine ofEnvironment_eq_ok_iff.mpr ?_
  simp [ofEnvironment?, isSet, baseDir, config, cache, home,
    Path.child_of_isCleanName _ dotConfig, Path.child_of_isCleanName _ dotCache,
    Path.child_of_isCleanName _ app, Path.entry]

/-- In an empty tree, a home directory of a thousand names is neither made nor reported. -/
theorem directories_not_reported_of_thousand :
    let names := List.replicate 1000 "a"
    let bindings : Script.Variables := [("HOME", "/".intercalate names)]
    let layout : Layout := ⟨⟨.here, names⟩, ⟨.here, names ++ [".config", appName]⟩,
      ⟨.here, names ++ [".cache", appName]⟩⟩
    let session : Session := .start ⟨[], []⟩
    IsFreeOfNul bindings ∧ ofEnvironment bindings = .ok layout ∧
      (layout.makeDirectories Levels.atHand.make).runIn session =
        (.error (.cutShort (.denied (.tooDeep ⟨.call⟩))), session) := by
  intro names bindings layout session
  have known : ∀ name ∈ names, name = "a" := fun name => List.eq_of_mem_replicate
  have length : names.length = 1000 := List.length_replicate
  have sizes : (names.map fun name => name.utf8ByteSize + 1).sum = 2000 := by
    simp only [names, List.map_replicate, List.sum_replicate_nat]
    rfl
  obtain ⟨rest, begins⟩ : ∃ rest, names = "a" :: "a" :: rest := ⟨List.replicate 998 "a", rfl⟩
  -- From here on, the names are known by these facts and not worked out.
  clear_value names
  have clean : ∀ name ∈ names, Path.IsCleanName name := by
    intro name among
    rw [known name among]
    decide
  have filled : names ≠ [] := by simp [begins]
  have free : IsFreeOfNul bindings := by
    refine List.forall_mem_singleton.mpr ((Text.not_mem_intercalate_iff (by decide)).mpr ?_)
    intro name among
    rw [known name among]
    decide
  have asked : ofEnvironment bindings = .ok layout := ofEnvironment_of_names filled clean
  have short : layout.configDir.text.utf8ByteSize < Disk.pathLimit := by
    refine Nat.lt_of_le_of_lt layout.configDir.utf8ByteSize_text_le ?_
    simp only [layout, List.map_append, List.sum_append, sizes]
    decide
  have tree : session.disk.IsTree := by decide
  have clean : layout.configDir.IsClean :=
    (isClean_of_environment (ofEnvironment_eq_ok_iff.mp asked)).2
  have tooDeep : session.disk.IsTooDeep Levels.atHand.make layout.configDir := by
    have count : layout.configDir.parts.length = 1002 := by simp [layout, length]
    refine ⟨by rw [count]; decide, ?_⟩
    -- Not even the first of the names leads anywhere, with another one behind it.
    have nowhere : session.disk.spot ⟨.here, layout.configDir.parts.take 2⟩ =
        .error .notFound := by
      simp only [layout, begins, List.cons_append, List.take_succ_cons, List.take_zero]
      decide
    exact Disk.spot_take_of_notFound tree (fun name among => (clean name among).ne_empty) short
      (by rw [count]; decide) nowhere
  exact ⟨free, asked, runIn_makeDirectories_of_isTooDeep tree
    (hasNul_of_mem_directories free (ofEnvironment_eq_ok_iff.mp asked) _ List.mem_cons_self)
    clean short tooDeep⟩

end Layout

end Themer
