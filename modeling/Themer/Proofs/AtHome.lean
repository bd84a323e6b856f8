import Themer.Proofs.Blueprint.Steps
import Themer.Proofs.Settings.Merged

/-!
Paths that are written with a tilde and a slash: how far they stay below the home directory.

Two settings are written so: the directory of a blueprint's output and the path of the script.
-/

namespace Themer

namespace Path

variable {home : Path} {rest : String}

/-- The names of a path, its root being the first of them if it has one. -/
def steps (path : Path) : List String :=
  match path.anchor with
  | .here => path.parts
  | anchor => Anchor.text anchor :: path.parts

/-- A path that goes the steps of another one first. -/
def IsUnder (path above : Path) : Prop :=
  above.steps <+: path.steps

instance (path above : Path) : Decidable (path.IsUnder above) :=
  inferInstanceAs (Decidable (_ <+: _))

/-- More names behind those of a path lead below it. -/
theorem isUnder_append (path : Path) (more : List String) :
    (⟨path.anchor, path.parts ++ more⟩ : Path).IsUnder path := by
  obtain ⟨anchor, parts⟩ := path
  -- The root is a step of both, if there is one.
  unfold IsUnder steps
  cases anchor <;> simp

/-- A text starts at a root exactly where it begins with a slash. -/
theorem anchorOf_eq_here_iff {text : List Char} : anchorOf text = .here ↔ text.head? ≠ some '/' := by
  unfold anchorOf
  split
  case h_4 other =>
    -- No text that begins with a slash is left.
    refine iff_of_true rfl fun slash => ?_
    obtain ⟨rest, rfl⟩ := List.head?_eq_some_iff.mp slash
    exact other rest rfl
  all_goals simp

/-- What comes after the tilde and its slash is seen from the home directory. -/
theorem expandHome_tilde (home : Path) (rest : String) :
    expandHome home ("~/" ++ rest) = home.child rest := by
  have spelled : ("~/" ++ rest).toList = '~' :: '/' :: rest.toList := by
    rw [String.toList_append]
    rfl
  rw [expandHome, spelled]
  exact congrArg home.child String.ofList_toList

/-- A text that begins with no slash leads on from where it is seen. -/
theorem child_of_no_slash (plain : rest.toList.head? ≠ some '/') :
    home.child rest = ⟨home.anchor, home.parts ++ (ofString rest).parts⟩ := by
  have here : (ofString rest).anchor = .here := anchorOf_eq_here_iff.mpr plain
  rw [child, join, here]

/-- A text that begins with a slash leads to the same from everywhere. -/
theorem child_of_slash (slash : rest.toList.head? = some '/') :
    home.child rest = ofString rest := by
  have rooted : (ofString rest).anchor ≠ .here :=
    fun here => anchorOf_eq_here_iff.mp here slash
  unfold child join
  split
  · rename_i here
    exact absurd here rooted
  · rfl

/-- What a text leads to is below where it is seen, unless a slash in front leads elsewhere. -/
theorem isUnder_child_iff :
    (home.child rest).IsUnder home ↔
      rest.toList.head? ≠ some '/' ∨ (ofString rest).IsUnder home := by
  -- With a slash both sides say the same of the text alone, and without one both hold.
  by_cases slash : rest.toList.head? = some '/'
  · rw [child_of_slash slash]
    exact ⟨.inr, fun below => below.resolve_left (not_not_intro slash)⟩
  · rw [child_of_no_slash slash]
    exact iff_of_true (home.isUnder_append _) (.inl slash)

end Path

namespace Head

/-- A line on the directory that is taken in settles on the one that its value spells. -/
theorem directory_of_apply {home : Path} {disk : Disk} {head next : Head} {line : String}
    {directive : Directive} (taken : head.apply home disk line = .ok (directive, next))
    (onDirectory : directive.name = Directive.directoryName) :
    next.directory = Path.expandHome home directive.value := by
  have spelled := read?_of_apply taken
  cases isClosed : head.closed with
  | true =>
    -- A closed head takes nothing in.
    rw [apply, if_pos isClosed] at taken
    cases taken
  | false =>
    have settled := apply_of_open home disk isClosed line.toList
    rw [String.ofList_toList, taken] at settled
    cases fault : Directive.fault? home disk line.toList with
    | some e =>
      rw [fault] at settled
      cases settled
    | none =>
      rw [fault] at settled
      -- What is settled by a sound line is read off its directive.
      obtain rfl : next = head.settle home line.toList := Except.ok.inj settled
      simp [settle, Directive.directory?, spelled, onDirectory]

end Head

/--
What a tilde, a slash and a rest lead to is below the home directory if the rest begins with no slash.

Then the names of the rest come behind those of the home directory, with any names that lead up.
With a slash in front the rest is a path of its own, and the home directory counts for nothing.
The same goes for the directory that a blueprint settles on and for the path of the script.
-/
theorem home_path_below_unless_rooted (home : Path) (rest : String) :
    let path := Path.expandHome home ("~/" ++ rest)
    (rest.toList.head? ≠ some '/' →
      path = ⟨home.anchor, home.parts ++ (Path.ofString rest).parts⟩ ∧ path.IsUnder home) ∧
    (rest.toList.head? = some '/' → path = Path.ofString rest) ∧
    (path.IsUnder home ↔ rest.toList.head? ≠ some '/' ∨ (Path.ofString rest).IsUnder home) ∧
    (∀ disk head next line,
      Head.apply home disk head line =
        .ok (⟨Directive.directoryName, "~/" ++ rest⟩, next) → next.directory = path) ∧
    (∀ settings layout format, layout.home = home →
      Settings.Fits settings format true (some ("~/" ++ rest)) →
      settings.script? layout = .ok (some path)) := by
  intro path
  have pathIs : path = home.child rest := Path.expandHome_tilde home rest
  refine ⟨fun plain => ?_, fun slash => ?_, ?_, fun disk head next line taken => ?_, ?_⟩
  · rw [pathIs, Path.child_of_no_slash plain]
    exact ⟨rfl, home.isUnder_append _⟩
  · rw [pathIs, Path.child_of_slash slash]
  · rw [pathIs, Path.isUnder_child_iff]
  · exact Head.directory_of_apply taken rfl
  · rintro settings layout format rfl fits
    have filled : "~/" ++ rest ≠ "" := by simp
    rw [fits.script?_eq, if_pos rfl, Settings.scriptAt, if_neg filled]

/-- A directory and a script that are written with a tilde and one slash are below the home. -/
theorem home_path_below_unless_rooted_hooks :
    let home := Path.ofString "/home/u"
    let path := Path.ofString "/home/u/hooks"
    let disk : Disk := ⟨["home"], [(["home"], .directory), (["home", "u"], .directory),
      (["home", "u", "hooks"], .directory)]⟩
    let head : Head := ⟨.hashed, Path.ofString "out", false⟩
    let layout : Layout := ⟨home, home.child ".config", home.child ".cache"⟩
    let settings : Settings := ⟨[(Settings.formatKey, .text Format.hashed.name),
      (Settings.scriptKey, .map [(Settings.enabledKey, .flag true),
        (Settings.pathKey, .text "~/hooks")])]⟩
    (∃ next, head.apply home disk "%output-directory ~/hooks" =
      .ok (⟨Directive.directoryName, "~/hooks"⟩, next) ∧ next.directory = path) ∧
    settings.script? layout = .ok (some path) ∧ path.IsUnder home := by
  intro home path disk head layout settings
  have below := home_path_below_unless_rooted home "hooks"
  have pathIs : Path.expandHome home ("~/" ++ "hooks") = path := by decide
  rw [pathIs] at below
  obtain ⟨plain, _, _, onDirectory, onScript⟩ := below
  have taken : (head.apply home disk "%output-directory ~/hooks").toOption =
      some (⟨Directive.directoryName, "~/hooks"⟩, { head with directory := path }) := by
    decide +kernel
  have fits : settings.Fits .hashed true (some "~/hooks") := ⟨rfl, _, rfl, rfl, rfl⟩
  exact ⟨⟨_, ok_of_toOption taken, onDirectory disk head _ _ (ok_of_toOption taken)⟩,
    onScript settings layout .hashed rfl fits, (plain (by decide)).2⟩

/-- A second slash leads away from the home directory. -/
theorem home_path_leaves_by_slash :
    let home := Path.ofString "/home/u"
    let path := Path.expandHome home "~//etc"
    path = Path.ofString "/etc" ∧ ¬ path.IsUnder home := by
  decide

end Themer
