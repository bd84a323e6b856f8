import Themer.Proofs.Blueprint.Sections
import Themer.Proofs.Disk.Overlong

/-!
Faults in the head of a blueprint are reported with their line.

The only one that is not is a directory whose path is too long to be looked at.
-/

namespace Themer

/-- A text that starts with no tilde spells the same path in each home. -/
theorem Path.expandHome_of_head? (home : Path) {text : String}
    (elsewhere : text.toList.head? ≠ some '~') : expandHome home text = ofString text := by
  -- Only a tilde in front is ever taken for the home directory.
  unfold expandHome
  split
  · rename_i same
    rw [same] at elsewhere
    exact absurd rfl elsewhere
  · rfl

namespace Directive

variable {home : Path} {disk : Disk} {line : List Char}

/-- Whether a line asks for a directory with a path that is too long. -/
def AsksOverlong (home : Path) (disk : Disk) (line : List Char) (path : Path) : Prop :=
  directory? home line = some path ∧ Disk.hasNul path = false ∧ disk.IsOverlong path

/-- The system's refusal is the fault of a line exactly where it asks for a directory so refused. -/
theorem fault?_eq_os_iff {refusal : OsError} :
    fault? home disk line = some (.os refusal) ↔
      ∃ path, directory? home line = some path ∧ disk.look path = .error refusal := by
  -- Of the two directives, only the one for the directory looks at the tree.
  have apart : ¬ formatName = directoryName := by decide
  unfold fault? directory?
  cases read? line with
  | none => simp
  | some directive =>
    by_cases onFormat : directive.name = formatName
    · simp only [onFormat, if_true, apart, if_false]
      split <;> simp
    · by_cases onDirectory : directive.name = directoryName
      · simp only [onDirectory, if_true, if_neg (Ne.symm apart), Option.some.injEq, exists_eq_left']
        cases disk.look (Path.expandHome home directive.value) with
        | error e => simp
        | ok found =>
          cases found with
          | none => simp
          | some entry => cases entry <;> simp
      · simp [onFormat, onDirectory]

/-- A line that asks for no path too long has no refusal for its fault. -/
theorem ne_os_of_fault? {e : DirectiveError} (fault : fault? home disk line = some e)
    (inLimits : ∀ path, ¬ AsksOverlong home disk line path) (refusal : OsError) :
    e ≠ .os refusal := by
  -- A refusal is one to look at the directory asked for, and so its path would be too long.
  rintro rfl
  obtain ⟨path, asked, refused⟩ := fault?_eq_os_iff.mp fault
  obtain ⟨free, tooLong, _⟩ := Disk.look_eq_error_iff.mp refused
  exact inLimits path ⟨asked, free, tooLong⟩

end Directive

/-- Where a rendering fails, it is for a first fault in the head. -/
theorem first_fault_of_error {defaults : Defaults} {disk : Disk} {palette : Palette}
    {source : Path} {lines : List (List Char)} {failure : Failure BlueprintError}
    (failed : (defaults.renderLines disk palette source lines).outcome = .error failure) :
    ∃ sound line rest e, headLines lines = sound ++ line :: rest ∧
      (∀ earlier ∈ sound, Directive.fault? defaults.home disk earlier = none) ∧
      Directive.fault? defaults.home disk line = some e := by
  -- Without a fault the head is read to its end, and nothing after that makes a rendering fail.
  have isOpen : defaults.head.closed = false := rfl
  have progressed := renderFrom_of_open defaults.home disk isOpen palette lines
  cases first : (headLines lines).findSome? (Directive.fault? defaults.home disk) with
  | some e =>
    obtain ⟨sound, line, rest, split, fault, earlier⟩ := List.findSome?_eq_some_iff.mp first
    exact ⟨sound, line, rest, e, split, earlier, fault⟩
  | none =>
    rw [first] at progressed
    simp [Defaults.renderLines, Defaults.progress, progressed, bodyProgress,
      Progress.rendering] at failed

/-- The failure of a rendering at a fault: a refusal of the system is none of the blueprint's. -/
def DirectiveError.failure (source : Path) : DirectiveError → Failure BlueprintError
  | .os refusal => .cutShort (.denied (.os refusal))
  | e => .reported ⟨source, .directive e⟩

/-- The first fault in the head is what a rendering fails with, before anything else happens. -/
theorem renderLines_of_fault {defaults : Defaults} {disk : Disk} {lines : List (List Char)}
    {e : DirectiveError} (palette : Palette) (source : Path)
    (first : (headLines lines).findSome? (Directive.fault? defaults.home disk) = some e) :
    defaults.renderLines disk palette source lines =
      ⟨.error (e.failure source), palette, []⟩ := by
  -- The head stops at the fault, so that no line of the body has asked for a color yet.
  have isOpen : defaults.head.closed = false := rfl
  have progressed := renderFrom_of_open defaults.home disk isOpen palette lines
  rw [first] at progressed
  simp only [Defaults.renderLines, Defaults.progress, progressed]
  cases e <;> rfl

/--
A blueprint fails where the first fault in its head is, and is told so with the line, unless that
line asks for a directory whose path is too long.

Then the refusal of the system goes through as it is; nothing else ever does.
-/
theorem first_fault_reported (defaults : Defaults) (disk : Disk) (palette : Palette)
    (source : Path) (lines : List (List Char)) :
    (∀ sound line rest e, headLines lines = sound ++ line :: rest →
      (∀ earlier ∈ sound, Directive.fault? defaults.home disk earlier = none) →
      Directive.fault? defaults.home disk line = some e →
      ((∀ path, ¬ Directive.AsksOverlong defaults.home disk line path) →
        defaults.renderLines disk palette source lines =
            ⟨.error (.reported ⟨source, .directive e⟩), palette, []⟩ ∧
          (BlueprintFault.directive e).line? = some (String.ofList line)) ∧
      ∀ path, Directive.AsksOverlong defaults.home disk line path →
        defaults.renderLines disk palette source lines =
          ⟨.error (.cutShort (.denied (.os ⟨.nameTooLong, path.text⟩))), palette, []⟩) ∧
    ∀ failure, (defaults.renderLines disk palette source lines).outcome = .error failure →
      ∃ sound line rest e, headLines lines = sound ++ line :: rest ∧
        (∀ earlier ∈ sound, Directive.fault? defaults.home disk earlier = none) ∧
        Directive.fault? defaults.home disk line = some e := by
  refine ⟨fun sound line rest e split earlier fault => ?_, fun _ => first_fault_of_error⟩
  have first : (headLines lines).findSome? (Directive.fault? defaults.home disk) = some e := by
    rw [split, List.findSome?_append, List.findSome?_eq_none_iff.mpr earlier]
    simp [fault]
  have rendered := renderLines_of_fault palette source first
  constructor
  · intro inLimits
    have unrefused := Directive.ne_os_of_fault? fault inLimits
    refine ⟨?_, Directive.line?_of_fault? fault unrefused⟩
    rw [rendered]
    cases e with
    | os refusal => exact absurd rfl (unrefused refusal)
    | _ => rfl
  · rintro path ⟨asked, free, tooLong⟩
    have refused : disk.look path = .error ⟨.nameTooLong, path.text⟩ :=
      Disk.look_eq_error_iff.mpr ⟨free, tooLong, rfl⟩
    have same := fault.symm.trans (Directive.fault?_eq_os_iff.mpr ⟨path, asked, refused⟩)
    rw [rendered, Option.some.inj same]
    rfl

/-- A directory that is a file is reported with its line, whatever the lines behind it ask for. -/
theorem first_fault_reported_file :
    let defaults : Defaults := ⟨Path.ofString "home", .hashed, Path.ofString "usual"⟩
    let disk : Disk := ⟨[], [(["home"], .directory), (["home", "out"], .file [] false)]⟩
    let line := "%output-directory ~/out".toList
    let long := "%output-directory ".toList ++ List.replicate 256 'a'
    let lines := ["%color-format 6h\n".toList, line ++ ['\n'], long, "text".toList]
    headLines lines = ["%color-format 6h".toList] ++ line :: [long] ∧
      (∀ earlier ∈ ["%color-format 6h".toList],
        Directive.fault? defaults.home disk earlier = none) ∧
      (∀ path, ¬ Directive.AsksOverlong defaults.home disk line path) ∧
      defaults.renderLines disk ⟨[]⟩ (Path.ofString "ink") lines =
        ⟨.error (.reported ⟨Path.ofString "ink",
          .directive (.notDirectory (Path.ofString "home/out") "%output-directory ~/out")⟩),
          ⟨[]⟩, []⟩ := by
  intro defaults disk line long lines
  have split : headLines lines = ["%color-format 6h".toList] ++ line :: [long] := by
    decide +kernel
  have earlier : ∀ earlier ∈ ["%color-format 6h".toList],
      Directive.fault? defaults.home disk earlier = none := by decide
  have fault : Directive.fault? defaults.home disk line =
      some (.notDirectory (Path.ofString "home/out") "%output-directory ~/out") := by
    decide +kernel
  have inLimits (path : Path) : ¬ Directive.AsksOverlong defaults.home disk line path := by
    rintro ⟨asked, free, tooLong⟩
    have refused := Disk.look_eq_error_iff.mpr ⟨free, tooLong, rfl⟩
    have contrary := fault.symm.trans (Directive.fault?_eq_os_iff.mpr ⟨path, asked, refused⟩)
    cases contrary
  exact ⟨split, earlier, inLimits, ((first_fault_reported defaults disk ⟨[]⟩ (Path.ofString "ink")
    lines).1 _ _ _ _ split earlier fault).1 inLimits |>.1⟩

/-- A name of 256 characters cuts the rendering short, though its line is the first at fault. -/
theorem fault_not_reported_of_long_name :
    let defaults : Defaults := ⟨Path.ofString "home", .hashed, Path.ofString "usual"⟩
    let disk : Disk := ⟨[], [(["home"], .directory)]⟩
    let name := List.replicate 256 'a'
    let line := "%output-directory ".toList ++ name
    let refusal : OsError := ⟨.nameTooLong, String.ofList name⟩
    headLines [line] = [] ++ line :: [] ∧
      Directive.fault? defaults.home disk line = some (.os refusal) ∧
      (defaults.renderLines disk ⟨[]⟩ (Path.ofString "ink") [line]).outcome =
        .error (.cutShort (.denied (.os refusal))) := by
  intro defaults disk name line refusal
  have split : headLines [line] = [] ++ line :: [] := by decide +kernel
  let path : Path := ⟨.here, [String.ofList name]⟩
  -- The name is kept from being written out as a text, which takes long to compare.
  have asked : Directive.directory? defaults.home line = some path := by
    have spelled : Directive.read? line = some ⟨Directive.directoryName, String.ofList name⟩ := by
      decide +kernel
    have whole : (Path.pieces name).filter Path.isName = [name] := by decide +kernel
    have here : Path.anchorOf name = .here := by rfl
    rw [Directive.directory?, spelled]
    dsimp only
    rw [if_pos rfl, Path.expandHome_of_head?]
    · rw [Path.ofString, String.toList_ofList, whole, here, List.map_singleton]
    · rw [String.toList_ofList]
      decide
  have refused : disk.look path = .error refusal := by
    have named : path.text = String.ofList name := by
      simp only [Path.text, Path.Anchor.text, path, String.intercalate_singleton,
        String.empty_append]
    have down : String.ofList name ≠ ".." := by
      intro same
      have characters := congrArg String.toList same
      rw [String.toList_ofList] at characters
      exact absurd characters (by decide +kernel)
    refine Disk.look_eq_error_iff.mpr ⟨?_, .inr ⟨[], _, [], [], rfl, rfl, down, ?_⟩, ?_⟩
    · rw [Disk.hasNul, List.any_cons, String.toList_ofList]
      decide +kernel
    · decide +kernel
    · rw [named]
  have fault := Directive.fault?_eq_os_iff.mpr ⟨path, asked, refused⟩
  have first : (headLines [line]).findSome? (Directive.fault? defaults.home disk) =
      some (.os refusal) := by
    rw [split, List.nil_append, List.findSome?_cons, fault]
  exact ⟨split, fault, by rw [renderLines_of_fault _ _ first]; rfl⟩

end Themer
