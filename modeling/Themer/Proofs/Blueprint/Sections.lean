import Themer.Blueprint.Render

/-! A blueprint is a head and a body: the head settles where and how, the body gets its colors. -/

namespace Themer

/-- The lines of the head without their breaks: the marked ones, up to the first that is not. -/
def headLines (lines : List (List Char)) : List (List Char) :=
  (lines.map Text.stripBreaks).takeWhile Directive.isMarked

/-- The lines of the body without their breaks: all from the first one on that is not marked. -/
def bodyLines (lines : List (List Char)) : List (List Char) :=
  (lines.map Text.stripBreaks).dropWhile Directive.isMarked

namespace Directive

/-- The format that a line asks for, if it asks for one. -/
def format? (line : List Char) : Option Format :=
  match read? line with
  | some directive =>
    if directive.name = formatName then Format.ofName? directive.value else none
  | none => none

/-- The directory that a line asks for, if it asks for one. -/
def directory? (home : Path) (line : List Char) : Option Path :=
  match read? line with
  | some directive =>
    if directive.name = directoryName then some (Path.expandHome home directive.value) else none
  | none => none

/-- What is wrong with a line of the head, whatever the other lines are. -/
def fault? (home : Path) (disk : Disk) (line : List Char) : Option DirectiveError :=
  match read? line with
  | none => some (.malformed (String.ofList line))
  | some directive =>
    if directive.name = formatName then
      if (Format.ofName? directive.value).isSome then none
      else some (.unknownFormat directive.value (String.ofList line))
    else if directive.name = directoryName then
      let path := Path.expandHome home directive.value
      match disk.look path with
      | .ok (some .directory) => none
      | .ok none => some (.missingDirectory path (String.ofList line))
      | .ok (some _) => some (.notDirectory path (String.ofList line))
      | .error e => some (.os e)
    else some (.unknownName directive.name (String.ofList line))

/-- A fault that is not the system's names the line it is found in. -/
theorem line?_of_fault? {home : Path} {disk : Disk} {line : List Char} {e : DirectiveError}
    (found : fault? home disk line = some e) (answered : ∀ refusal, e ≠ .os refusal) :
    e.line? = some (String.ofList line) := by
  -- Every other fault is built from the line.
  unfold fault? at found
  split at found
  · cases found; rfl
  · split at found
    · split at found
      · cases found
      · cases found; rfl
    · split at found
      · dsimp only at found
        split at found
        · cases found
        · cases found; rfl
        · cases found; rfl
        · cases found; exact absurd rfl (answered _)
      · cases found; rfl

/-- No line by itself is at fault for coming after the head. -/
theorem fault?_ne_closed (home : Path) (disk : Disk) (line : List Char) :
    fault? home disk line ≠ some .closed := by
  intro found
  -- A fault of the line names it, and coming after the head names no line.
  have named := line?_of_fault? found (by simp)
  cases named

end Directive

namespace Head

/-- The head with what one sound line asks for. -/
def settle (home : Path) (head : Head) (line : List Char) : Head :=
  { head with
    format := (Directive.format? line).getD head.format
    directory := (Directive.directory? home line).getD head.directory }

/-- An open head takes in a line, unless something is wrong with that line by itself. -/
theorem apply_of_open (home : Path) (disk : Disk) {head : Head} (isOpen : head.closed = false)
    (line : List Char) :
    (head.apply home disk (String.ofList line)).map Prod.snd =
      match Directive.fault? home disk line with
      | some e => .error e
      | none => .ok (head.settle home line) := by
  obtain ⟨format, directory, closed⟩ := head
  obtain rfl : closed = false := isOpen
  simp only [apply, Bool.false_eq_true, if_false, String.toList_ofList, Directive.fault?,
    settle, Directive.format?, Directive.directory?]
  -- The name of the directive decides which of the settings it is on.
  cases Directive.read? line with
  | none => rfl
  | some directive =>
    by_cases onFormat : directive.name = Directive.formatName
    · -- A directive on the format leaves the directory alone.
      have notDirectory : ¬ Directive.formatName = Directive.directoryName := by decide
      simp only [onFormat, if_true, notDirectory, if_false, setFormat]
      cases Format.ofName? directive.value <;> rfl
    · by_cases onDirectory : directive.name = Directive.directoryName
      · -- A directive on the directory is sound only where a directory is.
        have notFormat : ¬ Directive.directoryName = Directive.formatName := by decide
        simp only [onDirectory, notFormat, if_true, if_false, setDirectory]
        cases disk.look (Path.expandHome home directive.value) with
        | error e => rfl
        | ok found =>
          cases found with
          | none => rfl
          | some entry => cases entry <;> rfl
      · -- A directive on anything else is at fault on both sides.
        simp only [onFormat, onDirectory, if_false]
        rfl

/-- A line that is sound leaves the head open. -/
@[simp] theorem settle_closed (home : Path) (head : Head) (line : List Char) :
    (head.settle home line).closed = head.closed := rfl

/-- What some sound lines settle, the last one that says something counting for each setting. -/
theorem foldl_settle (home : Path) (head : Head) (lines : List (List Char)) :
    lines.foldl (settle home) head =
      { head with
        format := (lines.filterMap Directive.format?).getLast?.getD head.format
        directory := (lines.filterMap (Directive.directory? home)).getLast?.getD head.directory } := by
  -- The fold goes from the front, so the settings it has come to stay quantified over.
  induction lines generalizing head with
  | nil => rfl
  | cons line rest ih =>
    rw [List.foldl_cons, ih]
    -- The first line only counts where no later one says anything on the same setting.
    simp only [settle, Head.mk.injEq, and_true]
    constructor
    · cases asked : Directive.format? line <;>
        simp [asked, List.getLast?_cons]
    · cases asked : Directive.directory? home line <;>
        simp [asked, List.getLast?_cons]

end Head

/-- What becomes of some lines, one after the other, while the palette goes from each to the next. -/
def resolveEach (format : String) : Palette → List (List Char) → List Resolution
  | _, [] => []
  | palette, line :: rest =>
    let first := resolveLine format palette line
    first :: resolveEach format first.palette rest

/-- The palette that some resolutions leave behind, given the one before them. -/
def paletteAfter (palette : Palette) (resolutions : List Resolution) : Palette :=
  (resolutions.getLast?.map Resolution.palette).getD palette

/-- The text of some resolutions, each on a line of its own. -/
def bodyText (resolutions : List Resolution) : List Char :=
  resolutions.flatMap fun resolution => resolution.text ++ ['\n']

/-- The warnings of some resolutions. -/
def bodyWarnings (resolutions : List Resolution) : List Warning :=
  resolutions.flatMap Resolution.warnings

/-- What lines of a body come to under a head. -/
def bodyProgress (head : Head) (palette : Palette) (lines : List (List Char)) : Progress :=
  let body := resolveEach head.format.name palette lines
  ⟨.ok (if lines = [] then head else head.close), bodyText body, paletteAfter palette body,
    bodyWarnings body⟩

/-- The palette after a first line and others is the one after those others. -/
theorem paletteAfter_cons (palette : Palette) (first : Resolution) (rest : List Resolution) :
    paletteAfter palette (first :: rest) = paletteAfter first.palette rest := by
  cases rest with
  | nil => rfl
  | cons second rest => simp [paletteAfter, List.getLast?_cons]

/-- Once the head is closed, every line belongs to the body. -/
theorem renderFrom_of_closed {home : Path} {disk : Disk} {head : Head}
    (isClosed : head.closed = true) (palette : Palette) (lines : List (List Char)) :
    renderFrom home disk head palette lines =
      bodyProgress head palette (lines.map Text.stripBreaks) := by
  -- Closing a closed head again, as every line of the body does, changes nothing.
  have same : head.close = head := by
    obtain ⟨format, directory, closed⟩ := head
    obtain rfl : closed = true := isClosed
    rfl
  induction lines generalizing palette with
  | nil => rfl
  | cons raw rest ih =>
    simp only [renderFrom, isClosed, Bool.not_true, Bool.false_and, Bool.false_eq_true, if_false,
      same, ih]
    -- What is left is that text, warnings and palette come together line by line.
    simp [bodyProgress, resolveEach, bodyText, bodyWarnings, paletteAfter_cons, same]

/-- While the head is open, a marked line is at fault or settles what it asks for. -/
theorem renderFrom_of_marked {home : Path} {disk : Disk} {head : Head}
    (isOpen : head.closed = false) (palette : Palette) {raw : List Char}
    (marked : Directive.isMarked (Text.stripBreaks raw) = true) (rest : List (List Char)) :
    renderFrom home disk head palette (raw :: rest) =
      match Directive.fault? home disk (Text.stripBreaks raw) with
      | some e => ⟨.error e, [], palette, []⟩
      | none => renderFrom home disk (head.settle home (Text.stripBreaks raw)) palette rest := by
  have taken := Head.apply_of_open home disk isOpen (Text.stripBreaks raw)
  simp only [renderFrom, isOpen, marked, Bool.not_false, Bool.and_self, if_true]
  -- Taking the line in fails exactly where something is wrong with it.
  cases fault : Directive.fault? home disk (Text.stripBreaks raw) with
  | some e =>
    -- Taking it in is refused with that very fault.
    rw [fault] at taken
    cases applied : head.apply home disk (String.ofList (Text.stripBreaks raw)) with
    | error found => rw [applied] at taken; cases taken; rfl
    | ok result => rw [applied] at taken; cases taken
  | none =>
    rw [fault] at taken
    cases applied : head.apply home disk (String.ofList (Text.stripBreaks raw)) with
    | error found => rw [applied] at taken; cases taken
    | ok result =>
      rw [applied] at taken
      obtain ⟨directive, next⟩ := result
      have settled : next = head.settle home (Text.stripBreaks raw) := Except.ok.inj taken
      simp only [settled]

/-- The first line that is not marked closes the head and begins the body. -/
theorem renderFrom_of_not_marked (home : Path) (disk : Disk) (head : Head) (palette : Palette)
    {raw : List Char} (plain : Directive.isMarked (Text.stripBreaks raw) = false)
    (rest : List (List Char)) :
    renderFrom home disk head palette (raw :: rest) =
      bodyProgress head palette ((raw :: rest).map Text.stripBreaks) := by
  -- The line closes the head, so all lines behind it are part of the body.
  have closed : head.close.closed = true := rfl
  simp only [renderFrom, plain, Bool.and_false, Bool.false_eq_true, if_false,
    renderFrom_of_closed closed]
  simp [bodyProgress, resolveEach, bodyText, bodyWarnings, paletteAfter_cons, Head.close]

/-- An open head takes in its lines up to the first fault, and without one the body follows. -/
theorem renderFrom_of_open (home : Path) (disk : Disk) {head : Head} (isOpen : head.closed = false)
    (palette : Palette) (lines : List (List Char)) :
    renderFrom home disk head palette lines =
      match (headLines lines).findSome? (Directive.fault? home disk) with
      | some e => ⟨.error e, [], palette, []⟩
      | none => bodyProgress ((headLines lines).foldl (Head.settle home) head) palette
          (bodyLines lines) := by
  -- Along the lines the head changes, and it stays open for as long as they are marked.
  induction lines generalizing head with
  | nil => rfl
  | cons raw rest ih =>
    cases marked : Directive.isMarked (Text.stripBreaks raw) with
    | true =>
      rw [renderFrom_of_marked isOpen palette marked]
      -- The line is the first of the head, and those behind it are the head of the rest.
      have first : headLines (raw :: rest) = Text.stripBreaks raw :: headLines rest := by
        simp [headLines, marked]
      have same : bodyLines (raw :: rest) = bodyLines rest := by
        simp [bodyLines, marked]
      rw [first, same, List.findSome?_cons, List.foldl_cons]
      cases fault : Directive.fault? home disk (Text.stripBreaks raw) with
      | some e => rfl
      | none => exact ih (by simpa using isOpen)
    | false =>
      -- The first unmarked line leaves nothing of the head, and everything is body.
      have nothing : headLines (raw :: rest) = [] := by
        simp [headLines, marked]
      have everything : bodyLines (raw :: rest) = (raw :: rest).map Text.stripBreaks := by
        simp [bodyLines, marked]
      rw [renderFrom_of_not_marked home disk head palette marked, nothing, everything]
      rfl

/--
A head without a fault settles where a blueprint goes and how its colors are written.

Its first fault otherwise ends the rendering with that line, before the palette is asked at all.
Marked lines behind the first unmarked one are part of the body, so none comes to a closed head.
-/
theorem renderLines_of_sections (defaults : Defaults) (disk : Disk) (palette : Palette)
    (source : Path) (lines : List (List Char))
    (answered : ∀ refusal, (headLines lines).findSome? (Directive.fault? defaults.home disk) ≠
      some (.os refusal)) :
    (∀ sound line rest e, headLines lines = sound ++ line :: rest →
      (∀ earlier ∈ sound, Directive.fault? defaults.home disk earlier = none) →
      Directive.fault? defaults.home disk line = some e →
      defaults.renderLines disk palette source lines =
          ⟨.error (.reported ⟨source, .directive e⟩), palette, []⟩ ∧
        (BlueprintFault.directive e).line? = some (String.ofList line)) ∧
    ((∀ line ∈ headLines lines, Directive.fault? defaults.home disk line = none) →
      let formats := (headLines lines).filterMap Directive.format?
      let directories := (headLines lines).filterMap (Directive.directory? defaults.home)
      let format := formats.getLast?.getD defaults.format
      let body := resolveEach format.name palette (bodyLines lines)
      defaults.renderLines disk palette source lines =
        ⟨.ok ⟨source, directories.getLast?.getD defaults.directory, format, bodyText body⟩,
          paletteAfter palette body, (bodyWarnings body).map (Warning.notice source.text)⟩) ∧
    (defaults.progress disk palette lines).head ≠ .error .closed := by
  have isOpen : defaults.head.closed = false := rfl
  have progressed := renderFrom_of_open defaults.home disk isOpen palette lines
  refine ⟨?_, ?_, ?_⟩
  · intro sound line rest e split earlier fault
    -- The line given is the first at fault, so its fault is the one that is found.
    have first : (headLines lines).findSome? (Directive.fault? defaults.home disk) = some e := by
      rw [split, List.findSome?_append, List.findSome?_eq_none_iff.mpr earlier]
      simp [fault]
    have unrefused : ∀ refusal, e ≠ .os refusal := by
      rintro refusal rfl
      exact answered refusal first
    refine ⟨?_, Directive.line?_of_fault? fault unrefused⟩
    rw [first] at progressed
    simp only [Defaults.renderLines, Defaults.progress, progressed]
    cases e with
    | os refusal => exact absurd rfl (unrefused refusal)
    | _ => rfl
  · -- Without a fault, what the head settles is what its last directives ask for.
    intro sound
    rw [List.findSome?_eq_none_iff.mpr sound, Head.foldl_settle] at progressed
    simp only [Defaults.renderLines, Defaults.progress, progressed, bodyProgress,
      Progress.rendering]
    -- Closing the head, where there is a body, changes nothing of what it settled.
    by_cases bodiless : bodyLines lines = []
    · rw [if_pos bodiless]
      rfl
    · rw [if_neg bodiless]
      rfl
  · -- Whatever the head fails with is a fault of one of its lines.
    rw [Defaults.progress, progressed]
    cases first : (headLines lines).findSome? (Directive.fault? defaults.home disk) with
    | none => simp [bodyProgress]
    | some e =>
      rintro closed
      obtain ⟨line, _, fault⟩ := List.exists_of_findSome?_eq_some first
      obtain rfl : e = .closed := Except.error.inj closed
      exact Directive.fault?_ne_closed _ _ _ fault

/-- Both settings of a head count, the later format over the earlier, and a later mark is text. -/
theorem renderLines_of_sections_settled :
    let defaults : Defaults := ⟨Path.ofString "home", .hashed, Path.ofString "usual"⟩
    let disk : Disk := ⟨[], [(["home"], .directory), (["home", "out"], .directory)]⟩
    let palette : Palette := ⟨[("ink", ⟨17, 34, 51⟩)]⟩
    let lines := ["%color-format #6h\n", "%output-directory ~/out", "%color-format 6h", "",
      "%color-format \x7bink\x7d"].map String.toList
    (∀ refusal, (headLines lines).findSome? (Directive.fault? defaults.home disk) ≠
      some (.os refusal)) ∧
    (∀ line ∈ headLines lines, Directive.fault? defaults.home disk line = none) ∧
    (defaults.renderLines disk palette (Path.ofString "a/b") lines).outcome =
      .ok ⟨Path.ofString "a/b", Path.ofString "home/out", .bare,
        "\n%color-format 112233\n".toList⟩ := by
  intro defaults disk palette lines
  have sound : ∀ line ∈ headLines lines, Directive.fault? defaults.home disk line = none := by
    decide
  -- Sound lines have no fault at all, and so none of the system's.
  have answered : ∀ refusal, (headLines lines).findSome? (Directive.fault? defaults.home disk) ≠
      some (.os refusal) := by
    intro refusal
    rw [List.findSome?_eq_none_iff.mpr sound]
    simp
  have rendered := (renderLines_of_sections defaults disk palette (Path.ofString "a/b") lines
    answered).2.1 sound
  exact ⟨answered, sound, (congrArg Rendering.outcome rendered).trans (by rfl)⟩

end Themer
