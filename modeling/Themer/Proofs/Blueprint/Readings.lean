import Mathlib.Data.List.Forall2
import Themer.Proofs.Blueprint.Sections
import Themer.Proofs.Text.Blocks
import Themer.Proofs.Text.Lines

/-! A blueprint comes to the same whether its lines, its text or its file is rendered. -/

namespace Themer

/-- Only the lines without their breaks count for what some lines come to. -/
theorem renderFrom_of_stripped (home : Path) (disk : Disk) (head : Head) (palette : Palette)
    {lines given : List (List Char)}
    (same : given.map Text.stripBreaks = lines.map Text.stripBreaks) :
    renderFrom home disk head palette given = renderFrom home disk head palette lines := by
  -- Each line changes the head and the palette for those behind it, so both vary.
  induction lines generalizing head palette given with
  | nil => rw [List.map_eq_nil_iff.mp same]
  | cons line rest ih =>
    obtain ⟨first, later, rfl, firstSame, laterSame⟩ := List.map_eq_cons_iff.mp same
    simp only [renderFrom, firstSame, ih _ _ laterSame]

namespace Defaults

variable {defaults : Defaults} {disk : Disk} {palette : Palette} {source : Path}

/-- With every directory test answered, a head fails only with a fault that names its line. -/
theorem error_of_answered {lines : List (List Char)} {e : DirectiveError}
    (answered : ∀ refusal, (headLines lines).findSome? (Directive.fault? defaults.home disk) ≠
      some (.os refusal))
    (failed : (defaults.progress disk palette lines).head = .error e) :
    (∀ refusal, e ≠ .os refusal) ∧ ∃ line, e.line? = some line := by
  -- It is the first fault in the head, which is no refusal and so knows its line.
  have isOpen : defaults.head.closed = false := rfl
  rw [progress, renderFrom_of_open defaults.home disk isOpen] at failed
  cases first : (headLines lines).findSome? (Directive.fault? defaults.home disk) with
  | none => simp [first, bodyProgress] at failed
  | some fault =>
    rw [first] at failed
    obtain rfl : fault = e := Except.error.inj failed
    have unrefused : ∀ refusal, fault ≠ .os refusal := by
      rintro refusal rfl
      exact answered refusal first
    obtain ⟨line, _, found⟩ := List.exists_of_findSome?_eq_some first
    exact ⟨unrefused, _, Directive.line?_of_fault? found unrefused⟩

/-- With every directory test answered, a rendering by lines ends as its progress says. -/
theorem renderLines_of_answered {lines : List (List Char)}
    (answered : ∀ refusal, (headLines lines).findSome? (Directive.fault? defaults.home disk) ≠
      some (.os refusal)) :
    defaults.renderLines disk palette source lines =
      (defaults.progress disk palette lines).rendering source := by
  -- Lines and progress only differ in how they end at a refusal, of which there is none.
  unfold renderLines
  dsimp only
  split
  · rename_i refusal refused
    exact absurd rfl ((error_of_answered answered refused).1 refusal)
  · rfl

/-- A file that holds the bytes of a text is rendered as what its lines come to. -/
theorem renderFile_of_text {text : List Char}
    (holds : disk.readFile source = .ok (Text.Utf8.encode text)) :
    defaults.renderFile disk palette source =
      let rendering := (defaults.progress disk palette (linesOf text)).rendering source
      { rendering with
        notices := ⟨.debug, s!"Rendering blueprint {source.text}"⟩ :: rendering.notices } := by
  -- Block by block or at once, the bytes are decoded to the text that they were written for.
  have decoded : Text.Utf8.decodeFile (Text.Utf8.encode text) = (text, none) :=
    Text.Utf8.decodeFile_of_decode (Text.Utf8.decode_encode text)
  simp only [renderFile, holds, renderBytes, decoded]

end Defaults

/--
Lines, text and file of a blueprint are rendered alike.

The lines are those of the text once its breaks are all alike,
and each of them may be handed over with the break at its end or without.
Whatever they come to, outcome, palette and warnings are the same,
and a directive at fault is reported with the blueprint and the line.
-/
theorem renderings_agree (defaults : Defaults) (disk : Disk) (palette : Palette) (source : Path)
    (text : List Char) (lines given : List (List Char))
    (areLines : Text.IsLines (Text.unifyBreaks text) lines)
    (handedOver : List.Forall₂ (fun handed line => handed = line ∨ handed = line ++ ['\n'])
      given lines)
    (holds : disk.readFile source = .ok (Text.Utf8.encode text))
    (answered : ∀ refusal, (headLines lines).findSome? (Directive.fault? defaults.home disk) ≠
      some (.os refusal)) :
    let rendering := defaults.renderText disk palette source text
    defaults.renderLines disk palette source given = rendering ∧
    defaults.renderFile disk palette source =
      { rendering with
        notices := ⟨.debug, s!"Rendering blueprint {source.text}"⟩ :: rendering.notices } ∧
    (∀ notice ∈ rendering.notices, notice.severity = .warning) ∧
    ((∃ rendered, rendering.outcome = .ok rendered ∧ rendered.source = source) ∨
      ∃ e line, rendering.outcome = .error (.reported ⟨source, .directive e⟩) ∧
        e.line? = some line) := by
  intro rendering
  have split : lines = Defaults.linesOf text := areLines.eq_splitLines
  have unbroken := areLines.unbroken
  -- Handed over with a break or without, a line is the same once it is stripped.
  have same : given.map Text.stripBreaks = lines.map Text.stripBreaks := by
    clear areLines answered split
    induction handedOver with
    | nil => rfl
    | cons handed _ ih =>
      obtain ⟨bare, broken⟩ := Text.stripBreaks_of_unbroken (unbroken _ List.mem_cons_self)
      rw [List.map_cons, List.map_cons, ih fun line among =>
        unbroken line (List.mem_cons_of_mem _ among)]
      obtain rfl | rfl := handed
      · rfl
      · rw [bare, broken]
  have sameHead : headLines given = headLines lines := by rw [headLines, headLines, same]
  have progressed : defaults.progress disk palette given = defaults.progress disk palette lines :=
    renderFrom_of_stripped _ _ _ _ same
  have byLines : defaults.renderLines disk palette source given =
      (defaults.progress disk palette lines).rendering source := by
    rw [Defaults.renderLines_of_answered (by rwa [sameHead]), progressed]
  have byText : rendering = (defaults.progress disk palette lines).rendering source := by
    rw [← Defaults.renderLines_of_answered answered, split]
    rfl
  refine ⟨byLines.trans byText.symm, ?_, ?_, ?_⟩
  · rw [Defaults.renderFile_of_text holds, byText, split]
  · simp [byText, Progress.rendering, Warning.notice]
  · rw [byText]
    unfold Progress.rendering
    cases ended : (defaults.progress disk palette lines).head with
    | ok head => exact .inl ⟨_, rfl, rfl⟩
    | error e =>
      obtain ⟨_, line, named⟩ := Defaults.error_of_answered answered ended
      exact .inr ⟨e, line, rfl, named⟩

/--
Each kind of break ends a line and the last line may lack one.

A color that is missing is warned of once, however the blueprint is given.
-/
theorem renderings_agree_mixed_breaks :
    let defaults : Defaults := ⟨Path.ofString "/home", .hashed, Path.ofString "/out"⟩
    let palette : Palette := ⟨[("ink", ⟨17, 34, 51⟩)]⟩
    let text := "%color-format 6h\r\n\x7bink\x7d\r\r\x7bmist\x7d\nend".toList
    let lines := ["%color-format 6h", "\x7bink\x7d", "", "\x7bmist\x7d", "end"].map String.toList
    let given := ["%color-format 6h\n", "\x7bink\x7d", "\n", "\x7bmist\x7d\n", "end"].map
      String.toList
    let source := Path.ofString "/ink.css"
    let disk : Disk := ⟨[], [(["ink.css"], .file (Text.Utf8.encode text) false)]⟩
    let whole : Rendered := ⟨source, Path.ofString "/out", .bare, "112233\n\n\nend\n".toList⟩
    Text.IsLines (Text.unifyBreaks text) lines ∧
    List.Forall₂ (fun handed line => handed = line ∨ handed = line ++ ['\n']) given lines ∧
    disk.readFile source = .ok (Text.Utf8.encode text) ∧
    (∀ refusal, (headLines lines).findSome? (Directive.fault? defaults.home disk) ≠
      some (.os refusal)) ∧
    (defaults.renderLines disk palette source given).outcome = .ok whole ∧
    (defaults.renderFile disk palette source).outcome = .ok whole ∧
    (defaults.renderFile disk palette source).notices.map Notice.severity =
      [.debug, .warning] := by
  intro defaults palette text lines given source disk whole
  have areLines : Text.IsLines (Text.unifyBreaks text) lines := by
    have split : lines = Text.splitLines (Text.unifyBreaks text) := by decide
    rw [split]
    exact Text.isLines_splitLines _
  have handedOver : List.Forall₂ (fun handed line => handed = line ∨ handed = line ++ ['\n'])
      given lines := by
    refine .cons ?_ (.cons ?_ (.cons ?_ (.cons ?_ (.cons ?_ .nil)))) <;> decide
  have holds : disk.readFile source = .ok (Text.Utf8.encode text) := by rfl
  have sound : ∀ line ∈ headLines lines, Directive.fault? defaults.home disk line = none := by
    decide
  have answered : ∀ refusal, (headLines lines).findSome? (Directive.fault? defaults.home disk) ≠
      some (.os refusal) := by
    intro refusal
    rw [List.findSome?_eq_none_iff.mpr sound]
    simp
  have rendered : (defaults.renderText disk palette source text).outcome = .ok whole := by rfl
  have warned : (defaults.renderText disk palette source text).notices.map Notice.severity =
      [.warning] := by rfl
  obtain ⟨byLines, byFile, _, _⟩ :=
    renderings_agree defaults disk palette source text lines given areLines handedOver holds
      answered
  refine ⟨areLines, handedOver, holds, answered, ?_, ?_, ?_⟩
  · rw [byLines, rendered]
  · rw [byFile]
    exact rendered
  · rw [byFile, List.map_cons, warned]

end Themer
