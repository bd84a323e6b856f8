import Themer.Proofs.Blueprint.Grammar
import Themer.Proofs.Blueprint.Sections
import Themer.Proofs.Color.Agree

/-! Blueprints come to the same with palettes that cannot be told apart. -/

namespace Themer

/-- Two lines that come to the same, whatever their palettes remember. -/
structure Resolution.Alike (a b : Resolution) : Prop where
  text : a.text = b.text
  warnings : a.warnings = b.warnings

/-- Two runs over the same lines that come to the same, whatever their palettes remember. -/
structure Progress.Alike (a b : Progress) : Prop where
  head : a.head = b.head
  text : a.text = b.text
  warnings : a.warnings = b.warnings

/-- Two renderings with the same outcome and the same notices. -/
structure Rendering.Alike (a b : Rendering) : Prop where
  outcome : a.outcome = b.outcome
  notices : a.notices = b.notices

/-- Runs that come to the same amount to the same rendering. -/
theorem Progress.Alike.rendering {a b : Progress} (alike : a.Alike b) (source : Path) :
    (a.rendering source).Alike (b.rendering source) := by
  obtain ⟨head, text, warnings⟩ := alike
  constructor <;> simp only [Progress.rendering, head, text, warnings]

/-- A placeholder that only calls colors by plain names. -/
def Placeholder.IsPlain : Placeholder → Prop
  | .plain name => Palette.IsPlain name
  | .mix first _ second => Palette.IsPlain first ∧ Palette.IsPlain second

/-- The names in a line are plain, since the mark between fields is no word character. -/
theorem Placeholder.Spells.isPlain {text : List Char} {placeholder : Placeholder}
    (spelled : Spells text placeholder) : placeholder.IsPlain := by
  obtain ⟨_, _, mark, _⟩ := fieldMarks
  -- A run of word characters with the mark in it would make the mark a word character.
  have plain {name : List Char} (isName : IsRunOf Text.isWord name) :
      Palette.IsPlain (String.ofList name) := by
    intro marked
    rw [String.toList_ofList] at marked
    have := isName.2 _ marked
    rw [Palette.separator, mark] at this
    cases this
  cases spelled with
  | plain isName => exact plain isName
  | mix isFirst _ isSecond => exact ⟨plain isFirst, plain isSecond⟩

/-- Every placeholder among the pieces of a line only calls colors by plain names. -/
theorem Placeholder.isPlain_of_mem_pieces {line : List Char} {placeholder : Placeholder}
    (found : .hole placeholder ∈ pieces line) : placeholder.IsPlain := by
  obtain ⟨text, spelled⟩ := spells_of_mem_pieces found
  exact spelled.isPlain

namespace Palette.Bisimulation

variable {related : Palette → Palette → Prop} (same : Bisimulation related) {p q : Palette}
include same

/-- Related palettes have the same color for a placeholder, and stay related. -/
theorem color? (pair : related p q) {placeholder : Placeholder} (plain : placeholder.IsPlain) :
    (placeholder.color? p).1 = (placeholder.color? q).1 ∧
      related (placeholder.color? p).2 (placeholder.color? q).2 := by
  cases placeholder with
  | plain name => exact ⟨same.color pair plain, pair⟩
  | mix first digits second =>
    simp only [Placeholder.color?]
    -- Only an amount that is in range makes a palette work out a mix.
    cases Placeholder.readAmount digits with
    | error e => exact ⟨rfl, pair⟩
    | ok amount =>
      by_cases high : Placeholder.maxAmount < amount
      · simpa only [high, if_true, true_and] using pair
      · have answers := same.mix pair amount plain.1 plain.2
        have later := same.after pair amount plain.1 plain.2
        simp only [high, if_false]
        cases ofP : p.mixed first amount second with
        | mk answer next =>
          cases ofQ : q.mixed first amount second with
          | mk other nextOther =>
            rw [ofP, ofQ] at answers later
            obtain rfl : answer = other := answers
            cases answer <;> exact ⟨rfl, later⟩

/-- Related palettes turn a placeholder into the same text, and stay related. -/
theorem resolve (pair : related p q) (format : String) {placeholder : Placeholder}
    (plain : placeholder.IsPlain) :
    (placeholder.resolve format p).Alike (placeholder.resolve format q) ∧
      related (placeholder.resolve format p).palette (placeholder.resolve format q).palette := by
  obtain ⟨colors, later⟩ := same.color? pair plain
  simp only [Placeholder.resolve]
  cases ofP : placeholder.color? p with
  | mk found next =>
    cases ofQ : placeholder.color? q with
    | mk other nextOther =>
      rw [ofP, ofQ] at colors later
      obtain rfl : found = other := colors
      -- From the color on, the palette is not asked for anything more.
      cases found with
      | none => exact ⟨⟨rfl, rfl⟩, later⟩
      | some color =>
        cases written : color.writeNamed format <;>
          simpa only [written] using ⟨⟨rfl, rfl⟩, later⟩

/-- Related palettes turn pieces into the same text, and stay related. -/
theorem resolvePieces (pair : related p q) (format : String) {pieces : List Piece}
    (plain : ∀ placeholder, .hole placeholder ∈ pieces → placeholder.IsPlain) :
    (Themer.resolvePieces format p pieces).Alike (Themer.resolvePieces format q pieces) ∧
      related (Themer.resolvePieces format p pieces).palette
        (Themer.resolvePieces format q pieces).palette := by
  -- That the palettes are related is what each piece hands on to the next.
  induction pieces generalizing p q with
  | nil => exact ⟨⟨rfl, rfl⟩, pair⟩
  | cons piece rest ih =>
    have plainLater := fun placeholder member =>
      plain placeholder (List.mem_cons_of_mem piece member)
    cases piece with
    | char c =>
      obtain ⟨⟨text, warnings⟩, later⟩ := ih pair plainLater
      exact ⟨⟨congrArg (c :: ·) text, warnings⟩, later⟩
    | hole placeholder =>
      obtain ⟨⟨text, warnings⟩, between⟩ := same.resolve pair format (plain placeholder (by simp))
      obtain ⟨⟨texts, more⟩, later⟩ := ih between plainLater
      simp only [Themer.resolvePieces]
      exact ⟨⟨by rw [text, texts], by rw [warnings, more]⟩, later⟩

/-- Related palettes turn a line into the same text, and stay related. -/
theorem resolveLine (pair : related p q) (format : String) (line : List Char) :
    (Themer.resolveLine format p line).Alike (Themer.resolveLine format q line) ∧
      related (Themer.resolveLine format p line).palette
        (Themer.resolveLine format q line).palette :=
  -- Every placeholder of a line is spelled there, so it calls colors by plain names.
  same.resolvePieces pair format fun _ => Placeholder.isPlain_of_mem_pieces

/-- Related palettes turn the lines of a body into the same text, and stay related. -/
theorem bodyProgress (pair : related p q) (head : Head) (lines : List (List Char)) :
    (Themer.bodyProgress head p lines).Alike (Themer.bodyProgress head q lines) ∧
      related (Themer.bodyProgress head p lines).palette
        (Themer.bodyProgress head q lines).palette := by
  -- The heads are the same, so what is left is a statement about the lines of the body.
  have lineByLine : bodyText (resolveEach head.format.name p lines) =
        bodyText (resolveEach head.format.name q lines) ∧
      bodyWarnings (resolveEach head.format.name p lines) =
        bodyWarnings (resolveEach head.format.name q lines) ∧
      related (paletteAfter p (resolveEach head.format.name p lines))
        (paletteAfter q (resolveEach head.format.name q lines)) := by
    induction lines generalizing p q with
    | nil => exact ⟨rfl, rfl, pair⟩
    | cons line rest ih =>
      obtain ⟨⟨text, warnings⟩, between⟩ := same.resolveLine pair head.format.name line
      obtain ⟨texts, more, later⟩ := ih between
      simp only [bodyText, bodyWarnings] at texts more
      simp only [resolveEach, bodyText, bodyWarnings, paletteAfter_cons, List.flatMap_cons, text,
        warnings, texts, more]
      exact ⟨trivial, trivial, later⟩
  obtain ⟨text, warnings, later⟩ := lineByLine
  exact ⟨⟨rfl, text, warnings⟩, later⟩

variable (pair : related p q) (defaults : Defaults) (disk : Disk) (source : Path)
include pair

/-- Related palettes bring the lines of a blueprint to the same, and stay related. -/
theorem progress (lines : List (List Char)) :
    (defaults.progress disk p lines).Alike (defaults.progress disk q lines) ∧
      related (defaults.progress disk p lines).palette
        (defaults.progress disk q lines).palette := by
  have isOpen : defaults.head.closed = false := rfl
  simp only [Defaults.progress, renderFrom_of_open defaults.home disk isOpen]
  -- The head never asks the palette for a color, so it goes the same way for both.
  cases (headLines lines).findSome? (Directive.fault? defaults.home disk) with
  | some e => exact ⟨⟨rfl, rfl, rfl⟩, pair⟩
  | none => exact same.bodyProgress pair _ _

/-- Related palettes render a blueprint given by its lines alike, and stay related. -/
theorem renderLines (lines : List (List Char)) :
    (defaults.renderLines disk p source lines).Alike
        (defaults.renderLines disk q source lines) ∧
      related (defaults.renderLines disk p source lines).palette
        (defaults.renderLines disk q source lines).palette := by
  -- Whether the system refused a look at the disk depends on the head alone.
  obtain ⟨alike, later⟩ := same.progress pair defaults disk lines
  have rendered := alike.rendering source
  simp only [Defaults.renderLines, alike.head]
  split
  · exact ⟨⟨rfl, rendered.notices⟩, later⟩
  · exact ⟨rendered, later⟩

/-- Related palettes render a blueprint given by its bytes alike, and stay related. -/
theorem renderBytes (bytes : Text.Bytes) :
    (defaults.renderBytes disk p source bytes).Alike
        (defaults.renderBytes disk q source bytes) ∧
      related (defaults.renderBytes disk p source bytes).palette
        (defaults.renderBytes disk q source bytes).palette := by
  unfold Defaults.renderBytes
  cases Text.Utf8.decodeFile bytes with
  | mk text stopped =>
    cases stopped with
    | none =>
      obtain ⟨alike, later⟩ := same.progress pair defaults disk (Defaults.linesOf text)
      exact ⟨alike.rendering source, later⟩
    | some failure =>
      -- What the bytes fail with counts only where no line before them fails.
      obtain ⟨alike, later⟩ := same.progress pair defaults disk (Defaults.completeLines text)
      obtain ⟨outcome, notices⟩ := alike.rendering source
      simp only [outcome]
      split
      · exact ⟨⟨rfl, notices⟩, later⟩
      · exact ⟨⟨outcome, notices⟩, later⟩

/-- Related palettes render the blueprint in a file alike, and stay related. -/
theorem renderFile :
    (defaults.renderFile disk p source).Alike (defaults.renderFile disk q source) ∧
      related (defaults.renderFile disk p source).palette
        (defaults.renderFile disk q source).palette := by
  unfold Defaults.renderFile
  -- Reading the file asks the palette for nothing.
  cases disk.readFile source with
  | ok bytes =>
    obtain ⟨⟨outcome, notices⟩, later⟩ := same.renderBytes pair defaults disk source bytes
    exact ⟨⟨outcome, by simp only [notices]⟩, later⟩
  | error denial => cases denial <;> exact ⟨⟨rfl, rfl⟩, pair⟩

end Palette.Bisimulation

end Themer
