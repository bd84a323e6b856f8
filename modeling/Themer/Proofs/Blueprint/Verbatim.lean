import Themer.Proofs.Blueprint.AllOrNothing
import Themer.Proofs.Blueprint.Occurrence
import Themer.Proofs.Disk.Place
import Themer.Proofs.Text.Blocks
import Themer.Proofs.Text.Encoded
import Themer.Proofs.Text.Lines

/-!
Text that spells no placeholder survives.

It is rendered as it stands, and a file of it is copied byte for byte.
-/

namespace Themer

namespace Placeholder

/-- Whether no placeholder is spelled anywhere in a text. -/
def IsAbsentFrom (text : List Char) : Prop :=
  ∀ place placeholder, ¬ Occurs text place placeholder

/-- No placeholder is spelled in a text where none is found by reading it. -/
theorem isAbsentFrom_iff {text : List Char} : IsAbsentFrom text ↔ placed text = [] := by
  rw [List.eq_nil_iff_forall_not_mem]
  constructor
  · intro absent found among
    exact absent found.1 found.2 (mem_placed_iff.mp among)
  · intro none place placeholder occurs
    exact none (place, placeholder) (mem_placed_iff.mpr occurs)

/-- A placeholder is spelled on one line. -/
theorem Spells.unbroken {text : List Char} {placeholder : Placeholder}
    (spelled : Spells text placeholder) : '\n' ∉ text := by
  -- The fields have no break in them, since it belongs to neither of their classes.
  have noWord : Text.isWord '\n' = false := by decide
  have noDigit : Text.isDigit '\n' = false := by decide
  have outside {inClass : Char → Bool} {run : List Char} (isRun : IsRunOf inClass run)
      (excluded : inClass '\n' = false) : '\n' ∉ run := by
    intro member
    rw [isRun.2 _ member] at excluded
    cases excluded
  cases spelled with
  | plain isName => simp [outside isName noWord]
  | mix isFirst isAmount isSecond =>
    simp [outside isFirst noWord, outside isAmount noDigit, outside isSecond noWord]

namespace IsAbsentFrom

variable {text : List Char}

/-- No part of a text spells what the text does not. -/
theorem of_infix (absent : IsAbsentFrom text) {part : List Char} (inside : part <:+: text) :
    IsAbsentFrom part := by
  rintro _ placeholder ⟨before, spelled, after, rfl, rfl, spells⟩
  -- What stands around the part is added to what stands around the placeholder in it.
  obtain ⟨front, back, rfl⟩ := inside
  exact absent _ placeholder ⟨front ++ before, spelled, after ++ back, by simp, rfl, spells⟩

/-- Unifying the breaks of a text spells no placeholder. -/
theorem unifyBreaks (absent : IsAbsentFrom text) : IsAbsentFrom (Text.unifyBreaks text) := by
  rintro _ placeholder ⟨before, spelled, after, split, rfl, spells⟩
  -- A placeholder has no break in it, so it would have been there before.
  have inside : spelled <:+: Text.unifyBreaks text := ⟨before, after, by simp [split]⟩
  have earlier : spelled <:+: text := Text.infix_of_infix_unifyBreaks spells.unbroken inside
  obtain ⟨front, back, rfl⟩ := earlier
  exact absent front.length placeholder ⟨front, spelled, back, by simp, rfl, spells⟩

/-- A line without placeholders falls into its characters. -/
theorem pieces_eq (absent : IsAbsentFrom text) : pieces text = text.map .char := by
  -- The scan meets no hole, so only the case of a character is left at each step.
  induction text using scan_induction with
  | nil => rfl
  | hole spelled placeholder after spells _ =>
    exact absurd ⟨[], spelled, after, rfl, rfl, spells⟩ (absent 0 placeholder)
  | char c rest unspelled ih =>
    have later : IsAbsentFrom rest := absent.of_infix (List.suffix_cons c rest).isInfix
    rw [pieces_of_not_spells unspelled, ih later, List.map_cons]

end IsAbsentFrom

end Placeholder

/-- Characters that stay mix no color and give no warning. -/
theorem resolvePieces_map_char (format : String) (palette : Palette) (line : List Char) :
    resolvePieces format palette (line.map .char) = ⟨line, palette, []⟩ := by
  -- The palette goes from piece to piece, and a character hands it on as it is.
  induction line with
  | nil => rfl
  | cons c rest ih => rw [List.map_cons, resolvePieces, ih]

/-- Lines without placeholders stay as they are, and so does the palette. -/
theorem resolveEach_of_absent (format : String) (palette : Palette) {lines : List (List Char)}
    (absent : ∀ line ∈ lines, Placeholder.IsAbsentFrom line) :
    resolveEach format palette lines = lines.map fun line => ⟨line, palette, []⟩ := by
  -- Likewise from line to line.
  induction lines with
  | nil => rfl
  | cons line rest ih =>
    rw [List.forall_mem_cons] at absent
    have first : resolveLine format palette line = ⟨line, palette, []⟩ := by
      rw [resolveLine, absent.1.pieces_eq, resolvePieces_map_char]
    rw [resolveEach, first, ih absent.2, List.map_cons]

/-- A body without placeholders comes to its own lines. -/
theorem bodyProgress_of_absent (head : Head) (palette : Palette) {lines : List (List Char)}
    (absent : ∀ line ∈ lines, Placeholder.IsAbsentFrom line) :
    bodyProgress head palette lines =
      ⟨.ok (if lines = [] then head else head.close), lines.flatMap (· ++ ['\n']), palette, []⟩ := by
  -- No line warns, and the palette after the last one is the palette before the first.
  have nothingWarned : (lines.map fun line => (⟨line, palette, []⟩ : Resolution)).flatMap
      Resolution.warnings = [] := by
    simp [List.flatMap_map]
  have samePalette : paletteAfter palette
      (lines.map fun line => (⟨line, palette, []⟩ : Resolution)) = palette := by
    unfold paletteAfter
    rw [List.getLast?_map]
    cases lines.getLast? <;> rfl
  simp only [bodyProgress, resolveEach_of_absent _ palette absent, bodyText, bodyWarnings,
    nothingWarned, samePalette, List.flatMap_map]

namespace Defaults

/-- The lines of a text are without breaks, so stripping takes nothing off them. -/
theorem map_stripBreaks_linesOf (text : List Char) :
    (linesOf text).map Text.stripBreaks = linesOf text := by
  have areLines := Text.isLines_splitLines (Text.unifyBreaks text)
  have same : ∀ line ∈ linesOf text, Text.stripBreaks line = id line := fun line among =>
    (Text.stripBreaks_of_unbroken (areLines.unbroken line among)).1
  rw [List.map_congr_left same, List.map_id]

/-- A text whose first line is not marked is all body. -/
theorem sections_of_unmarked {text : List Char}
    (unmarked : ∀ line ∈ (linesOf text).head?, Directive.isMarked line = false) :
    headLines (linesOf text) = [] ∧ bodyLines (linesOf text) = linesOf text := by
  unfold headLines bodyLines
  rw [map_stripBreaks_linesOf]
  cases lines : linesOf text with
  | nil => exact ⟨rfl, rfl⟩
  | cons first rest =>
    have plain : Directive.isMarked first = false := unmarked first (by simp [lines])
    simp [plain]

/-- A text without directives and placeholders is rendered as it is, but for its breaks. -/
theorem renderText_of_absent (defaults : Defaults) (disk : Disk) (palette : Palette)
    (source : Path) {text : List Char}
    (unmarked : ∀ line ∈ (linesOf text).head?, Directive.isMarked line = false)
    (absent : Placeholder.IsAbsentFrom text) :
    defaults.renderText disk palette source text =
      ⟨.ok ⟨source, defaults.directory, defaults.format,
        Text.withLastBreak (Text.unifyBreaks text)⟩, palette, []⟩ := by
  have areLines := Text.isLines_splitLines (Text.unifyBreaks text)
  have absentLines : ∀ line ∈ linesOf text, Placeholder.IsAbsentFrom line := fun line among =>
    absent.unifyBreaks.of_infix (areLines.isInfix line among)
  have joined : (linesOf text).flatMap (· ++ ['\n']) = Text.withLastBreak (Text.unifyBreaks text) :=
    areLines.flatMap_break
  obtain ⟨noHead, allBody⟩ := sections_of_unmarked unmarked
  -- The head is open and has no line, so that all the progress is made in the body.
  have isOpen : defaults.head.closed = false := rfl
  have progressed : defaults.progress disk palette (linesOf text) =
      bodyProgress defaults.head palette (linesOf text) := by
    rw [progress, renderFrom_of_open defaults.home disk isOpen, noHead, allBody]
    rfl
  rw [renderText, renderLines, progressed, bodyProgress_of_absent defaults.head palette absentLines,
    joined]
  -- Closing the head, where there is a line, changes nothing of what it settles.
  by_cases empty : linesOf text = []
  · simp only [if_pos empty]
    rfl
  · simp only [if_neg empty]
    rfl

/-- The file of a text without directives and placeholders is rendered to its own bytes. -/
theorem renderFile_of_absent (defaults : Defaults) (disk : Disk) (palette : Palette)
    {source : Path} {bytes : Text.Bytes} {text : List Char}
    (unmarked : ∀ line ∈ (linesOf text).head?, Directive.isMarked line = false)
    (absent : Placeholder.IsAbsentFrom text) (holds : disk.readFile source = .ok bytes)
    (decoded : Text.Utf8.decode bytes = .ok text) (noReturn : '\r' ∉ text)
    (ended : text.getLast? = some '\n') :
    defaults.renderFile disk palette source =
      ⟨.ok ⟨source, defaults.directory, defaults.format, text⟩, palette,
        [⟨.debug, s!"Rendering blueprint {source.text}"⟩]⟩ := by
  have whole : Text.withLastBreak (Text.unifyBreaks text) = text := by
    rw [Text.unifyBreaks_eq_self noReturn, Text.withLastBreak, ended]
    rfl
  have rendered := defaults.renderText_of_absent disk palette source unmarked absent
  rw [whole, renderText, renderLines] at rendered
  simp only [renderFile, holds, renderBytes, Text.Utf8.decodeFile_of_decode decoded]
  -- Reading a file differs from reading lines only in what becomes of a refusal.
  split at rendered
  · cases rendered
  · rw [rendered]

end Defaults

/--
Text that spells no placeholder survives, whatever looks like one in it.

If its first line is no directive either, it is rendered as it stands, with its breaks unified and
one at its end, and nothing is warned of or mixed.
A file of it that has such breaks already is copied byte for byte: the bytes written are those read,
unless the system refuses the write, and then nothing is changed.
-/
theorem plain_text_survives (defaults : Defaults) (text : List Char)
    (unmarked : ∀ line ∈ (Defaults.linesOf text).head?, Directive.isMarked line = false)
    (absent : Placeholder.IsAbsentFrom text) :
    (∀ disk palette source, defaults.renderText disk palette source text =
      ⟨.ok ⟨source, defaults.directory, defaults.format,
        Text.withLastBreak (Text.unifyBreaks text)⟩, palette, []⟩) ∧
    (∀ (spelled : String) (session : Session) (bytes : Text.Bytes), session.disk.IsTree →
      Disk.hasNul defaults.directory = false →
      session.disk.readFile (Path.ofString spelled) = .ok bytes →
      Text.Utf8.decode bytes = .ok text → '\r' ∉ text → text.getLast? = some '\n' →
      let source := Path.ofString spelled
      let output := defaults.directory.entry source.name
      let (outcome, after) := (Blueprint.build defaults source).runIn session
      after.palette = session.palette ∧
      (∃ told, after.notices = session.notices ++ told ∧
        ∀ notice ∈ told, notice.severity = .debug) ∧
      ((∃ place, session.disk.spot defaults.directory = .ok (.taken place .directory) ∧
          outcome = .ok output ∧
          Disk.WrittenAt session.disk after.disk (place ++ [source.name]) bytes) ∨
        ∃ e, session.disk.writeFile output bytes = .error (.os e) ∧
          outcome = .error (.reported (.blueprint ⟨source, .unwritable output e⟩)) ∧
          after.disk = session.disk)) := by
  refine ⟨fun disk palette source =>
    defaults.renderText_of_absent disk palette source unmarked absent, ?_⟩
  intro spelled session bytes tree usual holds decoded noReturn ended source output
  have rendered : defaults.renderFile session.disk session.palette source = _ :=
    defaults.renderFile_of_absent session.disk session.palette unmarked absent holds decoded
      noReturn ended
  have bytesAre : bytes = Text.Utf8.encode text := Text.Utf8.decode_eq_ok_iff.mp decoded
  -- What was read is no directory, so the path ends in a name that the output has as well.
  obtain ⟨_, entry, led, noDirectory⟩ := Disk.spot_of_readFile holds
  obtain ⟨among, down⟩ := tree.name_of_spot led noDirectory
  have clean := Path.isClean_ofString spelled source.name among
  have outputIs : defaults.directory.child source.name = output :=
    Path.child_of_isCleanName _ clean
  have freeSource : Disk.hasNul source = false := (Disk.readFile_eq_ok_iff.mp holds).1
  have freeOutput : Disk.hasNul output = false := by
    rw [Disk.hasNul_entry, usual, Bool.false_or]
    exact Disk.not_contains_of_hasNul freeSource among
  have outcome : (defaults.renderFile session.disk session.palette source).outcome =
      .ok ⟨source, defaults.directory, defaults.format, text⟩ := by rw [rendered]
  rw [Blueprint.runIn_build_of_ok outcome]
  simp only [Session.withRendering, rendered, Rendered.output, outputIs, ← bytesAre]
  cases written : session.disk.writeFile output bytes with
  | ok disk =>
    dsimp only
    obtain ⟨place, above, changed⟩ := Disk.writeFile_entry clean.ne_empty down written
    refine ⟨rfl, ⟨_, List.append_assoc _ _ _, ?_⟩, .inl ⟨place, above, rfl, changed⟩⟩
    simp
  | error denial =>
    obtain ⟨e, rfl⟩ := Disk.writeFile_refused freeOutput written
    dsimp only
    refine ⟨rfl, ⟨_, rfl, ?_⟩, .inr ⟨e, rfl, rfl, rfl⟩⟩
    simp

/-- Near misses of placeholders, a directive behind the first line and a blank line are copied. -/
theorem plain_text_survives_near_misses :
    let text := "\x7b1:b\x7d \x7b\x7bx y\x7d\x7d\x7b\n%color-format 6h\n\n\x7bink:5:\x7d\n".toList
    let disk : Disk := ⟨[], [(["out"], .directory),
      (["note"], .file (Text.Utf8.encode text) false)]⟩
    let session : Session := ⟨disk, ⟨[("ink", ⟨17, 34, 51⟩)]⟩, []⟩
    let defaults : Defaults := ⟨Path.ofString "/home", .hashed, Path.ofString "/out"⟩
    let (outcome, after) := (Blueprint.build defaults (Path.ofString "note")).runIn session
    (∀ line ∈ (Defaults.linesOf text).head?, Directive.isMarked line = false) ∧
      Placeholder.IsAbsentFrom text ∧ disk.IsTree ∧
      (defaults.renderText disk session.palette (Path.ofString "note") text).outcome =
        .ok ⟨Path.ofString "note", Path.ofString "/out", .hashed, text⟩ ∧
      outcome = .ok (Path.ofString "/out/note") ∧ after.palette = session.palette ∧
      Disk.WrittenAt disk after.disk ["out", "note"] (Text.Utf8.encode text) := by
  intro text disk session defaults
  have unmarked : ∀ line ∈ (Defaults.linesOf text).head?, Directive.isMarked line = false := by
    decide
  have absent : Placeholder.IsAbsentFrom text := Placeholder.isAbsentFrom_iff.mpr (by decide +kernel)
  have tree : disk.IsTree := by decide
  have holds : disk.readFile (Path.ofString "note") = .ok (Text.Utf8.encode text) := by rfl
  obtain ⟨rendered, copied⟩ := plain_text_survives defaults text unmarked absent
  have whole : Text.withLastBreak (Text.unifyBreaks text) = text := by decide
  obtain ⟨palette, _, ⟨place, above, built, written⟩ | ⟨e, refused, _⟩⟩ :=
    copied "note" session _ tree (by decide) holds (Text.Utf8.decode_encode text) (by decide)
      (by decide)
  · obtain rfl : ["out"] = place := by
      cases above
      rfl
    refine ⟨unmarked, absent, tree, ?_, built, palette, written⟩
    rw [rendered, whole]
  · -- There is room for the output, so the write is not refused.
    have granted : (disk.writeFile (defaults.directory.entry "note")
        (Text.Utf8.encode text)).isOk = true := by rfl
    have refused : disk.writeFile (defaults.directory.entry "note") (Text.Utf8.encode text) =
        .error (.os e) := refused
    rw [refused] at granted
    cases granted

end Themer
