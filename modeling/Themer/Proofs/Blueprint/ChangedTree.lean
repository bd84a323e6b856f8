import Themer.Proofs.Blueprint.Alike
import Themer.Proofs.Disk.Changed

/-! A blueprint comes to the same in a tree where other files were written. -/

namespace Themer

variable {may : Location → Entry → Prop} {before after : Disk}

/-- A line is sound if it asks for a format that there is, or for a directory that is there. -/
theorem Directive.fault?_eq_none_iff {home : Path} {disk : Disk} {line : List Char} :
    fault? home disk line = none ↔ ∃ directive, read? line = some directive ∧
      (directive.name = formatName ∧ (Format.ofName? directive.value).isSome ∨
        directive.name = directoryName ∧
          disk.look (Path.expandHome home directive.value) = .ok (some .directory)) := by
  have apart : directoryName ≠ formatName := by decide
  unfold fault?
  -- The cases are those of the program: no directive, on the format, on the directory, on neither.
  cases read? line with
  | none => simp
  | some directive =>
    by_cases onFormat : directive.name = formatName
    · simp [onFormat, apart.symm, Option.isSome_iff_ne_none]
    · by_cases onDirectory : directive.name = directoryName
      · -- Of all that can be seen at the path, only a directory is no fault.
        simp only [onDirectory, apart, if_false, if_true]
        split <;> simp_all
      · simp [onFormat, onDirectory]

namespace Defaults

variable (defaults : Defaults)

/-- In a tree with more files, lines come to the same, or they fail as they did. -/
theorem progress_of_changed (changed : Disk.Changed may before after)
    (files : Disk.FilesOnly may) (tree : before.IsTree) (palette : Palette)
    (lines : List (List Char)) :
    defaults.progress after palette lines = defaults.progress before palette lines ∨
      ∃ e f, (defaults.progress after palette lines).head = .error e ∧
        (defaults.progress before palette lines).head = .error f := by
  have isOpen : defaults.head.closed = false := rfl
  simp only [progress, renderFrom_of_open defaults.home _ isOpen]
  -- A head is sound as a whole where each line of it is.
  have sound : (headLines lines).findSome? (Directive.fault? defaults.home after) = none ↔
      (headLines lines).findSome? (Directive.fault? defaults.home before) = none := by
    simp only [List.findSome?_eq_none_iff, Directive.fault?_eq_none_iff,
      changed.look_eq_directory_iff files tree]
  cases earlier : (headLines lines).findSome? (Directive.fault? defaults.home before) with
  | none =>
    rw [sound.mpr earlier]
    exact .inl rfl
  | some f =>
    cases later : (headLines lines).findSome? (Directive.fault? defaults.home after) with
    | none => cases (sound.mp later).symm.trans earlier
    | some e => exact .inr ⟨e, f, rfl, rfl⟩

/-- A blueprint is rendered to the same in a tree with more files, if its own file was kept. -/
theorem renderFile_of_changed (changed : Disk.Changed may before after)
    (files : Disk.FilesOnly may) (tree : before.IsTree) (palette : Palette) {source : Path}
    (kept : ∀ place, before.place? source = some place →
      after.entry? place = before.entry? place) :
    (defaults.renderFile after palette source).outcome.toOption =
      (defaults.renderFile before palette source).outcome.toOption := by
  -- The same bytes are read, so that the two renderings can part at the lines of the head only.
  have same {content : Text.Bytes} :
      after.readFile source = .ok content ↔ before.readFile source = .ok content :=
    changed.readFile_eq_ok_iff files tree kept
  unfold renderFile
  dsimp only
  cases read : before.readFile source with
  | ok bytes =>
    rw [same.mpr read]
    dsimp only [renderBytes]
    cases Text.Utf8.decodeFile bytes with
    | mk text stopped =>
      cases stopped with
      | none =>
        obtain equal | ⟨e, f, later, earlier⟩ :=
          defaults.progress_of_changed changed files tree palette (linesOf text)
        · dsimp only
          rw [equal]
        · simp [Progress.rendering, later, earlier, Except.toOption]
      | some failure =>
        -- Bytes that cannot be read fail the blueprint, whatever its lines are.
        dsimp only
        split <;> rename_i one <;> split <;> rename_i two <;>
          simp [one, two, Except.toOption]
  | error denial =>
    -- What could not be read cannot be read later either, though for another reason maybe.
    cases reread : after.readFile source with
    | ok bytes => cases (same.mp reread).symm.trans read
    | error other => cases denial <;> cases other <;> rfl

end Defaults

end Themer
