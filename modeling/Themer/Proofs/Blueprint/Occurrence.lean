import Mathlib.Data.List.Pairwise
import Themer.Proofs.Blueprint.Grammar

/-! The placeholders of a line are all that it spells, and each is replaced once in its place. -/

namespace Themer

namespace Placeholder

/-- A line spells a placeholder from the given place on. -/
def Occurs (line : List Char) (place : Nat) (placeholder : Placeholder) : Prop :=
  ∃ before text after, line = before ++ (text ++ after) ∧ before.length = place ∧
    Spells text placeholder

/-- A stretch of a line, and the text that comes in its place. -/
structure Replacement where
  start : Nat
  length : Nat
  text : List Char

/-- What is left of a line behind a given place, with texts in the place of its stretches. -/
def spliceFrom (line : List Char) (done : Nat) : List Replacement → List Char
  | [] => line.drop done
  | replacement :: rest =>
    (line.drop done).take (replacement.start - done) ++ replacement.text ++
      spliceFrom line (replacement.start + replacement.length) rest

/-- What comes in the place of some placeholders of a line, resolved from left to right. -/
def replacements (format : String) (palette : Palette) :
    List (Nat × Placeholder) → List Replacement
  | [] => []
  | (place, placeholder) :: rest =>
    let first := placeholder.resolve format palette
    ⟨place, placeholder.text.length, first.text⟩ :: replacements format first.palette rest

/-- A line that begins with a placeholder spells this one and those behind it, but none inside. -/
theorem occurs_append_iff {text : List Char} {first : Placeholder} (spelled : Spells text first)
    {after : List Char} {place : Nat} {placeholder : Placeholder} :
    Occurs (text ++ after) place placeholder ↔
      (place = 0 ∧ placeholder = first) ∨
        ∃ later, place = text.length + later ∧ Occurs after later placeholder := by
  constructor
  · -- The text before a placeholder and the first placeholder both begin the line.
    rintro ⟨before, other, rest, split, rfl, otherSpelled⟩
    rcases List.append_eq_append_iff.mp split with ⟨more, rfl, restIs⟩ | ⟨inside, textIs, restIs⟩
    · -- The text before it covers the first placeholder.
      exact .inr ⟨more.length, by simp, more, other, rest, restIs, rfl, otherSpelled⟩
    · -- It begins within the first placeholder, or right behind it.
      obtain ⟨inner, innerIs, closed⟩ := spelled.opens
      obtain ⟨otherInner, rfl, _⟩ := otherSpelled.opens
      cases before with
      | nil =>
        -- At one place, only one placeholder can begin.
        have begins : '\x7b' :: otherInner <+: text ++ after := ⟨rest, by simpa using split.symm⟩
        exact .inl ⟨rfl, (spelled.unique (List.prefix_append text after) otherSpelled begins).2.symm⟩
      | cons c before =>
        cases inside with
        | nil => exact .inr ⟨0, by simp [textIs], [], _, rest, by simpa using restIs.symm, rfl,
            otherSpelled⟩
        | cons d inside =>
          -- An opening brace would stand inside the first placeholder.
          simp only [List.cons_append, List.cons.injEq] at restIs
          simp only [innerIs, List.cons_append, List.cons.injEq] at textIs
          rw [textIs.2, ← restIs.1] at closed
          simp at closed
  · rintro (⟨rfl, rfl⟩ | ⟨later, rfl, before, other, rest, rfl, rfl, otherSpelled⟩)
    · exact ⟨[], text, after, rfl, rfl, spelled⟩
    · exact ⟨text ++ before, other, rest, by simp, by simp, otherSpelled⟩

/-- Where no placeholder begins with a character, all of them are spelled behind it. -/
theorem occurs_cons_iff {c : Char} {rest : List Char}
    (unspelled : ∀ text placeholder, Spells text placeholder → ¬ text <+: c :: rest)
    {place : Nat} {placeholder : Placeholder} :
    Occurs (c :: rest) place placeholder ↔
      ∃ later, place = later + 1 ∧ Occurs rest later placeholder := by
  constructor
  · rintro ⟨before, text, after, split, rfl, spelled⟩
    -- One at the very start is excluded, and any other has the character before it.
    cases before with
    | nil => exact absurd ⟨after, split.symm⟩ (unspelled text placeholder spelled)
    | cons d before =>
      simp only [List.cons_append, List.cons.injEq] at split
      exact ⟨before.length, rfl, before, text, after, split.2, rfl, spelled⟩
  · rintro ⟨later, rfl, before, text, after, rfl, rfl, spelled⟩
    exact ⟨c :: before, text, after, rfl, rfl, spelled⟩

/-- The placeholders found in a line are those that it spells, each at its place. -/
theorem mem_placedFrom_iff {line : List Char} {start place : Nat} {placeholder : Placeholder} :
    (place, placeholder) ∈ placedFrom start (pieces line) ↔
      ∃ later, place = start + later ∧ Occurs line later placeholder := by
  -- The induction goes along the line, so the place where the rest starts stays quantified over.
  induction line using scan_induction generalizing start with
  | nil =>
    -- Nothing is spelled in an empty line, since no text of a placeholder is empty.
    refine ⟨fun found => by simp [pieces, piecesFrom, placedFrom] at found, ?_⟩
    rintro ⟨_, _, before, text, after, split, _, spelled⟩
    obtain ⟨inner, rfl, _⟩ := spelled.opens
    simp at split
  | hole text first after spelled ih =>
    -- The placeholder found first is the one spelled first, and the others lie behind it.
    rw [pieces_of_spells spelled, placedFrom, List.mem_cons, ih, ← String.length_toList,
      spelled.text_eq]
    simp only [occurs_append_iff spelled, Prod.mk.injEq]
    constructor
    · rintro (⟨rfl, rfl⟩ | ⟨later, rfl, occurs⟩)
      · exact ⟨0, rfl, .inl ⟨rfl, rfl⟩⟩
      · exact ⟨text.length + later, by omega, .inr ⟨later, rfl, occurs⟩⟩
    · rintro ⟨_, rfl, ⟨rfl, rfl⟩ | ⟨later, rfl, occurs⟩⟩
      · exact .inl ⟨rfl, rfl⟩
      · exact .inr ⟨later, by omega, occurs⟩
  | char c rest unspelled ih =>
    -- A character that stays moves all that is behind it by one place.
    rw [pieces_of_not_spells unspelled, placedFrom, ih]
    simp only [occurs_cons_iff unspelled]
    constructor
    · rintro ⟨later, rfl, occurs⟩
      exact ⟨later + 1, by omega, later, rfl, occurs⟩
    · rintro ⟨_, rfl, later, rfl, occurs⟩
      exact ⟨later, by omega, occurs⟩

/-- Every placeholder is placed where its pieces start, or behind that. -/
theorem le_of_mem_placedFrom {start place : Nat} {placeholder : Placeholder} {pieces : List Piece}
    (found : (place, placeholder) ∈ placedFrom start pieces) : start ≤ place := by
  induction pieces generalizing start with
  | nil => cases found
  | cons piece rest ih =>
    cases piece with
    | char c =>
      have := ih found
      omega
    | hole first =>
      rcases List.mem_cons.mp found with same | later
      · cases same; omega
      · have := ih later
        omega

/-- The placeholders of a line come in order, each behind the end of those before. -/
theorem placedFrom_pairwise (start : Nat) (pieces : List Piece) :
    (placedFrom start pieces).Pairwise fun a b => a.1 + a.2.text.length ≤ b.1 := by
  -- What follows a placeholder is placed from its end on.
  induction pieces generalizing start with
  | nil => exact .nil
  | cons piece rest ih =>
    cases piece with
    | char c => exact ih (start + 1)
    | hole first =>
      exact .cons (fun later found => le_of_mem_placedFrom found) (ih _)

/-- Up to the next stretch to be replaced the line stays as it is. -/
theorem spliceFrom_cons {line : List Char} {done : Nat} {c : Char} {rest : List Char}
    (next : line.drop done = c :: rest) {stretches : List Replacement}
    (later : ∀ stretch ∈ stretches, done < stretch.start) :
    spliceFrom line done stretches = c :: spliceFrom line (done + 1) stretches := by
  -- One character further on, the rest of the line is what followed that character.
  have along : line.drop (done + 1) = rest := by
    rw [← List.drop_drop, next, List.drop_one, List.tail_cons]
  cases stretches with
  | nil => simp [spliceFrom, next, along]
  | cons stretch stretches =>
    -- The gap before the next stretch begins with the character.
    have behind := later stretch (by simp)
    have gap : stretch.start - done = (stretch.start - (done + 1)) + 1 := by omega
    simp [spliceFrom, next, along, gap]

/-- Replacing takes place where the placeholders are. -/
theorem mem_replacements_start {format : String} {palette : Palette}
    {placed : List (Nat × Placeholder)} {stretch : Replacement}
    (member : stretch ∈ replacements format palette placed) :
    ∃ placeholder, (stretch.start, placeholder) ∈ placed := by
  induction placed generalizing palette with
  | nil => cases member
  | cons first rest ih =>
    rcases List.mem_cons.mp member with rfl | later
    · exact ⟨first.2, by simp⟩
    · obtain ⟨placeholder, found⟩ := ih later
      exact ⟨placeholder, by simp [found]⟩

/-- Resolving the rest of a line replaces the placeholders of that rest where they are. -/
theorem resolvePieces_text (format : String) (palette : Palette) (before rest : List Char) :
    (resolvePieces format palette (pieces rest)).text =
      spliceFrom (before ++ rest) before.length
        (replacements format palette (placedFrom before.length (pieces rest))) := by
  -- What lies behind grows along the line, and so does what the palette remembers.
  induction rest using scan_induction generalizing before palette with
  | nil => simp [pieces, piecesFrom, placedFrom, resolvePieces, replacements, spliceFrom]
  | hole text first after spelled ih =>
    have size : first.text.length = text.length := by
      rw [← String.length_toList, spelled.text_eq]
    -- Behind the placeholder, its whole text counts as done.
    have onward := ih (first.resolve format palette).palette (before ++ text)
    simp only [List.append_assoc, List.length_append] at onward
    simp only [pieces_of_spells spelled, resolvePieces, placedFrom, replacements, spliceFrom,
      size, onward, Nat.sub_self, List.take_zero, List.nil_append]
  | char c rest unspelled ih =>
    have onward := ih palette (before ++ [c])
    simp only [List.append_assoc, List.singleton_append, List.length_append,
      List.length_singleton] at onward
    simp only [pieces_of_not_spells unspelled, resolvePieces, placedFrom, onward]
    -- No placeholder starts at the character itself.
    have next : (before ++ c :: rest).drop before.length = c :: rest := by simp
    refine (spliceFrom_cons next ?_).symm
    intro stretch member
    obtain ⟨placeholder, found⟩ := mem_replacements_start member
    have := le_of_mem_placedFrom found
    omega

/-- A placeholder found in a line is spelled there, and one that is spelled is found. -/
theorem mem_placed_iff {line : List Char} {place : Nat} {placeholder : Placeholder} :
    (place, placeholder) ∈ placed line ↔ Occurs line place placeholder := by
  simp [placed, mem_placedFrom_iff]

/-- Two placed placeholders are one and the same, or one of them ends before the other starts. -/
def Apart (a b : Nat × Placeholder) : Prop :=
  a = b ∨ a.1 + a.2.text.length ≤ b.1 ∨ b.1 + b.2.text.length ≤ a.1

instance : Std.Symm Apart where
  symm _ _ := by
    rintro (same | before | behind)
    · exact .inl same.symm
    · exact .inr (.inr before)
    · exact .inr (.inl behind)

/-- No two placeholders that a line spells overlap. -/
theorem Occurs.apart {line : List Char} {place other : Nat} {placeholder found : Placeholder}
    (occurs : Occurs line place placeholder) (otherOccurs : Occurs line other found) :
    Apart (place, placeholder) (other, found) := by
  -- Both are among those found, and these come in order.
  have ordered : (placed line).Pairwise Apart :=
    (placedFrom_pairwise 0 (pieces line)).imp fun before => .inr (.inl before)
  exact ordered.forall_of_forall (fun _ _ => .inl rfl)
    (mem_placed_iff.mpr occurs) (mem_placed_iff.mpr otherOccurs)

/--
A line gets colors exactly where it spells placeholders, and keeps every other character.

What comes in the place of a placeholder is never read again, since only the line itself is cut.
-/
theorem resolveLine_replaces (format : String) (palette : Palette) (line : List Char) :
    (∀ place placeholder,
      (place, placeholder) ∈ placed line ↔ Occurs line place placeholder) ∧
    (∀ place placeholder other found, Occurs line place placeholder → Occurs line other found →
      Apart (place, placeholder) (other, found)) ∧
    ((placed line).Pairwise fun a b => a.1 + a.2.text.length ≤ b.1) ∧
    (resolveLine format palette line).text =
      spliceFrom line 0 (replacements format palette (placed line)) :=
  ⟨fun _ _ => mem_placed_iff, fun _ _ _ _ occurs otherOccurs => occurs.apart otherOccurs,
    placedFrom_pairwise 0 (pieces line), resolvePieces_text format palette [] line⟩

/-- Stray braces around two placeholders stay, and change nothing about where these are and end. -/
theorem resolveLine_replaces_stray :
    let line := "\x7b\x7ba\x7d\x7bb:5:c\x7d".toList
    let palette : Palette := ⟨[("a", ⟨0, 0, 0⟩), ("b", ⟨0, 0, 0⟩), ("c", ⟨255, 255, 255⟩)]⟩
    Occurs line 1 (.plain "a") ∧ Occurs line 4 (.mix "b" "5" "c") ∧
    Apart (1, .plain "a") (4, .mix "b" "5" "c") ∧
    (resolveLine "6h" palette line).text = "\x7b000000F2F2F2".toList := by
  intro line palette
  have first : Occurs line 1 (.plain "a") := mem_placed_iff.mp (by decide)
  have second : Occurs line 4 (.mix "b" "5" "c") := mem_placed_iff.mp (by decide)
  obtain ⟨_, apart, _, replaced⟩ := resolveLine_replaces "6h" palette line
  exact ⟨first, second, apart _ _ _ _ first second, replaced.trans (by decide +kernel)⟩

/-- A color between two braces looks like a placeholder, and is left alone. -/
example : (resolveLine "6h" ⟨[("a", ⟨0, 0, 0⟩)]⟩ "\x7b\x7ba\x7d\x7d".toList).text =
    "\x7b000000\x7d".toList := by
  decide

end Placeholder

end Themer
