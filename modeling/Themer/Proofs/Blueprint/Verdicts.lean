import Mathlib.Data.Nat.Digits.Defs
import Themer.Proofs.Blueprint.History
import Themer.Proofs.Blueprint.NamesApart
import Themer.Proofs.Color.Calls

/-!
Each placeholder of a line is judged by itself.

What it turns into depends neither on the placeholders before it nor on whether they fail, and one
that fails leaves a warning and nothing else.
-/

namespace Themer

namespace Text

/-- The number that decimal digits of any scripts spell, the last of them counting ones. -/
def decimal (digits : List Char) : Nat :=
  Nat.ofDigits 10 (digits.reverse.filterMap digit?)

/-- The number of a run of digits is the one that they spell. -/
theorem digitsValue_eq_decimal {digits : List Char} (all : ∀ c ∈ digits, isDigit c = true) :
    digitsValue digits = decimal digits := by
  -- The digits are read from the front, so the last one is taken off first.
  induction digits using List.reverseRecOn with
  | nil => rfl
  | append_singleton before last ih =>
    rw [List.forall_mem_append, List.forall_mem_singleton] at all
    obtain ⟨value, spelled⟩ := Option.isSome_iff_exists.mp all.2
    have front := ih all.1
    unfold digitsValue decimal at front ⊢
    rw [List.foldl_append, front, List.reverse_append, List.reverse_singleton,
      List.singleton_append, List.filterMap_cons_some spelled, Nat.ofDigits_cons]
    simp only [List.foldl_cons, List.foldl_nil, spelled, Option.getD_some]
    ring

end Text

/-- No mix by an amount in range fails, whatever the palette remembers. -/
theorem Palette.mixed_ne_error (palette : Palette) {amount : Int}
    (inRange : 0 ≤ amount ∧ amount ≤ 100) (first second : String) (e : ColorError) :
    (palette.mixed first amount second).1 ≠ .error e := by
  -- A mix that is kept is given as it is, and two colors always mix by an amount in range.
  have short := isTooLongToWrite_of_inRange inRange
  rw [mixed_fst_eq, short, if_neg Bool.false_ne_true]
  split
  · simp
  · rw [freshMix, short, if_neg Bool.false_ne_true]
    split
    · rename_i a b _ _
      obtain ⟨color, mixed⟩ := Color.exists_mix inRange a b
      simp [mixed, Except.map]
    · simp

/-- The text of the placeholder that a warning is about, without its braces. -/
def Warning.expression : Warning → String
  | .noColor expression | .noFormat expression _ => expression

/-- Whether a message shows a name somewhere. -/
def Shows (message name : String) : Prop :=
  ∃ before after, message = before ++ name ++ after

/-- A warning shows the blueprint that it is about. -/
theorem shows_blueprint (blueprint : String) (warning : Warning) :
    Shows (warning.message blueprint) blueprint := by
  cases warning with
  | noColor expression => exact ⟨"While parsing blueprint `", _, String.append_assoc ..⟩
  | noFormat expression format => exact ⟨"While parsing blueprint `", _, String.append_assoc ..⟩

/-- A warning shows the text of its placeholder. -/
theorem shows_expression (blueprint : String) (warning : Warning) :
    Shows (warning.message blueprint) warning.expression := by
  -- The text comes first of what a warning tells, or it is all that a warning tells.
  have inside (front opening name closing : String) :
      Shows (front ++ (opening ++ name ++ closing)) name :=
    ⟨front ++ opening, closing, by simp only [String.append_assoc]⟩
  have beforeOther (front opening name between other closing : String) :
      Shows (front ++ (opening ++ name ++ between ++ other ++ closing)) name :=
    ⟨front ++ opening, between ++ other ++ closing, by simp only [String.append_assoc]⟩
  cases warning with
  | noColor expression => exact inside _ _ _ _
  | noFormat expression format => exact beforeOther _ _ _ _ _ _

namespace Placeholder

/-- The color that a placeholder finds in a palette. -/
def found? (palette : Palette) (placeholder : Placeholder) : Option Color :=
  (placeholder.color? palette).1

/-- What comes in the place of a placeholder alone, and the warning about it if that is nothing. -/
def alone (format : String) (palette : Palette) (placeholder : Placeholder) :
    List Char × Option Warning :=
  match placeholder.found? palette, Format.ofName? format with
  | none, _ => ([], some (.noColor placeholder.expression))
  | some color, some format => ((color.write format).toList, none)
  | some _, none => ([], some (.noFormat placeholder.expression format))

variable {palette met : Palette} {placeholder : Placeholder}

/-- Palettes that agree find the same, and still agree after that. -/
theorem found?_of_agrees (agree : met.Agrees palette) (plain : placeholder.IsPlain) :
    placeholder.found? met = placeholder.found? palette ∧
      (placeholder.color? met).2.Agrees palette := by
  obtain ⟨same, after, _⟩ := (Palette.bisimulation_agrees palette).color?
    (p := met) (q := palette) ⟨agree, .refl palette⟩ plain
  exact ⟨same, after⟩

/-- A placeholder turns into what it does alone, in each palette that agrees. -/
theorem resolve_of_agrees (agree : met.Agrees palette) (plain : placeholder.IsPlain)
    (format : String) :
    let resolution := placeholder.resolve format met
    resolution.text = (placeholder.alone format palette).1 ∧
      resolution.warnings = (placeholder.alone format palette).2.toList ∧
      resolution.palette.Agrees palette := by
  -- What is found is the same, and only the format decides what becomes of it.
  obtain ⟨same, after⟩ := found?_of_agrees agree plain
  unfold resolve alone
  rw [← same, found?]
  cases asked : placeholder.color? met with
  | mk found left =>
    rw [asked] at after
    cases found with
    | none => exact ⟨rfl, rfl, after⟩
    | some color =>
      cases written : Format.ofName? format <;>
        simpa [Color.writeNamed, written] using after

/-- Whether digits are few enough to be read, and stand for no more than the whole. -/
def IsAmount (digits : String) : Prop :=
  digits.toList.length ≤ digitLimit ∧ Text.digitsValue digits.toList ≤ maxAmount

/-- A mix by an amount is asked for, and so is what the palette is after it. -/
theorem color?_of_isAmount {first digits second : String} (amount : IsAmount digits) :
    (mix first digits second).color? met =
      ((met.mixed first (Text.digitsValue digits.toList) second).1.toOption.join,
        (met.mixed first (Text.digitsValue digits.toList) second).2) := by
  -- The digits pass each limit in turn, so that their number is what the palette is asked for.
  obtain ⟨few, small⟩ := amount
  have byte : ¬ 255 < Text.digitsValue digits.toList := by
    rw [maxAmount] at small
    omega
  have read : readAmount digits = .ok (Text.digitsValue digits.toList) := by
    simp only [readAmount, readNumeral, if_neg (Nat.not_lt.mpr few), if_neg byte]
  simp only [color?, read, if_neg (Nat.not_lt.mpr small)]
  cases asked : met.mixed first (Text.digitsValue digits.toList) second with
  | mk given left => cases given <;> rfl

/-- A mix by anything else finds nothing, and the palette is not asked. -/
theorem color?_of_not_isAmount {first digits second : String} (other : ¬ IsAmount digits) :
    (mix first digits second).color? met = (none, met) := by
  simp only [color?]
  cases read : readAmount digits with
  | error e => rfl
  | ok amount =>
    -- What was read is the value of the digits, which are few; so it is too great.
    unfold readAmount readNumeral at read
    by_cases few : digits.toList.length ≤ digitLimit
    · rw [if_neg (Nat.not_lt.mpr few)] at read
      dsimp only at read
      split at read
      · cases read
      · cases read
        have high : maxAmount < Text.digitsValue digits.toList :=
          Nat.lt_of_not_le fun small => other ⟨few, small⟩
        simp only [if_pos high]
    · rw [if_pos (Nat.lt_of_not_le few)] at read
      cases read

/-- The palette after a placeholder is the one before, or has the mix that was found behind it. -/
theorem color?_snd (met : Palette) (placeholder : Placeholder) :
    (placeholder.color? met).2 = met ∨
      ∃ first digits second color, placeholder = .mix first digits second ∧
        placeholder.found? met = some color ∧ (placeholder.color? met).2 =
          ⟨met.entries ++
            [(Palette.mixName first (Text.digitsValue digits.toList) second, color)]⟩ := by
  -- Only a mix is ever remembered, and only one that the palette was asked for.
  cases placeholder with
  | plain name => exact .inl rfl
  | mix first digits second =>
    by_cases amount : IsAmount digits
    · rw [found?, color?_of_isAmount amount]
      obtain same | ⟨color, _, answered, added⟩ :=
        Palette.mixed_snd_eq met first (Text.digitsValue digits.toList) second
      · exact .inl same
      · exact .inr ⟨first, digits, second, color, rfl, by rw [answered]; rfl, added⟩
    · exact .inl (by rw [color?_of_not_isAmount amount])

/-- Writing a color asks the palette for nothing more. -/
theorem resolve_palette (format : String) (met : Palette) (placeholder : Placeholder) :
    (placeholder.resolve format met).palette = (placeholder.color? met).2 := by
  unfold resolve
  cases placeholder.color? met with
  | mk found left =>
    cases found with
    | none => rfl
    | some color => cases written : color.writeNamed format <;> simp only [written]

/-- A color is found for a mix exactly where the scheme's colors make it, by an amount. -/
theorem found?_mix_eq_some_iff {scheme : Palette} (grown : Palette.GrownFrom scheme met)
    (named : scheme.IsScheme) {first digits second : String}
    (plain : (mix first digits second).IsPlain) {color : Color} :
    (mix first digits second).found? met = some color ↔
      IsAmount digits ∧
        Palette.Mix.Makes scheme ⟨first, Text.digitsValue digits.toList, second⟩ color := by
  -- By an amount, the answer is that of the scheme; by anything else there is none.
  rw [Palette.Mix.makes_iff, found?]
  by_cases amount : IsAmount digits
  · rw [color?_of_isAmount amount, grown.mixed_fst named _ plain.1 plain.2]
    cases Palette.freshMix scheme.get? first (Text.digitsValue digits.toList) second with
    | error e => simp [Except.toOption]
    | ok found => simp [Except.toOption, amount]
  · simp [color?_of_not_isAmount amount, amount]

/-- A color is found for some mix exactly where both of its colors are there, by an amount. -/
theorem isSome_found?_mix_iff {scheme : Palette} (grown : Palette.GrownFrom scheme met)
    (named : scheme.IsScheme) {first digits second : String}
    (plain : (mix first digits second).IsPlain) :
    ((mix first digits second).found? met).isSome = true ↔
      IsAmount digits ∧ scheme.contains first = true ∧ scheme.contains second = true := by
  simp only [Option.isSome_iff_exists, found?_mix_eq_some_iff grown named plain, Palette.contains]
  constructor
  · rintro ⟨color, amount, _, a, b, firstIs, secondIs, _⟩
    exact ⟨amount, ⟨a, firstIs⟩, b, secondIs⟩
  · -- Digits spell no negative number, so a small one is in range and the mix is made.
    rintro ⟨amount, ⟨a, firstIs⟩, b, secondIs⟩
    have inRange : 0 ≤ (Text.digitsValue digits.toList : Int) ∧
        (Text.digitsValue digits.toList : Int) ≤ 100 := by
      have small := amount.2
      rw [maxAmount] at small
      omega
    exact ⟨_, amount, inRange, a, b, firstIs, secondIs, dif_pos inRange⟩

/-- The amount of a mix that is spelled somewhere is written in digits. -/
theorem Spells.forall_isDigit {text : List Char} {first digits second : String}
    (spelled : Spells text (.mix first digits second)) :
    ∀ c ∈ digits.toList, Text.isDigit c = true := by
  cases spelled with
  | mix _ isAmount _ => simpa using isAmount.2

/-- A placeholder that is one of some pieces has a place among them. -/
theorem exists_mem_placedFrom {pieces : List Piece} {placeholder : Placeholder} (start : Nat)
    (among : .hole placeholder ∈ pieces) :
    ∃ place, (place, placeholder) ∈ placedFrom start pieces := by
  -- Each piece moves the place of the next one on, so the place to start from varies.
  induction pieces generalizing start with
  | nil => cases among
  | cons piece rest ih =>
    rcases List.mem_cons.mp among with rfl | later
    · exact ⟨start, List.mem_cons_self ..⟩
    · cases piece with
      | char c => exact ih (start + 1) later
      | hole first =>
        obtain ⟨place, found⟩ := ih (start + first.text.length) later
        exact ⟨place, List.mem_cons_of_mem _ found⟩

/-- What comes in the place of a placeholder that stands at some place, judged alone. -/
def replacementAlone (format : String) (palette : Palette) (placed : Nat × Placeholder) :
    Replacement :=
  ⟨placed.1, placed.2.text.length, (placed.2.alone format palette).1⟩

/-- What is replaced from left to right is what each placeholder is replaced by alone. -/
theorem replacements_of_agrees (agree : met.Agrees palette) (format : String)
    {placed : List (Nat × Placeholder)} (plain : ∀ found ∈ placed, found.2.IsPlain) :
    replacements format met placed = placed.map (replacementAlone format palette) := by
  -- Each placeholder leaves a palette that agrees with the one before it.
  induction placed generalizing met with
  | nil => rfl
  | cons first rest ih =>
    rw [List.forall_mem_cons] at plain
    obtain ⟨text, _, after⟩ := resolve_of_agrees agree plain.1 format
    rw [replacements, List.map_cons, ih after plain.2, text]
    rfl

section

variable {pieces : List Piece} (plain : ∀ placeholder, .hole placeholder ∈ pieces →
  placeholder.IsPlain)
include plain

/-- The warnings about some pieces are those about each of their placeholders alone. -/
theorem warnings_of_agrees (agree : met.Agrees palette) (format : String) (start : Nat) :
    (resolvePieces format met pieces).warnings =
      (placedFrom start pieces).filterMap fun found => (found.2.alone format palette).2 := by
  -- Whatever palette a placeholder meets, it agrees with the one before the pieces.
  induction pieces generalizing met start with
  | nil => rfl
  | cons piece rest ih =>
    have plainLater := fun placeholder member =>
      plain placeholder (List.mem_cons_of_mem piece member)
    cases piece with
    | char c => exact ih plainLater agree (start + 1)
    | hole placeholder =>
      obtain ⟨_, warnings, after⟩ := resolve_of_agrees agree (plain placeholder (by simp)) format
      rw [resolvePieces, placedFrom]
      dsimp only
      rw [warnings, ih plainLater after, List.filterMap_cons]
      cases (placeholder.alone format palette).2 <;> rfl

/-- What some pieces add to a palette are the mixes that their placeholders find alone. -/
theorem exists_added_of_agrees (agree : met.Agrees palette) (format : String) :
    ∃ added, (resolvePieces format met pieces).palette.entries = met.entries ++ added ∧
      ∀ entry ∈ added, ∃ first digits second, .hole (.mix first digits second) ∈ pieces ∧
        entry.1 = Palette.mixName first (Text.digitsValue digits.toList) second ∧
        (mix first digits second).found? palette = some entry.2 := by
  -- The palette grows from piece to piece, but what is found is judged by the one before all.
  induction pieces generalizing met with
  | nil => exact ⟨[], by simp [resolvePieces], by simp⟩
  | cons piece rest ih =>
    have plainLater := fun placeholder member =>
      plain placeholder (List.mem_cons_of_mem piece member)
    cases piece with
    | char c =>
      obtain ⟨added, split, known⟩ := ih plainLater agree
      refine ⟨added, split, fun entry among => ?_⟩
      obtain ⟨first, digits, second, later, found⟩ := known entry among
      exact ⟨first, digits, second, List.mem_cons_of_mem _ later, found⟩
    | hole placeholder =>
      obtain ⟨same, _⟩ := found?_of_agrees agree (plain placeholder (by simp))
      obtain ⟨_, _, after⟩ := resolve_of_agrees agree (plain placeholder (by simp)) format
      obtain ⟨added, split, known⟩ := ih plainLater after
      have later : ∀ entry ∈ added, ∃ first digits second,
          .hole (.mix first digits second) ∈ .hole placeholder :: rest ∧
            entry.1 = Palette.mixName first (Text.digitsValue digits.toList) second ∧
            (mix first digits second).found? palette = some entry.2 := fun entry among => by
        obtain ⟨first, digits, second, later, found⟩ := known entry among
        exact ⟨first, digits, second, List.mem_cons_of_mem _ later, found⟩
      rw [resolvePieces]
      dsimp only
      rw [split, resolve_palette]
      -- The first placeholder adds at most the mix that it finds.
      obtain unchanged | ⟨first, digits, second, color, rfl, found, grown⟩ :=
        color?_snd met placeholder
      · exact ⟨added, by rw [unchanged], later⟩
      · refine ⟨_ :: added, by rw [grown, List.append_assoc]; rfl, ?_⟩
        exact List.forall_mem_cons.mpr
          ⟨⟨first, digits, second, by simp, rfl, same.symm.trans found⟩, later⟩

end

/-- Whether a placeholder that fails alone is left empty, with one warning that tells which it is. -/
def FailsAlone (format : String) (palette : Palette) (placeholder : Placeholder) : Prop :=
  ∃ warning, placeholder.alone format palette = ([], some warning) ∧
    warning.expression = placeholder.expression ∧
    ∀ blueprint, let notice := warning.notice blueprint
      notice.severity = .warning ∧ Shows notice.text blueprint ∧
        Shows notice.text placeholder.expression

/-- A placeholder that finds no color fails alone, and so does each in a format that there is not. -/
theorem failsAlone_of_not_found {format : String}
    (fails : placeholder.found? palette = none ∨ Format.ofName? format = none) :
    placeholder.FailsAlone format palette := by
  -- Either way there is one warning, and it shows the blueprint and the placeholder.
  have told (warning : Warning) (same : warning.expression = placeholder.expression)
      (left : placeholder.alone format palette = ([], some warning)) :
      placeholder.FailsAlone format palette :=
    ⟨warning, left, same, fun blueprint =>
      ⟨rfl, shows_blueprint blueprint warning, same ▸ shows_expression blueprint warning⟩⟩
  cases found : placeholder.found? palette with
  | none => exact told (.noColor placeholder.expression) rfl (by simp only [alone, found])
  | some color =>
    cases named : Format.ofName? format with
    | none =>
      exact told (.noFormat placeholder.expression format) rfl (by simp only [alone, found, named])
    | some known => simp [found, named] at fails

/-- A placeholder that occurs in a line stands there with its text between braces. -/
theorem Occurs.between_braces {line : List Char} {place : Nat} {placeholder : Placeholder}
    (occurs : Occurs line place placeholder) :
    ∃ before after, before.length = place ∧
      line = before ++ '\x7b' :: placeholder.expression.toList ++ '\x7d' :: after := by
  obtain ⟨before, text, after, rfl, size, spelled⟩ := occurs
  refine ⟨before, after, size, ?_⟩
  rw [← spelled.text_eq, Placeholder.text]
  simp

/--
What a line comes to where each of its placeholders is judged alone, by the palette before the line.

Each is replaced in its place and gives its own warning, if any; only mixes that are found are added.
-/
structure JudgesAlone (format : String) (palette : Palette) (line : List Char)
    (resolution : Resolution) : Prop where
  text : resolution.text = spliceFrom line 0 ((placed line).map (replacementAlone format palette))
  warnings : resolution.warnings =
    (placed line).filterMap fun found => (found.2.alone format palette).2
  added : ∃ added, resolution.palette.entries = palette.entries ++ added ∧
    ∀ entry ∈ added, ∃ place first digits second, Occurs line place (.mix first digits second) ∧
      entry.1 = Palette.mixName first (Text.decimal digits.toList) second ∧
      (Placeholder.mix first digits second).found? palette = some entry.2

/-- A line is resolved by judging each of its placeholders alone. -/
theorem judgesAlone_resolveLine (format : String) (palette : Palette) (line : List Char) :
    JudgesAlone format palette line (resolveLine format palette line) := by
  have agree := Palette.Agrees.refl palette
  have plain (placeholder : Placeholder) (found : .hole placeholder ∈ pieces line) :
      placeholder.IsPlain := isPlain_of_mem_pieces found
  refine ⟨?_, warnings_of_agrees plain agree format 0, ?_⟩
  · -- The text is cut where the placeholders are, and each of these calls colors by plain names.
    have plainPlaced : ∀ found ∈ placed line, found.2.IsPlain :=
      fun _ among => isPlain_of_mem_placed among
    rw [← replacements_of_agrees agree format plainPlaced]
    exact resolvePieces_text format palette [] line
  · obtain ⟨added, split, known⟩ := exists_added_of_agrees plain agree format
    refine ⟨added, split, fun entry among => ?_⟩
    obtain ⟨first, digits, second, found, named, color⟩ := known entry among
    obtain ⟨place, placedThere⟩ := exists_mem_placedFrom 0 found
    have occurs : Occurs line place _ := mem_placed_iff.mp placedThere
    obtain ⟨text, spelled⟩ := spells_of_mem_pieces found
    rw [Text.digitsValue_eq_decimal spelled.forall_isDigit] at named
    exact ⟨place, first, digits, second, occurs, named, color⟩

/--
The placeholders of a line are judged one by one, each by what its palette was before the line.

The line keeps all its other characters, and each placeholder that finds a color that can be written
turns into that color. Any other is left empty, with one warning that tells where and which it is;
the warnings come in the order of the placeholders. Only mixes that are found are remembered.

A name finds a color where the palette has it. A mix finds one where its digits are few enough to be
read, stand for no more than the whole, and both of its colors are in the scheme: the mix of these.
No mix is asked for that could fail.
-/
theorem resolveLine_judges_alone (format : String) (palette : Palette) (line : List Char) :
    JudgesAlone format palette line (resolveLine format palette line) ∧
    ((placed line).Pairwise fun a b => a.1 + a.2.text.length ≤ b.1) ∧
    (∀ place placeholder, ((place, placeholder) ∈ placed line ↔ Occurs line place placeholder) ∧
      (Occurs line place placeholder → ∃ before after, before.length = place ∧
        line = before ++ '\x7b' :: placeholder.expression.toList ++ '\x7d' :: after)) ∧
    (∀ placeholder : Placeholder,
      (placeholder.found? palette = none ∨ Format.ofName? format = none →
        placeholder.FailsAlone format palette) ∧
      ∀ color known, placeholder.found? palette = some color →
        Format.ofName? format = some known →
        placeholder.alone format palette = ((color.write known).toList, none)) ∧
    (∀ name, (Placeholder.plain name).found? palette = palette.get? name) ∧
    (∀ scheme : Palette, scheme.IsScheme → Palette.GrownFrom scheme palette →
      ∀ place first digits second, Occurs line place (.mix first digits second) →
        let amount := Text.decimal digits.toList
        let found := (Placeholder.mix first digits second).found? palette;
        (found.isSome = true ↔ digits.toList.length ≤ 4300 ∧ amount ≤ 100 ∧
          scheme.contains first = true ∧ scheme.contains second = true) ∧
        ∀ color, found = some color → Palette.Mix.Makes scheme ⟨first, amount, second⟩ color) ∧
    ∀ (met : Palette) (first second : String) (amount : Nat) (e : ColorError),
      amount ≤ maxAmount → (met.mixed first amount second).1 ≠ .error e := by
  refine ⟨judgesAlone_resolveLine format palette line, placedFrom_pairwise 0 (pieces line),
    fun place placeholder => ⟨mem_placed_iff, Occurs.between_braces⟩,
    fun placeholder => ⟨failsAlone_of_not_found, ?_⟩, fun _ => rfl, ?_, ?_⟩
  · intro color known found named
    simp only [alone, found, named]
  · intro scheme named grown place first digits second occurs amount found
    obtain ⟨_, text, _, _, _, spelled⟩ := occurs
    have value : Text.digitsValue digits.toList = amount :=
      Text.digitsValue_eq_decimal spelled.forall_isDigit
    have resolves := isSome_found?_mix_iff grown named spelled.isPlain
    rw [IsAmount, value, and_assoc] at resolves
    refine ⟨resolves, fun color same => ?_⟩
    have makes := ((found?_mix_eq_some_iff grown named spelled.isPlain).mp same).2
    rwa [value] at makes
  · intro met first second amount e small
    refine met.mixed_ne_error ⟨by omega, ?_⟩ first second e
    rw [maxAmount] at small
    omega

/-- Digits of another script make the mix that is remembered, and one hundredth too many is told. -/
theorem resolveLine_judges_alone_too_much :
    let scheme : Palette := ⟨[("ink", ⟨0, 0, 0⟩), ("paper", ⟨255, 255, 255⟩)]⟩
    let palette := (scheme.mixed "ink" 50 "paper").2
    let line := "\x7bink:\u0660\u0665\u0660:paper\x7d,\x7bink:101:paper\x7d,\x7bink:0:paper\x7d".toList
    let sound : Placeholder := .mix "ink" "\u0660\u0665\u0660" "paper"
    let much : Placeholder := .mix "ink" "101" "paper"
    (scheme.IsScheme ∧ Palette.GrownFrom scheme palette) ∧
      (Occurs line 0 sound ∧ Occurs line 16 much) ∧
      ((sound.found? palette).isSome = true ∧
        Palette.Mix.Makes scheme ⟨"ink", 50, "paper"⟩ ⟨127, 127, 127⟩) ∧
      (much.found? palette = none ∧ much.FailsAlone "6h" palette) ∧
      sound.alone "6h" palette = ((Color.write .bare ⟨127, 127, 127⟩).toList, none) ∧
      (palette.mixed "ink" 0 "paper").1 ≠ .error (.amountOutOfRange 0) ∧
      (resolveLine "6h" palette line).text = "7F7F7F,,FFFFFF".toList ∧
      (resolveLine "6h" palette line).warnings = [.noColor "ink:101:paper"] ∧
      (resolveLine "6h" palette line).palette.names =
        ["ink", "paper", "ink:50:paper", "ink:0:paper"] := by
  intro scheme palette line sound much
  have named : scheme.IsScheme := by decide +kernel
  have grown : Palette.GrownFrom scheme palette :=
    (Palette.GrownFrom.refl scheme).mixed_snd 50 (by decide +kernel) (by decide +kernel)
  have soundOccurs : Occurs line 0 sound := mem_placed_iff.mp (by decide +kernel)
  have muchOccurs : Occurs line 16 much := mem_placed_iff.mp (by decide +kernel)
  obtain ⟨_, _, _, outcomes, _, mixes, unfailing⟩ := resolveLine_judges_alone "6h" palette line
  obtain ⟨resolves, makes⟩ := mixes scheme named grown 0 _ _ _ soundOccurs
  obtain ⟨refused, _⟩ := mixes scheme named grown 16 _ _ _ muchOccurs
  have found : sound.found? palette = some ⟨127, 127, 127⟩ := by decide +kernel
  have half : Text.decimal "\u0660\u0665\u0660".toList = 50 := by decide +kernel
  have made := makes _ found
  rw [half] at made
  have missing : much.found? palette = none := by
    rw [← Option.not_isSome_iff_eq_none, refused]
    decide +kernel
  exact ⟨⟨named, grown⟩, ⟨soundOccurs, muchOccurs⟩,
    ⟨resolves.mpr (by decide +kernel), made⟩,
    ⟨missing, (outcomes much).1 (.inl missing)⟩,
    (outcomes sound).2 _ .bare found (by decide +kernel),
    unfailing palette "ink" "paper" 0 _ (by decide), by decide +kernel, by decide +kernel,
    by decide +kernel⟩

end Placeholder

end Themer
