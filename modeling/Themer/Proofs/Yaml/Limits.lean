import Mathlib.Algebra.Group.Nat.Defs
import Mathlib.Tactic.ByContra
import Themer.Proofs.Yaml.Values

/-!
What makes a document too much to read, or too much to show what is wrong with it.

A number is read, and can be written again, as long as no spelling of one goes on for too long.
-/

namespace Themer

namespace Datum

/-- Whether a value holds a number that is too long to be shown. -/
inductive HoldsTooLong : Datum → Prop
  | whole {value : Int} (long : isTooLongToWrite value = true) : HoldsTooLong (.whole value)
  | foreign {value : Foreign} (long : value.isTooLong = true) : HoldsTooLong (.foreign value)
  | item {items : List Datum} {item : Datum} (among : item ∈ items) (long : HoldsTooLong item) :
      HoldsTooLong (.list items)
  | key {entries : List (Datum × Datum)} {entry : Datum × Datum} (among : entry ∈ entries)
      (long : HoldsTooLong entry.1) : HoldsTooLong (.map entries)
  | value {entries : List (Datum × Datum)} {entry : Datum × Datum} (among : entry ∈ entries)
      (long : HoldsTooLong entry.2) : HoldsTooLong (.map entries)

mutual

/-- A value that is too long to be shown holds a number that is. -/
theorem holdsTooLong_of_unshownWithin? {levels : Nat} :
    ∀ {value : Datum}, value.unshownWithin? levels = some .tooLong → value.HoldsTooLong
  | .whole value, long => by
    refine .whole ?_
    by_contra short
    rw [unshownWithin?, if_neg short] at long
    cases long
  | .foreign value, long => by
    refine .foreign ?_
    by_contra short
    rw [unshownWithin?, Foreign.unshown?, if_neg short] at long
    split at long <;> cases long
  | .list items, long => by
    obtain ⟨item, among, long⟩ := holdsTooLong_of_unshownItems? long
    exact .item among long
  | .map entries, long => by
    obtain ⟨entry, among, long | long⟩ := holdsTooLong_of_unshownEntries? long
    · exact .key among long
    · exact .value among long

/-- Items that are too long to be shown have one among them that is. -/
theorem holdsTooLong_of_unshownItems? : ∀ {levels : Nat} {items : List Datum},
    unshownItems? levels items = some .tooLong → ∃ item ∈ items, item.HoldsTooLong
  | 0, _ :: _, long => by cases long
  | levels + 1, item :: rest, long => by
    rw [unshownItems?, Option.or_eq_some_iff] at long
    rcases long with first | ⟨_, later⟩
    · exact ⟨item, List.mem_cons_self, holdsTooLong_of_unshownWithin? first⟩
    · obtain ⟨other, among, long⟩ := holdsTooLong_of_unshownItems? later
      exact ⟨other, List.mem_cons_of_mem item among, long⟩

/-- Entries that are too long to be shown have a key or a value among them that is. -/
theorem holdsTooLong_of_unshownEntries? : ∀ {levels : Nat} {entries : List (Datum × Datum)},
    unshownEntries? levels entries = some .tooLong →
      ∃ entry ∈ entries, entry.1.HoldsTooLong ∨ entry.2.HoldsTooLong
  | 0, _ :: _, long => by cases long
  | levels + 1, entry :: rest, long => by
    rw [unshownEntries?, Option.or_eq_some_iff, Option.or_eq_some_iff] at long
    rcases long with (ofKey | ⟨_, ofValue⟩) | ⟨_, later⟩
    · exact ⟨entry, List.mem_cons_self, .inl (holdsTooLong_of_unshownWithin? ofKey)⟩
    · exact ⟨entry, List.mem_cons_self, .inr (holdsTooLong_of_unshownWithin? ofValue)⟩
    · obtain ⟨other, among, long⟩ := holdsTooLong_of_unshownEntries? later
      exact ⟨other, List.mem_cons_of_mem entry among, long⟩

end

/-- A value that is too long for where it would be shown holds a number that is. -/
theorem holdsTooLong_of_unshown? {levels : Nat} {value : Datum}
    (long : value.unshown? levels = some .tooLong) : value.HoldsTooLong := by
  unfold unshown? at long
  split at long
  · cases long
  · exact holdsTooLong_of_unshownWithin? long

/-- A value that is too long for a sentence holds a number that is. -/
theorem holdsTooLong_of_unplain? {levels : Nat} {value : Datum}
    (long : value.unplain? levels = some .tooLong) : value.HoldsTooLong := by
  unfold unplain? at long
  split at long
  · cases long
  · cases long
  · exact holdsTooLong_of_unshownWithin? long
  · cases long
  · cases long
  · exact holdsTooLong_of_unshownWithin? long

end Datum

end Themer

namespace Themer.Yaml

/-- Whether a character may stand in the spelling of a whole number, its sign apart. -/
def isNumeralChar (c : Char) : Bool :=
  (Text.hexValue? c).isSome || c == '_' || c == ':' || c == 'x'

/-- The length up to which every spelling of a whole number is that of one that can be written. -/
def numeralLimit : Nat := 3571

/-- Whether no run of the characters that numbers are spelled with is longer than the limit. -/
def WithinNumerals (text : List Char) : Prop :=
  ∀ run, run <:+: text → (∀ c ∈ run, isNumeralChar c = true) → run.length ≤ numeralLimit

/-- A number below that power of sixteen can be written. -/
theorem pow_numeralLimit_le : 16 ^ numeralLimit ≤ tenTo digitLimit := by
  decide +kernel

/-- A digit of some base is a character of numbers. -/
theorem isNumeralChar_of_isDigitOf {base : Nat} {c : Char} (digit : isDigitOf base c = true) :
    isNumeralChar c = true := by
  -- Whatever the base is, a digit has a value as a hexadecimal one.
  unfold isDigitOf at digit
  unfold isNumeralChar
  cases value : Text.hexValue? c with
  | none => rw [value] at digit; cases digit
  | some value => rfl

/-- Digits of some base and underscores are characters of numbers. -/
theorem isNumeralChar_of_allOf {base : Nat} {text : List Char}
    (all : allOf (isDigitOf base) text = true) : ∀ c ∈ text, isNumeralChar c = true := by
  intro c among
  unfold allOf at all
  rw [Bool.and_eq_true, List.all_eq_true] at all
  have one := all.2 c among
  rw [Bool.or_eq_true] at one
  rcases one with digit | underscore
  · exact isNumeralChar_of_isDigitOf digit
  · rw [eq_of_beq underscore]
    rfl

/-- A text falls into parts between colons in one way. -/
inductive IsColonParts : List Char → List (List Char) → Prop
  | last {part : List Char} (whole : ':' ∉ part) : IsColonParts part [part]
  | before {part rest : List Char} {parts : List (List Char)} (whole : ':' ∉ part)
      (later : IsColonParts rest parts) : IsColonParts (part ++ ':' :: rest) (part :: parts)

/-- The parts of a text between colons are those it falls into. -/
theorem isColonParts_colonParts (text : List Char) : IsColonParts text (colonParts text) := by
  -- The first part grows from the back, as the characters in front of a colon come in.
  induction text with
  | nil => exact .last (by simp)
  | cons c rest ih =>
    rw [colonParts]
    split
    · rename_i isColon
      rw [isColon]
      have alone : ':' ∉ ([] : List Char) := by simp
      exact .before alone ih
    · -- The character goes in front of the first part that follows.
      rename_i other
      cases parts : colonParts rest with
      | nil =>
        rw [parts] at ih
        cases ih
      | cons part more =>
        rw [parts] at ih
        have longer (whole : ':' ∉ part) : ':' ∉ c :: part := by
          simp [whole, Ne.symm other]
        cases ih with
        | last whole => exact .last (longer whole)
        | before whole later => exact .before (longer whole) later

namespace IsColonParts

variable {text : List Char} {parts : List (List Char)}

/-- Each part is spelled in the text. -/
theorem isInfix (areParts : IsColonParts text parts) : ∀ part ∈ parts, part <:+: text := by
  -- The first part begins the text, and all others lie behind the first colon.
  induction areParts with
  | last whole => simp
  | @before part rest parts _ _ ih =>
    intro other among
    rcases List.mem_cons.mp among with rfl | later
    · exact (List.prefix_append other (':' :: rest)).isInfix
    · have behind : rest <:+ part ++ ':' :: rest := ⟨part ++ [':'], by simp⟩
      exact (ih other later).trans behind.isInfix

/-- Between the parts there is nothing but colons. -/
theorem forall_mem {holds : Char → Prop} (areParts : IsColonParts text parts) (colon : holds ':')
    (each : ∀ part ∈ parts, ∀ c ∈ part, holds c) : ∀ c ∈ text, holds c := by
  induction areParts with
  | last whole => simpa using each
  | before _ _ ih =>
    rw [List.forall_mem_cons] at each
    intro c among
    rcases List.mem_append.mp among with here | later
    · exact each.1 c here
    · rcases List.mem_cons.mp later with rfl | behind
      · exact colon
      · exact ih each.2 c behind

/-- With a colon for each part, the parts are one longer than the text. -/
theorem length_flatten (areParts : IsColonParts text parts) :
    parts.flatten.length + parts.length = text.length + 1 := by
  -- The text has one colon less than parts, since none stands behind the last.
  induction areParts with
  | last whole => simp
  | before _ _ ih =>
    rw [List.flatten_cons, List.length_append, List.length_cons, List.length_append,
      List.length_cons]
    omega

end IsColonParts

/-- The ways to spell a whole number: in digits of some base, or in parts in base sixty. -/
inductive Spells : List Char → WholeForm → Prop
  | based {base : Nat} {letter : Char} {rest : List Char}
      (known : (base, letter) ∈ [(2, 'b'), (16, 'x')])
      (digits : allOf (isDigitOf base) rest = true) :
      Spells ('0' :: letter :: rest) (.digits base rest)
  | octal {rest : List Char} (digits : allOf (isDigitOf 8) rest = true) :
      Spells ('0' :: rest) (.digits 8 rest)
  | decimal {text : List Char} (digits : allOf (isDigitOf 10) text = true) :
      Spells text (.digits 10 text)
  | sixtieths {text first : List Char} {more : List (List Char)}
      (areParts : IsColonParts text (first :: more)) (digits : allOf (isDigitOf 10) first = true)
      (small : ∀ part ∈ more, isSixtieth part = true) : Spells text (.sixtieths (first :: more))

/-- A form is that of a text only where the text spells it. -/
theorem spells_of_wholeForm? {text : List Char} {form : WholeForm}
    (found : wholeForm? text = some form) : Spells text form := by
  have areParts := isColonParts_colonParts text
  unfold wholeForm? at found
  -- The cases are the two bases with a letter, zero alone, a leading zero, and all the rest.
  split at found
  · split at found <;> cases found
    exact .based (by decide) ‹_›
  · split at found <;> cases found
    exact .based (by decide) ‹_›
  · cases found
    exact .decimal (by decide)
  · split at found <;> cases found
    exact .octal ‹_›
  · -- A text without a colon is a single part, and so its own first one.
    split at found
    · rename_i one parts
      split at found <;> cases found
      rename_i numeral
      rw [parts] at areParts
      cases areParts with
      | last whole => exact .decimal (Bool.and_eq_true_iff.mp numeral).2
      | before _ later => cases later
    · rename_i first more _ parts
      split at found <;> cases found
      rename_i numerals
      obtain ⟨numeral, small⟩ := Bool.and_eq_true_iff.mp numerals
      rw [parts] at areParts
      exact .sixtieths areParts (Bool.and_eq_true_iff.mp numeral).2 (List.all_eq_true.mp small)
    · cases found

/-- A part below sixty is one digit or two. -/
theorem of_isSixtieth {part : List Char} (small : isSixtieth part = true) :
    1 ≤ part.length ∧ allOf (isDigitOf 10) part = true := by
  unfold isSixtieth at small
  -- Of two digits the first is below six, which makes it a decimal one all the more.
  split at small
  · simpa [allOf] using .inl small
  · rename_i c d
    obtain ⟨low, digit⟩ := Bool.and_eq_true_iff.mp small
    have first : isDigitOf 10 c = true := by
      unfold isDigitOf at low ⊢
      cases value : Text.hexValue? c with
      | none =>
        rw [value] at low
        cases low
      | some value =>
        simp only [value, Option.any_some, decide_eq_true_eq] at low ⊢
        omega
    simp [allOf, first, digit]
  · cases small

namespace Spells

variable {text : List Char} {form : WholeForm}

/-- All characters of a spelling are those of numbers. -/
theorem isNumeralChar (spells : Spells text form) : ∀ c ∈ text, Yaml.isNumeralChar c = true := by
  have zero : Yaml.isNumeralChar '0' = true := by decide
  cases spells with
  | based known digits =>
    have all := isNumeralChar_of_allOf digits
    simp only [List.mem_cons, Prod.mk.injEq, List.not_mem_nil, or_false] at known
    rcases known with ⟨rfl, rfl⟩ | ⟨rfl, rfl⟩
    · simpa [zero, (by decide : Yaml.isNumeralChar 'b' = true)] using all
    · simpa [zero, (by decide : Yaml.isNumeralChar 'x' = true)] using all
  | octal digits =>
    have all := isNumeralChar_of_allOf digits
    simpa [zero] using all
  | decimal digits => exact isNumeralChar_of_allOf digits
  | sixtieths areParts digits small =>
    refine areParts.forall_mem (by decide) (List.forall_mem_cons.mpr ⟨?_, fun part among => ?_⟩)
    · exact isNumeralChar_of_allOf digits
    · exact isNumeralChar_of_allOf (of_isSixtieth (small part among)).2

end Spells

/-- What digits add up to in a base up to sixteen, one after the other, is below such a power. -/
theorem foldl_lt {α : Type} {base : Nat} (atMost : base ≤ 16) {value : α → Nat} {digits : List α}
    (below : ∀ digit ∈ digits, value digit < 16) (start : Nat) :
    digits.foldl (fun n digit => n * base + value digit) start <
      (start + 1) * 16 ^ digits.length := by
  -- The bound is strict, with one more than the start, so that it goes through each digit.
  induction digits generalizing start with
  | nil => simp
  | cons digit rest ih =>
    obtain ⟨first, later⟩ := List.forall_mem_cons.mp below
    have scaled : start * base ≤ start * 16 := Nat.mul_le_mul_left start atMost
    have next : start * base + value digit + 1 ≤ (start + 1) * 16 := by omega
    calc (digit :: rest).foldl (fun n digit => n * base + value digit) start
        = rest.foldl (fun n digit => n * base + value digit) (start * base + value digit) := rfl
      _ < (start * base + value digit + 1) * 16 ^ rest.length := ih later _
      _ ≤ (start + 1) * 16 * 16 ^ rest.length := Nat.mul_le_mul_right _ next
      _ = (start + 1) * 16 ^ (digit :: rest).length := by
        rw [List.length_cons, Nat.pow_succ', Nat.mul_assoc]

/-- A hexadecimal digit stands for a number below sixteen. -/
theorem hexValue?_lt {c : Char} {value : Nat} (read : Text.hexValue? c = some value) :
    value < 16 := by
  grind [Text.hexValue?]

/-- The digits of a text are no more than its characters. -/
theorem length_withoutUnderscores_le (text : List Char) :
    (withoutUnderscores text).length ≤ text.length :=
  List.length_filter_le _ _

/-- What the digits of a text add up to is below that power of sixteen, underscores or not. -/
theorem foldl_withoutUnderscores_lt {base : Nat} (atMost : base ≤ 16) {value : Char → Nat}
    (below : ∀ c, value c < 16) (text : List Char) :
    (withoutUnderscores text).foldl (fun n c => n * base + value c) 0 < 16 ^ text.length :=
  calc (withoutUnderscores text).foldl (fun n c => n * base + value c) 0
      < (0 + 1) * 16 ^ (withoutUnderscores text).length :=
        foldl_lt atMost (fun c _ => below c) 0
    _ ≤ 16 ^ text.length := by
      rw [Nat.zero_add, Nat.one_mul]
      exact Nat.pow_le_pow_right (by omega) (length_withoutUnderscores_le text)

/-- Digits of a base up to sixteen stand for a number below that power of sixteen. -/
theorem numberIn_lt {base : Nat} (atMost : base ≤ 16) (text : List Char) :
    numberIn base (withoutUnderscores text) < 16 ^ text.length := by
  refine foldl_withoutUnderscores_lt atMost (fun c => ?_) text
  -- What is no digit counts as zero.
  cases read : Text.hexValue? c with
  | none => decide
  | some value => exact hexValue?_lt read

/-- A part is read into a number below that power of sixteen, or has too many digits. -/
theorem gives_readPart (part : List Char) :
    Gives (fun size => size < 16 ^ part.length)
      (fun cause => (∃ e, cause = .tooManyDigits e) ∧ numeralLimit < part.length)
      (readPart part) := by
  unfold readPart readNumeral
  split
  · -- The limit on digits is the higher one, and underscores only make the part longer.
    rename_i tooMany
    have shorter := length_withoutUnderscores_le part
    refine ⟨⟨_, rfl⟩, ?_⟩
    rw [digitLimit] at tooMany
    rw [numeralLimit]
    omega
  · refine foldl_withoutUnderscores_lt (by omega) (fun c => ?_) part
    unfold Text.digit?
    -- Digits of any script stand for less than ten, and what is none counts as zero.
    cases Text.digitRanges.find? _ with
    | none =>
      rw [Option.map_none, Option.getD_none]
      omega
    | some range =>
      rw [Option.map_some, Option.getD_some]
      omega

/-- Parts below sixty are read one after the other, each with a colon in front of it. -/
theorem gives_readSixtieths {more : List (List Char)}
    (small : ∀ part ∈ more, isSixtieth part = true) (value : Nat) :
    Gives (fun size => size < (value + 1) * 16 ^ (more.flatten.length + more.length))
      (fun cause => (∃ e, cause = .tooManyDigits e) ∧ ∃ part ∈ more, numeralLimit < part.length)
      (readSixtieths value more) := by
  induction more generalizing value with
  | nil => simp [readSixtieths, Gives]
  | cons part rest ih =>
    obtain ⟨one, later⟩ := List.forall_mem_cons.mp small
    obtain ⟨some, _⟩ := of_isSixtieth one
    rw [readSixtieths]
    refine Gives.bind ((gives_readPart part).mono (fun _ size => size) ?_) fun size below => ?_
    · rintro cause ⟨which, tooLong⟩
      exact ⟨which, part, List.mem_cons_self, tooLong⟩
    · refine (ih later (value * 60 + size)).mono ?_ ?_
      · -- The colon in front of a part pays for the factor of sixty.
        intro whole bound
        have enough : 60 ≤ 16 ^ (part.length + 1) :=
          Nat.le_trans (by decide : 60 ≤ 16 ^ 2) (Nat.pow_le_pow_right (by omega) (by omega))
        have next : value * 60 + size + 1 ≤ (value + 1) * 16 ^ (part.length + 1) := by
          have scaled := Nat.mul_le_mul_left value enough
          have smaller : 16 ^ part.length ≤ 16 ^ (part.length + 1) :=
            Nat.pow_le_pow_right (by omega) (by omega)
          rw [Nat.add_mul, Nat.one_mul]
          omega
        have length : (part :: rest).flatten.length + (part :: rest).length =
            part.length + 1 + (rest.flatten.length + rest.length) := by
          rw [List.flatten_cons, List.length_append, List.length_cons]
          omega
        calc whole < (value * 60 + size + 1) * 16 ^ (rest.flatten.length + rest.length) := bound
          _ ≤ (value + 1) * 16 ^ (part.length + 1) * 16 ^ (rest.flatten.length + rest.length) :=
            Nat.mul_le_mul_right _ next
          _ = (value + 1) * 16 ^ ((part :: rest).flatten.length + (part :: rest).length) := by
            rw [length, Nat.pow_add 16 (part.length + 1), Nat.mul_assoc]
      · rintro cause ⟨which, other, among, tooLong⟩
        exact ⟨which, other, List.mem_cons_of_mem part among, tooLong⟩

/-- Whether a character may open a list or a map: a bracket, or a mark of an item, key or value. -/
def isOpening (c : Char) : Bool := ['[', '\x7b', '-', '?', ':'].contains c

/-- How many characters of a text may open a list or a map. -/
def openings (text : List Char) : Nat := text.countP isOpening

/-- Whether a text has the letter of a base with an underscore where a digit belongs. -/
def HasEmptyNumeral (text : List Char) : Prop :=
  ['0', 'b', '_'] <:+: text ∨ ['0', 'x', '_'] <:+: text

/-- Whether a text has an escape with a code that no character has. -/
def HasNoCharacter (text : List Char) : Prop :=
  ∃ digits values, '\\' :: 'U' :: digits <:+: text ∧ digits.mapM Text.hexValue? = some values ∧
    0x110000 ≤ values.foldl (fun code value => code * 16 + value) 0

/-- Whether a text has in it what an interruption of its reading tells. -/
def Justified (text : List Char) : Interruption → Prop
  | .tooManyDigits _ | .tooManyToWrite => ¬ WithinNumerals text
  | .badNumeral _ => HasEmptyNumeral text
  | .noCharacter | .codeOutOfBounds => HasNoCharacter text
  | .tooDeep e => e = ⟨.body⟩ ∧ Node.levelLimit < openings text
  | _ => False

/-- Whether a reading may stop so: at a fault, or for something that the text has in it. -/
def MayStop (text : List Char) : Stop → Prop
  | .reported _ => True
  | .cutShort cause => Justified text cause

/-- A letter with an underscore behind it stays in whatever the text is a part of. -/
theorem HasEmptyNumeral.mono {text source : List Char} (empty : HasEmptyNumeral text)
    (among : text <:+: source) : HasEmptyNumeral source :=
  empty.imp (·.trans among) (·.trans among)

/-- Where no digit follows the letter of a base, an underscore does. -/
theorem hasEmptyNumeral_of_based {base : Nat} {letter : Char} {rest : List Char}
    (known : (base, letter) ∈ [(2, 'b'), (16, 'x')])
    (digits : allOf (isDigitOf base) rest = true)
    (none : (withoutUnderscores rest).isEmpty = true) :
    HasEmptyNumeral ('0' :: letter :: rest) := by
  cases rest with
  | nil => simp [allOf] at digits
  | cons c rest =>
    have underscore : c = '_' := by
      by_contra other
      simp [withoutUnderscores, other] at none
    subst underscore
    have begins : ['0', letter, '_'] <:+: '0' :: letter :: '_' :: rest := ⟨[], rest, by simp⟩
    simp only [List.mem_cons, Prod.mk.injEq, List.not_mem_nil, or_false] at known
    obtain ⟨rfl, rfl⟩ | ⟨rfl, rfl⟩ := known
    · exact .inl begins
    · exact .inr begins

/-- A number below the power for the length of its spelling can be written, within the limit. -/
theorem WithinNumerals.lt {source text : List Char} (within : WithinNumerals source)
    (among : text <:+: source) (numeral : ∀ c ∈ text, isNumeralChar c = true) {size : Nat}
    (below : size < 16 ^ text.length) : size < tenTo digitLimit :=
  calc size < 16 ^ text.length := below
    _ ≤ 16 ^ numeralLimit := Nat.pow_le_pow_right (by omega) (within text among numeral)
    _ ≤ tenTo digitLimit := pow_numeralLimit_le

/-- A run of the characters of numbers that is too long goes beyond the limit of its text. -/
theorem not_withinNumerals {text run : List Char} (among : run <:+: text)
    (numeral : ∀ c ∈ run, isNumeralChar c = true) (tooLong : numeralLimit < run.length) :
    ¬ WithinNumerals text :=
  fun within => absurd (within run among numeral) (by omega)

/-- A number spelled within the limit is read, and can be written again. -/
theorem Spells.gives_read {source text : List Char} {form : WholeForm} (spells : Spells text form)
    (among : text <:+: source) :
    Gives (fun size => WithinNumerals source → size < tenTo digitLimit) (Justified source)
      form.read := by
  have numeral := spells.isNumeralChar
  -- The length of the whole spelling bounds the number, whatever part of it the digits are.
  have fits {size : Nat} (below : size < 16 ^ text.length) (within : WithinNumerals source) :
      size < tenTo digitLimit := within.lt among numeral below
  have longer {size : Nat} {part : List Char} (inside : part <:+: text)
      (below : size < 16 ^ part.length) : size < 16 ^ text.length :=
    Nat.lt_of_lt_of_le below (Nat.pow_le_pow_right (by omega) inside.length_le)
  -- A part with too many digits is itself a run that goes beyond the limit.
  have tooMany {part : List Char} (inside : part <:+: text) {cause : Interruption}
      (which : ∃ e, cause = .tooManyDigits e) (tooLong : numeralLimit < part.length) :
      Justified source cause := by
    obtain ⟨e, rfl⟩ := which
    exact not_withinNumerals (inside.trans among) (fun c held => numeral c (inside.subset held))
      tooLong
  cases spells with
  | @based base letter rest known digits =>
    have behind : rest <:+: '0' :: letter :: rest := ⟨['0', letter], [], by simp⟩
    have bases : base ≠ 10 ∧ base ≤ 16 := by
      simp only [List.mem_cons, Prod.mk.injEq, List.not_mem_nil, or_false] at known
      omega
    rw [WholeForm.read, if_neg bases.1]
    split
    · rename_i empty
      exact (hasEmptyNumeral_of_based known digits (Bool.and_eq_true_iff.mp empty).1).mono among
    · exact fits (longer behind (numberIn_lt bases.2 rest))
  | @octal rest digits =>
    -- The leading zero is a digit as well, so there is always one.
    have behind : rest <:+: '0' :: rest := ⟨['0'], [], by simp⟩
    simp only [WholeForm.read, bne_self_eq_false, Bool.and_false, Bool.false_eq_true, if_false]
    exact fits (longer behind (numberIn_lt (by omega) rest))
  | decimal digits =>
    refine (gives_readPart text).mono (fun _ below => fits below) fun cause tells => ?_
    exact tooMany List.infix_rfl tells.1 tells.2
  | @sixtieths _ first more areParts digits small =>
    have inside := areParts.isInfix
    rw [List.forall_mem_cons] at inside
    rw [WholeForm.read, readSixtieths]
    refine Gives.bind ((gives_readPart first).mono (fun _ below => below) fun cause tells => ?_)
      fun size below => (gives_readSixtieths small _).mono (fun whole bound => ?_)
        fun cause tells => ?_
    · exact tooMany inside.1 tells.1 tells.2
    · -- With a colon in front of each later part, the powers multiply to that of the text.
      have length := areParts.length_flatten
      rw [List.flatten_cons, List.length_append, List.length_cons] at length
      refine fits ?_
      calc whole < (0 * 60 + size + 1) * 16 ^ (more.flatten.length + more.length) := bound
        _ ≤ 16 ^ first.length * 16 ^ (more.flatten.length + more.length) :=
          Nat.mul_le_mul_right _ (by omega)
        _ = 16 ^ text.length := by
          rw [← Nat.pow_add]
          congr 1
          omega
    · obtain ⟨which, part, held, tooLong⟩ := tells
      exact tooMany (inside.2 part held) which tooLong

/-- Whether a plain scalar is spelled in a text, unless a gap in it says that it is no number. -/
def IsSpelled (source : List Char) (text : String) : Prop :=
  (∃ c ∈ text.toList, isGap c = true) ∨ text.toList <:+: source

/-- Whether no number in a value is too long to be shown, if its document keeps the limit. -/
def IsShowable (source : List Char) (value : Datum) : Prop :=
  WithinNumerals source → ¬ value.HoldsTooLong

/-- A collection can be shown if its members can. -/
theorem isHereditary_isShowable (source : List Char) :
    Datum.IsHereditary (IsShowable source) where
  text value _ long := by cases long
  list each within long := by
    cases long with
    | item among long => exact each _ among within long
  map differ each within long := by
    cases long with
    | key among long => exact (each _ among).1 within long
    | value among long => exact (each _ among).2 within long

/-- No gap is a character of numbers. -/
theorem not_isNumeralChar_of_isGap {c : Char} (gap : isGap c = true) : isNumeralChar c = false := by
  simp only [isGap, isBreak, Bool.or_eq_true, beq_iff_eq] at gap
  rcases gap with (rfl | rfl) | ((((rfl | rfl) | rfl) | rfl) | rfl) <;> decide

/-- A sign is in front of the text that it is read from. -/
theorem readSign_suffix (text : List Char) :
    (readSign text).2 <:+ text ∧ ∀ c ∈ text, isGap c = true → c ∈ (readSign text).2 := by
  have behind (sign : Char) (noGap : isGap sign = false) (rest : List Char) :
      ∀ c ∈ sign :: rest, isGap c = true → c ∈ rest := by
    intro c among gap
    rcases List.mem_cons.mp among with rfl | later
    · rw [noGap] at gap
      cases gap
    · exact later
  unfold readSign
  split
  · exact ⟨List.suffix_cons _ _, behind '-' (by decide) _⟩
  · exact ⟨List.suffix_cons _ _, behind '+' (by decide) _⟩
  · exact ⟨List.suffix_rfl, fun c among _ => among⟩

/-- A scalar spelled in a text has a value that can be shown, or may stop the reading. -/
theorem gives_scalarValue_of_isSpelled {source : List Char} {text : String} {plain : Bool}
    (spelled : plain = true → IsSpelled source text) :
    Gives (IsShowable source) (MayStop source) (scalarValue text plain) := by
  -- Only a whole number can be too long; every other value of a scalar is shown as it is.
  have texts := (isHereditary_isShowable source).text text
  refine gives_scalarValue (fun fault => trivial) texts fun isPlain => ?_
  refine gives_plainValue ?null ?flag ?real texts fun form found => ?_
  case null =>
    rintro - ⟨⟩
  case flag | real =>
    rintro _ - ⟨⟩
  have spells := spells_of_wholeForm? found
  obtain ⟨behind, gaps⟩ := readSign_suffix text.toList
  rcases spelled isPlain with ⟨c, among, gap⟩ | among
  · -- The spelling of a number has no gap in it.
    have numeral := spells.isNumeralChar c (gaps c among gap)
    rw [not_isNumeralChar_of_isGap gap] at numeral
    cases numeral
  · refine (spells.gives_read (behind.isInfix.trans among)).mono (fun size below => ?_)
      fun _ cause => cause
    -- The sign does not count for the length.
    have fits (value : Int) (same : value.natAbs = size) : IsShowable source (.whole value) := by
      rintro within ⟨long⟩
      rw [isTooLongToWrite_eq_false_iff.mpr (by rw [same]; exact below within)] at long
      cases long
    exact ⟨fits size (by simp), fits (-size) (by simp)⟩

end Themer.Yaml
