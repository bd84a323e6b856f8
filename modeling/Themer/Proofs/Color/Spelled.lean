import Themer.Proofs.Color.Hex
import Themer.Proofs.Text.Stripped

/-!
The texts that spell a color, said without the reader, and what the color is written as.

Reading takes those texts and no others, and writing gives back their digits in upper case.
-/

namespace Themer

namespace Color

/-- A hexadecimal digit of either case. -/
def IsHexDigit (c : Char) : Prop :=
  '0' ≤ c ∧ c ≤ '9' ∨ 'A' ≤ c ∧ c ≤ 'F' ∨ 'a' ≤ c ∧ c ≤ 'f'

instance (c : Char) : Decidable (IsHexDigit c) :=
  inferInstanceAs (Decidable (_ ∨ _ ∨ _))

/-- A text that is six digits, or a hash and six digits, once the blanks around are off. -/
structure Spells (text : String) (digits : List Char) : Prop where
  six : digits.length = 6
  areHex : ∀ c ∈ digits, IsHexDigit c
  stripped : Text.Strips text.toList digits ∨ Text.Strips text.toList ('#' :: digits)

/-- The digits are those with a value. -/
theorem isSome_hexValue?_iff {c : Char} : (Text.hexValue? c).isSome ↔ IsHexDigit c := by
  show _ ↔ (48 ≤ c.toNat ∧ c.toNat ≤ 57) ∨ (65 ≤ c.toNat ∧ c.toNat ≤ 70) ∨
    (97 ≤ c.toNat ∧ c.toNat ≤ 102)
  -- The three ranges of digits are those that the value is looked up in, by code.
  unfold Text.hexValue?
  by_cases number : 48 ≤ c.toNat ∧ c.toNat ≤ 57
  · simp [number]
  by_cases upper : 65 ≤ c.toNat ∧ c.toNat ≤ 70
  · simp [number, upper]
  by_cases lower : 97 ≤ c.toNat ∧ c.toNat ≤ 102
  · simp [number, upper, lower]
  · simp [number, upper, lower]

/-- The last of the digits is the small letter of fifteen. -/
theorem IsHexDigit.toNat_lt {c : Char} (isHex : IsHexDigit c) : c.toNat < 103 := by
  have bound : c.toNat ≤ 57 ∨ c.toNat ≤ 70 ∨ c.toNat ≤ 102 :=
    isHex.imp And.right (Or.imp And.right And.right)
  omega

/-- No digit is a blank. -/
theorem IsHexDigit.not_isBlank {c : Char} (isHex : IsHexDigit c) : Text.isBlank c = false := by
  -- There are few enough characters up to the last digit to look at each of them.
  have known : ∀ code < 103, IsHexDigit (Char.ofNat code) →
      Text.isBlank (Char.ofNat code) = false := by
    decide
  have found := known c.toNat isHex.toNat_lt
  rw [Char.ofNat_toNat] at found
  exact found isHex

/-- A value that a character has is below sixteen, and written as that character in upper case. -/
theorem hexDigit_of_hexValue? {c : Char} {value : Nat} (read : Text.hexValue? c = some value) :
    value < 16 ∧ hexDigit value = c.toUpper := by
  -- No character behind the last of the digits has a value, and those before it are looked at.
  have known : ∀ code < 103, ∀ value, Text.hexValue? (Char.ofNat code) = some value →
      value < 16 ∧ hexDigit value = (Char.ofNat code).toUpper := by
    decide
  have isHex := isSome_hexValue?_iff.mp (by rw [read]; rfl)
  have found := known c.toNat isHex.toNat_lt value
  rw [Char.ofNat_toNat] at found
  exact found read

/-- Two values that are written as the same digit are the same. -/
theorem eq_of_hexDigit_eq {value other : Nat} (small : value < 16) (smallOther : other < 16)
    (same : hexDigit value = hexDigit other) : value = other := by
  have read := (hexDigit_value value small).1
  rw [same, (hexDigit_value other smallOther).1] at read
  exact (Option.some.inj read).symm

/-- Two characters stand for the channel that is written as these two digits in upper case. -/
theorem readPair?_eq_some_iff {high low : Char} {channel : Fin 256} :
    readPair? high low = some channel ↔
      (IsHexDigit high ∧ IsHexDigit low) ∧ hexPair channel = [high.toUpper, low.toUpper] := by
  have whole := channel.isLt
  constructor
  · intro read
    unfold readPair? at read
    split at read
    · rename_i h l readHigh readLow
      obtain ⟨smallHigh, digitHigh⟩ := hexDigit_of_hexValue? readHigh
      obtain ⟨smallLow, digitLow⟩ := hexDigit_of_hexValue? readLow
      refine ⟨⟨isSome_hexValue?_iff.mp (by rw [readHigh]; rfl),
        isSome_hexValue?_iff.mp (by rw [readLow]; rfl)⟩, ?_⟩
      -- Two values below sixteen make a channel, of which they are the quotient and the rest.
      have value : channel.val = 16 * h + l := by
        rw [← Option.some.inj read]
        exact Nat.mod_eq_of_lt (by omega)
      rw [hexPair, value, ← digitHigh, ← digitLow]
      rw [show (16 * h + l) / 16 = h by omega, show (16 * h + l) % 16 = l by omega]
    · cases read
  · -- Both digits have a value, and these are what the channel is written as.
    rintro ⟨⟨isHigh, isLow⟩, written⟩
    obtain ⟨h, readHigh⟩ := Option.isSome_iff_exists.mp (isSome_hexValue?_iff.mpr isHigh)
    obtain ⟨l, readLow⟩ := Option.isSome_iff_exists.mp (isSome_hexValue?_iff.mpr isLow)
    obtain ⟨smallHigh, digitHigh⟩ := hexDigit_of_hexValue? readHigh
    obtain ⟨smallLow, digitLow⟩ := hexDigit_of_hexValue? readLow
    rw [hexPair, ← digitHigh, ← digitLow, List.cons.injEq, List.cons.injEq] at written
    have quotient := eq_of_hexDigit_eq (by omega) smallHigh written.1
    have rest := eq_of_hexDigit_eq (by omega) smallLow written.2.1
    simp only [readPair?, readHigh, readLow, Option.some.injEq]
    apply Fin.ext
    show (16 * h + l) % 256 = channel.val
    omega

/-- Six digits are given one by one. -/
theorem exists_six {digits : List Char} (six : digits.length = 6) :
    ∃ a b c d e f, digits = [a, b, c, d, e, f] := by
  rcases digits with _ | ⟨a, _ | ⟨b, _ | ⟨c, _ | ⟨d, _ | ⟨e, _ | ⟨f, rest⟩⟩⟩⟩⟩⟩ <;>
    simp only [List.length_cons, List.length_nil] at six <;> try omega
  obtain rfl : rest = [] := List.length_eq_zero_iff.mp (by omega)
  exact ⟨a, b, c, d, e, f, rfl⟩

/-- Six digits, and nothing else, stand for the color that is written as these in upper case. -/
theorem readDigits?_eq_some_iff {digits : List Char} {color : Color} :
    readDigits? digits = some color ↔
      (digits.length = 6 ∧ ∀ c ∈ digits, IsHexDigit c) ∧
        color.hexDigits = digits.map Char.toUpper := by
  obtain ⟨red, green, blue⟩ := color
  constructor
  · intro read
    unfold readDigits? at read
    split at read
    · rename_i a b c d e f
      split at read
      · rename_i r g u readRed readGreen readBlue
        cases read
        obtain ⟨⟨isA, isB⟩, writtenRed⟩ := readPair?_eq_some_iff.mp readRed
        obtain ⟨⟨isC, isD⟩, writtenGreen⟩ := readPair?_eq_some_iff.mp readGreen
        obtain ⟨⟨isE, isF⟩, writtenBlue⟩ := readPair?_eq_some_iff.mp readBlue
        refine ⟨⟨rfl, by simp [isA, isB, isC, isD, isE, isF]⟩, ?_⟩
        simp [hexDigits, writtenRed, writtenGreen, writtenBlue]
      · cases read
    · cases read
  · rintro ⟨⟨six, areHex⟩, written⟩
    -- Six digits are three pairs, each of which stands for one channel.
    obtain ⟨a, b, c, d, e, f, rfl⟩ := exists_six six
    simp only [List.forall_mem_cons] at areHex
    obtain ⟨isA, isB, isC, isD, isE, isF, _⟩ := areHex
    simp only [hexDigits, hexPair, List.cons_append, List.nil_append, List.map_cons,
      List.map_nil, List.cons.injEq, and_true] at written
    obtain ⟨highRed, lowRed, highGreen, lowGreen, highBlue, lowBlue⟩ := written
    have readRed : readPair? a b = some red :=
      readPair?_eq_some_iff.mpr ⟨⟨isA, isB⟩, by rw [hexPair, highRed, lowRed]⟩
    have readGreen : readPair? c d = some green :=
      readPair?_eq_some_iff.mpr ⟨⟨isC, isD⟩, by rw [hexPair, highGreen, lowGreen]⟩
    have readBlue : readPair? e f = some blue :=
      readPair?_eq_some_iff.mpr ⟨⟨isE, isF⟩, by rw [hexPair, highBlue, lowBlue]⟩
    simp only [readDigits?, readRed, readGreen, readBlue]

/-- Six digits stand for some color. -/
theorem exists_readDigits? {digits : List Char} (six : digits.length = 6)
    (areHex : ∀ c ∈ digits, IsHexDigit c) : ∃ color, readDigits? digits = some color := by
  -- Any two digits stand for a channel, since each of them has a value.
  have pair : ∀ high ∈ digits, ∀ low ∈ digits, ∃ channel, readPair? high low = some channel := by
    intro high isHigh low isLow
    obtain ⟨h, readHigh⟩ :=
      Option.isSome_iff_exists.mp (isSome_hexValue?_iff.mpr (areHex high isHigh))
    obtain ⟨l, readLow⟩ :=
      Option.isSome_iff_exists.mp (isSome_hexValue?_iff.mpr (areHex low isLow))
    exact ⟨Fin.ofNat 256 (16 * h + l), by simp only [readPair?, readHigh, readLow]⟩
  obtain ⟨a, b, c, d, e, f, rfl⟩ := exists_six six
  obtain ⟨red, readRed⟩ := pair a (by simp) b (by simp)
  obtain ⟨green, readGreen⟩ := pair c (by simp) d (by simp)
  obtain ⟨blue, readBlue⟩ := pair e (by simp) f (by simp)
  exact ⟨⟨red, green, blue⟩, by simp only [readDigits?, readRed, readGreen, readBlue]⟩

/-- A text that spells six digits is read as the color that these stand for. -/
theorem read_of_spells {text : String} {digits : List Char} {color : Color}
    (spells : Spells text digits) (reads : readDigits? digits = some color) :
    read text = .ok color := by
  rcases spells.stripped with bare | hashed
  · -- Without a hash in front, the digits begin with none that could be taken for one.
    have whole := bare.trim_eq
    have noHash : ∀ rest, digits ≠ '#' :: rest := by
      rintro rest rfl
      exact absurd (spells.areHex '#' (by simp)) (by decide)
    simp only [read, whole, reads]
  · simp only [read, hashed.trim_eq, reads]

/-- A text that is read as a color spells six digits that stand for it. -/
theorem exists_spells_of_read {text : String} {color : Color} (found : read text = .ok color) :
    ∃ digits, Spells text digits ∧ readDigits? digits = some color := by
  -- What is left of the text is the digits, or they are what is behind a hash in front of it.
  have strips := Text.strips_trim text.toList
  have spells {digits : List Char} (reads : readDigits? digits = some color)
      (stripped : Text.Strips text.toList digits ∨ Text.Strips text.toList ('#' :: digits)) :
      ∃ digits, Spells text digits ∧ readDigits? digits = some color := by
    obtain ⟨⟨six, areHex⟩, _⟩ := readDigits?_eq_some_iff.mp reads
    exact ⟨digits, ⟨six, areHex, stripped⟩, reads⟩
  simp only [read] at found
  split at found
  · rename_i reads
    cases found
    split at reads
    · rename_i rest hashed
      rw [hashed] at strips
      exact spells reads (.inr strips)
    · exact spells reads (.inl strips)
  · cases found

/-- What is told of a text that is no color is the text without the blanks around. -/
theorem strips_of_read_error {text : String} {e : NotHex} (refused : read text = .error e) :
    Text.Strips text.toList e.text.toList := by
  -- It is kept in the refusal as it was after the blanks were taken off.
  simp only [read] at refused
  split at refused
  · cases refused
  · cases refused
    rw [String.toList_ofList]
    exact Text.strips_trim text.toList

/-- The digits that a color is written with are six, and stand as they are in upper case. -/
theorem isHexDigit_hexDigits (color : Color) :
    (∀ c ∈ color.hexDigits, IsHexDigit c) ∧ color.hexDigits.map Char.toUpper = color.hexDigits := by
  obtain ⟨⟨_, areHex⟩, written⟩ := readDigits?_eq_some_iff.mp (readDigits?_hexDigits color)
  exact ⟨areHex, written.symm⟩

/-- A color that is written between blanks spells its own digits. -/
theorem spells_write (color : Color) (format : Format) {before after : List Char}
    (blank : ∀ c ∈ before ++ after, Text.isBlank c = true) :
    Spells (String.ofList before ++ color.write format ++ String.ofList after)
      color.hexDigits := by
  have areHex := (isHexDigit_hexDigits color).1
  -- Neither a digit nor a hash is a blank, so that nothing of the color counts among the blanks.
  have filled : ∀ c ∈ color.hexDigits, Text.isBlank c = false :=
    fun c among => (areHex c among).not_isBlank
  have hash : Text.isBlank '#' = false := by decide
  refine ⟨rfl, areHex, ?_⟩
  cases format with
  | hashed =>
    right
    simpa [write] using
      Text.strips_of_filled (List.forall_mem_cons.mpr ⟨hash, filled⟩) blank
  | bare =>
    left
    simpa [write] using Text.strips_of_filled filled blank

/-- A color is written in a format by the name of the format. -/
theorem writeNamed_name (format : Format) (color : Color) :
    writeNamed format.name color = .ok (color.write format) := by
  cases format <;> rfl

/-- A color that is read from six digits is written as these in upper case. -/
theorem write_of_read {text : String} {digits : List Char} {color : Color}
    (spells : Spells text digits) (found : read text = .ok color) :
    color.hexDigits = digits.map Char.toUpper := by
  -- The digits stand for some color, and the text is read as no other.
  obtain ⟨other, reads⟩ := exists_readDigits? spells.six spells.areHex
  have same : other = color := Except.ok.inj ((read_of_spells spells reads).symm.trans found)
  rw [← same]
  exact (readDigits?_eq_some_iff.mp reads).2

/--
Reading a color and writing it undo each other, in either format.

A text is read exactly if it is six hexadecimal digits between blanks, with one hash in front of
them or none, and every other text is refused, and shown without the blanks.
What is read from a text is written with its digits in upper case, and what is written is read
again, whatever blanks come around it.
-/
theorem hex_read_inverts_write :
    (∀ text, (∃ color, read text = .ok color) ↔ ∃ digits, Spells text digits) ∧
    (∀ text e, read text = .error e ↔
      (∀ digits, ¬ Spells text digits) ∧ Text.Strips text.toList e.text.toList) ∧
    (∀ text digits color, Spells text digits → read text = .ok color →
      writeNamed "#6h" color = .ok (String.ofList ('#' :: digits.map Char.toUpper)) ∧
      writeNamed "6h" color = .ok (String.ofList (digits.map Char.toUpper))) ∧
    ∀ (color : Color) (format : Format) (before after : List Char),
      (∀ c ∈ before ++ after, Text.isBlank c = true) →
        ∃ written, writeNamed format.name color = .ok written ∧
          read (String.ofList before ++ written ++ String.ofList after) = .ok color := by
  refine ⟨?_, ?_, ?_, ?_⟩
  · intro text
    constructor
    · rintro ⟨color, found⟩
      obtain ⟨digits, spells, _⟩ := exists_spells_of_read found
      exact ⟨digits, spells⟩
    · rintro ⟨digits, spells⟩
      obtain ⟨color, reads⟩ := exists_readDigits? spells.six spells.areHex
      exact ⟨color, read_of_spells spells reads⟩
  · intro text e
    constructor
    · intro refused
      refine ⟨?_, strips_of_read_error refused⟩
      intro digits spells
      obtain ⟨color, reads⟩ := exists_readDigits? spells.six spells.areHex
      cases (read_of_spells spells reads).symm.trans refused
    · rintro ⟨unspelled, strips⟩
      cases ended : read text with
      | ok color =>
        obtain ⟨digits, spells, _⟩ := exists_spells_of_read ended
        exact absurd spells (unspelled digits)
      | error other =>
        -- Two texts that are left of the same one are the same.
        have same := (strips_of_read_error ended).trim_eq.symm.trans strips.trim_eq
        rw [show other = e by cases other; cases e; simpa [String.toList_inj] using same]
  · intro text digits color spells found
    rw [← write_of_read spells found]
    exact ⟨writeNamed_name .hashed color, writeNamed_name .bare color⟩
  · intro color format before after blank
    refine ⟨color.write format, writeNamed_name format color, ?_⟩
    exact read_of_spells (spells_write color format blank) (readDigits?_hexDigits color)

/-- Digits of both cases behind one hash are read, and those behind two are not. -/
theorem hex_read_inverts_write_one_hash :
    (∃ color, read "\t#0aBcDf\u3000" = .ok color ∧ writeNamed "#6h" color = .ok "#0ABCDF" ∧
      writeNamed "6h" color = .ok "0ABCDF" ∧ read " 0ABCDF\n" = .ok color) ∧
    read " ##0aBcDf " = .error ⟨"##0aBcDf"⟩ := by
  obtain ⟨accepted, refused, written, again⟩ := hex_read_inverts_write
  constructor
  · have spells : Spells "\t#0aBcDf\u3000" ['0', 'a', 'B', 'c', 'D', 'f'] :=
      ⟨rfl, by simp [IsHexDigit], .inr (Text.trim_eq_iff.mp (by decide))⟩
    obtain ⟨color, found⟩ := (accepted _).mpr ⟨_, spells⟩
    obtain ⟨hashed, bare⟩ := written _ _ _ spells found
    refine ⟨color, found, hashed, bare, ?_⟩
    obtain ⟨text, textIs, reads⟩ := again color .bare [' '] ['\n']
      (List.all_eq_true.mp (by decide))
    cases bare.symm.trans textIs
    exact reads
  · refine (refused _ ⟨"##0aBcDf"⟩).mpr ⟨?_, Text.trim_eq_iff.mp (by decide)⟩
    intro digits spells
    have eight : (Text.trim " ##0aBcDf ".toList).length = 8 := by decide
    -- With the first hash taken for the one that may be there, a character too many is left.
    have six := spells.six
    rcases spells.stripped with bare | hashed
    · rw [bare.trim_eq] at eight
      omega
    · rw [hashed.trim_eq, List.length_cons] at eight
      omega

end Color

end Themer
