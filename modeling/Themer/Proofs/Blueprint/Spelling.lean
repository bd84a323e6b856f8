import Themer.Blueprint.Directive
import Themer.Proofs.Blueprint.Grammar
import Themer.Proofs.Text.Stripped

/-!
The ways to take a line for a directive, and the one of them that reading takes.

They differ only in where the value starts among blanks, and reading gives the shortest value.
-/

namespace Themer

namespace Directive

open Placeholder (IsRunOf)

/-- A way to take a line for a directive: the mark, a name, a space, some blanks and a value. -/
structure Spells (line name blanks value : List Char) : Prop where
  whole : line = mark :: (name ++ ' ' :: (blanks ++ value))
  isName : IsRunOf isNameChar name
  areBlank : ∀ c ∈ blanks, Text.isBlank c = true
  filled : value ≠ []
  unbroken : '\n' ∉ value

/-- What is left of a text without the blanks in front, the last of which stays if it is alone. -/
inductive Trims : List Char → List Char → Prop
  | blank {blanks : List Char} {last : Char} (areBlank : ∀ c ∈ blanks, Text.isBlank c = true)
      (isBlank : Text.isBlank last = true) : Trims (blanks ++ [last]) [last]
  | text {blanks rest : List Char} {c : Char} (areBlank : ∀ c ∈ blanks, Text.isBlank c = true)
      (isText : Text.isBlank c = false) : Trims (blanks ++ c :: rest) (c :: rest)

/-- Something is left of each text that is not empty. -/
theorem exists_trims {text : List Char} (filled : text ≠ []) : ∃ value, Trims text value := by
  have whole := List.takeWhile_append_dropWhile (p := Text.isBlank) (l := text)
  have areBlank : ∀ c ∈ text.takeWhile Text.isBlank, Text.isBlank c = true :=
    fun _ among => List.mem_takeWhile_imp among
  cases left : text.dropWhile Text.isBlank with
  | nil =>
    -- The text is nothing but blanks, and one of them is the last.
    rw [left, List.append_nil] at whole
    rw [whole] at areBlank
    obtain ⟨blanks, last, rfl⟩ := (List.eq_nil_or_concat text).resolve_left filled
    rw [List.concat_eq_append] at areBlank ⊢
    rw [List.forall_mem_append, List.forall_mem_singleton] at areBlank
    exact ⟨_, .blank areBlank.1 areBlank.2⟩
  | cons c rest =>
    -- Otherwise the blanks end where it begins.
    have isText : Text.isBlank c = false := Text.not_isBlank_of_dropWhile left
    rw [left] at whole
    rw [← whole]
    exact ⟨_, .text areBlank isText⟩

/-- What is left of a text is not empty. -/
theorem Trims.ne_nil {text value : List Char} (trims : Trims text value) : value ≠ [] := by
  cases trims <;> simp

/-- A text is blanks and what is left of it. -/
theorem Trims.exists_blanks {text value : List Char} (trims : Trims text value) :
    ∃ blanks, text = blanks ++ value ∧ ∀ c ∈ blanks, Text.isBlank c = true := by
  cases trims with
  | blank areBlank => exact ⟨_, rfl, areBlank⟩
  | text areBlank => exact ⟨_, rfl, areBlank⟩

/-- However many blanks are taken from a text, what is left in the end is still in the rest. -/
theorem Trims.suffix {text value blanks longer : List Char} (trims : Trims text value)
    (whole : text = blanks ++ longer) (areBlank : ∀ c ∈ blanks, Text.isBlank c = true)
    (filled : longer ≠ []) : value <:+ longer := by
  have behind : longer <:+ text := ⟨blanks, whole.symm⟩
  cases trims with
  | @blank others last =>
    -- One character ends the text, and the rest has one at least.
    have fits : [last].length ≤ longer.length := List.length_pos_iff.mpr filled
    exact List.suffix_of_suffix_length_le (List.suffix_append _ _) behind fits
  | @text others rest c _ isText =>
    -- The first character that is no blank is not among those that are taken.
    obtain ⟨between, taken, left⟩ | ⟨between, _, rfl⟩ := List.append_eq_append_iff.mp whole
    · cases between with
      | nil => exact left ▸ List.suffix_rfl
      | cons first more =>
        cases left
        have isBlank := areBlank c (by simp [taken])
        rw [isText] at isBlank
        cases isBlank
    · exact List.suffix_append _ _

/-- The value after a space is what is left of the text there, if no line feed is in it. -/
theorem value?_of_trims {text value : List Char} (trims : Trims text value) :
    value? text = if '\n' ∈ value then none else some value := by
  cases trims with
  | @blank blanks last areBlank isBlank =>
    -- All are blanks, and the value is the last of them unless that is a line feed.
    have all : ∀ c ∈ blanks ++ [last], Text.isBlank c = true :=
      List.forall_mem_append.mpr ⟨areBlank, List.forall_mem_singleton.mpr isBlank⟩
    have none : (blanks ++ [last]).dropWhile Text.isBlank = [] :=
      List.dropWhile_eq_nil_iff.mpr all
    rw [value?, none, List.takeWhile_eq_self_iff.mpr all, List.getLast?_concat]
    by_cases atBreak : last = '\n'
    · simp [atBreak]
    · simp [Ne.symm atBreak]
  | @text blanks rest c areBlank isText =>
    -- The value is what is behind the blanks, where any line feed refuses it.
    have left : (blanks ++ c :: rest).dropWhile Text.isBlank = c :: rest := by
      rw [List.dropWhile_append_of_pos areBlank, List.dropWhile_cons_of_neg (by simp [isText])]
    rw [value?, left]
    simp

/-- A value is found after a space exactly where something is left of the text in one line. -/
theorem value?_eq_some_iff {text value : List Char} :
    value? text = some value ↔ Trims text value ∧ '\n' ∉ value := by
  -- There is only one way to trim a text that is not empty.
  constructor
  · intro found
    have filled : text ≠ [] := by
      rintro rfl
      cases found
    obtain ⟨left, trims⟩ := exists_trims filled
    rw [value?_of_trims trims] at found
    split at found
    · cases found
    · cases found
      exact ⟨trims, ‹_›⟩
  · rintro ⟨trims, unbroken⟩
    rw [value?_of_trims trims, if_neg unbroken]

/-- A space ends the name of a directive. -/
theorem not_isNameChar_space : isNameChar ' ' = false := by decide

/-- A line that starts with the mark, a name and a space is read as its value is. -/
theorem read?_of_name {name : List Char} (isName : IsRunOf isNameChar name) (text : List Char) :
    read? (mark :: (name ++ ' ' :: text)) =
      (value? text).map fun value => ⟨String.ofList name, String.ofList value⟩ := by
  rw [read?, if_pos rfl, isName.takeWhile not_isNameChar_space,
    isName.dropWhile not_isNameChar_space]
  obtain ⟨_, _, rfl⟩ := List.exists_cons_of_ne_nil isName.1
  rfl

/-- A line is read as a directive where it starts with the mark, a name, a space and a value. -/
theorem read?_eq_some_iff {line : List Char} {directive : Directive} :
    read? line = some directive ↔
      ∃ name text value, line = mark :: (name ++ ' ' :: text) ∧ IsRunOf isNameChar name ∧
        Trims text value ∧ '\n' ∉ value ∧
        directive = ⟨String.ofList name, String.ofList value⟩ := by
  -- Reading takes the mark, the characters of a name, a space and a value, in this order.
  constructor
  · intro found
    cases line with
    | nil => cases found
    | cons c rest =>
      have whole := List.takeWhile_append_dropWhile (p := isNameChar) (l := rest)
      rw [read?] at found
      split at found
      · rename_i isMark
        split at found
        · cases found
        · rename_i text space someName
          obtain ⟨value, valued, rfl⟩ := Option.map_eq_some_iff.mp found
          obtain ⟨trims, unbroken⟩ := value?_eq_some_iff.mp valued
          rw [space] at whole
          exact ⟨_, text, value, by rw [isMark, whole], Placeholder.isRunOf_takeWhile someName,
            trims, unbroken, rfl⟩
        · cases found
      · cases found
  · rintro ⟨name, text, value, rfl, isName, trims, unbroken, rfl⟩
    rw [read?_of_name isName, value?_eq_some_iff.mpr ⟨trims, unbroken⟩]
    rfl

/-- A line that can be taken for a directive is read as one, of the name that it then has. -/
theorem Spells.exists_read? {line name blanks value : List Char}
    (spells : Spells line name blanks value) :
    ∃ left, Trims (blanks ++ value) left ∧ left <:+ value ∧
      read? line = some ⟨String.ofList name, String.ofList left⟩ := by
  obtain ⟨left, trims⟩ := exists_trims (List.append_ne_nil_of_right_ne_nil blanks spells.filled)
  have within := trims.suffix rfl spells.areBlank spells.filled
  -- What is left is part of the value, and no line feed is in that.
  have unbroken : '\n' ∉ left := fun among => spells.unbroken (within.mem among)
  exact ⟨left, trims, within, read?_eq_some_iff.mpr
    ⟨name, blanks ++ value, left, spells.whole, spells.isName, trims, unbroken, rfl⟩⟩

/-- A line is read in one of the ways to take it. -/
theorem spells_of_read? {line : List Char} {directive : Directive}
    (found : read? line = some directive) :
    ∃ blanks, Spells line directive.name.toList blanks directive.value.toList := by
  obtain ⟨name, text, value, whole, isName, trims, unbroken, rfl⟩ := read?_eq_some_iff.mp found
  obtain ⟨blanks, rfl, areBlank⟩ := trims.exists_blanks
  refine ⟨blanks, ?_⟩
  simp only [String.toList_ofList]
  exact ⟨whole, isName, areBlank, trims.ne_nil, unbroken⟩

/-- Nothing is taken from a value that no blank starts. -/
theorem Trims.eq_of_not_blank {blanks value left : List Char} (trims : Trims (blanks ++ value) left)
    (within : left <:+ value) (areBlank : ∀ c ∈ blanks, Text.isBlank c = true)
    (isText : ∀ c, value.head? = some c → Text.isBlank c = false) (filled : value ≠ []) :
    left = value := by
  obtain ⟨c, rest, rfl⟩ := List.exists_cons_of_ne_nil filled
  -- The value is left of the text as well, so each of the two is the end of the other.
  have same : Trims (blanks ++ c :: rest) (c :: rest) := .text areBlank (isText c rfl)
  obtain ⟨others, whole, othersBlank⟩ := trims.exists_blanks
  exact within.eq_of_length_le (same.suffix whole othersBlank trims.ne_nil).length_le

end Directive

/--
A line is read as a directive exactly where it can be taken for one, and with the shortest value.

The name is the same in all ways to take it.
A line that cannot be taken for a directive is refused as malformed, and told with the refusal.
A value that no blank starts is read as it was written, however many blanks are in front of it.
-/
theorem directive_read_with_shortest_value (line : List Char) :
    ((Directive.read? line).isSome = true ↔
      ∃ name blanks value, Directive.Spells line name blanks value) ∧
    (∀ directive, Directive.read? line = some directive →
      (∃ blanks, Directive.Spells line directive.name.toList blanks directive.value.toList) ∧
      ∀ name blanks value, Directive.Spells line name blanks value →
        name = directive.name.toList ∧ directive.value.toList <:+ value) ∧
    ((¬ ∃ name blanks value, Directive.Spells line name blanks value) →
      ∀ (home : Path) (disk : Disk) (head : Head), head.closed = false →
        head.apply home disk (String.ofList line) = .error (.malformed (String.ofList line))) ∧
    (∀ name blanks value, Directive.Spells line name blanks value →
      (∀ c, value.head? = some c → Text.isBlank c = false) →
        Directive.read? line = some ⟨String.ofList name, String.ofList value⟩) := by
  have isSome : (Directive.read? line).isSome = true ↔
      ∃ name blanks value, Directive.Spells line name blanks value := by
    rw [Option.isSome_iff_exists]
    constructor
    · rintro ⟨directive, found⟩
      obtain ⟨blanks, spells⟩ := Directive.spells_of_read? found
      exact ⟨_, blanks, _, spells⟩
    · rintro ⟨name, blanks, value, spells⟩
      obtain ⟨left, _, _, found⟩ := spells.exists_read?
      exact ⟨_, found⟩
  refine ⟨isSome, fun directive found => ⟨Directive.spells_of_read? found, ?_⟩, ?_, ?_⟩
  · intro name blanks value spells
    obtain ⟨left, _, within, same⟩ := spells.exists_read?
    cases found.symm.trans same
    refine ⟨String.toList_ofList.symm, ?_⟩
    rwa [String.toList_ofList]
  · intro none home disk head isOpen
    rw [← isSome, Bool.not_eq_true, Option.isSome_eq_false_iff, Option.isNone_iff_eq_none] at none
    simp only [Head.apply, isOpen, Bool.false_eq_true, if_false, String.toList_ofList, none]
  · intro name blanks value spells isText
    obtain ⟨left, trims, within, found⟩ := spells.exists_read?
    rwa [trims.eq_of_not_blank within spells.areBlank isText spells.filled] at found

/-- A value in front of which blanks are is read without them, and keeps the blank behind it. -/
theorem directive_read_with_shortest_value_tab :
    let line := "%color-format  \t6h ".toList
    Directive.Spells line "color-format".toList [' ', '\t'] "6h ".toList ∧
      Directive.Spells line "color-format".toList [] " \t6h ".toList ∧
      Directive.read? line = some ⟨"color-format", "6h "⟩ ∧
      "6h ".toList <:+ " \t6h ".toList := by
  intro line
  have isName : Placeholder.IsRunOf Directive.isNameChar "color-format".toList :=
    ⟨by decide, List.all_eq_true.mp (by decide)⟩
  have short : Directive.Spells line "color-format".toList [' ', '\t'] "6h ".toList :=
    ⟨by decide, isName, List.all_eq_true.mp (by decide), by decide, by decide⟩
  have long : Directive.Spells line "color-format".toList [] " \t6h ".toList :=
    ⟨by decide, isName, List.forall_mem_nil _, by decide, by decide⟩
  obtain ⟨_, shortest, _, back⟩ := directive_read_with_shortest_value line
  have isText (c : Char) (starts : "6h ".toList.head? = some c) : Text.isBlank c = false := by
    cases starts
    decide
  have found := back _ _ _ short isText
  exact ⟨short, long, found, ((shortest _ found).2 _ _ _ long).2⟩

/--
The value of a directive starts with a blank only where nothing but blanks is behind the space.

Then it is the last of them alone, and that is no line feed.
A line with nothing but blanks there is refused if the last of them is a line feed, or there is
none at all.
-/
theorem blank_value_is_last_blank (line : List Char) :
    (∀ directive c, Directive.read? line = some directive →
      directive.value.toList.head? = some c → Text.isBlank c = true →
        directive.value.toList = [c] ∧ c ≠ '\n' ∧
        ∃ blanks, (∀ blank ∈ blanks, Text.isBlank blank = true) ∧
          line = Directive.mark :: (directive.name.toList ++ ' ' :: (blanks ++ [c]))) ∧
    (∀ name blanks, Placeholder.IsRunOf Directive.isNameChar name →
      (∀ blank ∈ blanks, Text.isBlank blank = true) →
      line = Directive.mark :: (name ++ ' ' :: blanks) →
        (Directive.read? line = none ↔ ∀ last, blanks.getLast? = some last → last = '\n')) := by
  constructor
  · intro directive c found starts isBlank
    obtain ⟨name, text, value, whole, _, trims, unbroken, rfl⟩ :=
      Directive.read?_eq_some_iff.mp found
    simp only [String.toList_ofList] at starts ⊢
    cases trims with
    | @blank blanks last areBlank =>
      cases starts
      exact ⟨rfl, fun same => unbroken (by simp [same]), blanks, areBlank, whole⟩
    | text _ isText =>
      cases starts
      rw [isBlank] at isText
      cases isText
  · rintro name blanks isName areBlank rfl
    rw [Directive.read?_of_name isName, Option.map_eq_none_iff]
    obtain rfl | ⟨others, last, rfl⟩ := List.eq_nil_or_concat blanks
    · simp [Directive.value?]
    · rw [List.concat_eq_append] at areBlank ⊢
      rw [List.forall_mem_append, List.forall_mem_singleton] at areBlank
      rw [Directive.value?_of_trims (.blank areBlank.1 areBlank.2), List.getLast?_concat]
      simp [eq_comm]

/-- An ideographic space at the end is taken for the value, and a line feed there is refused. -/
theorem blank_value_is_last_blank_wide :
    let name := "color-format".toList
    let wide := Directive.mark :: (name ++ [' ', '\t', '\u3000'])
    let broken := Directive.mark :: (name ++ [' ', '\t', '\n'])
    Directive.read? wide = some ⟨"color-format", "\u3000"⟩ ∧ Text.isBlank '\u3000' = true ∧
      (∃ blanks, (∀ blank ∈ blanks, Text.isBlank blank = true) ∧
        wide = Directive.mark :: (name ++ ' ' :: (blanks ++ ['\u3000']))) ∧
      Directive.read? broken = none := by
  intro name wide broken
  have found : Directive.read? wide = some ⟨"color-format", "\u3000"⟩ := by decide
  have isName : Placeholder.IsRunOf Directive.isNameChar name :=
    ⟨by decide, List.all_eq_true.mp (by decide)⟩
  obtain ⟨_, _, taken⟩ := (blank_value_is_last_blank wide).1 _ _ found rfl (by decide)
  have areBlank : ∀ blank ∈ ['\t', '\n'], Text.isBlank blank = true :=
    List.all_eq_true.mp (by decide)
  have refused := (blank_value_is_last_blank broken).2 name _ isName areBlank rfl
  exact ⟨found, by decide, taken, refused.mpr fun last ends => (Option.some.inj ends).symm⟩

/-- Of two spaces behind a name the second is taken for the value, and not refused as malformed. -/
theorem blank_value_of_two_spaces :
    let line := "%color-format  "
    let head : Head := ⟨.hashed, Path.ofString "usual", false⟩
    Directive.read? line.toList = some ⟨"color-format", " "⟩ ∧ Text.isBlank ' ' = true ∧
      head.apply (Path.ofString "home") ⟨[], []⟩ line = .error (.unknownFormat " " line) := by
  decide

end Themer
