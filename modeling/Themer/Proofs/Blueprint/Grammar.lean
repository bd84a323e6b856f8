import Mathlib.Data.List.TakeWhile
import Mathlib.Data.Nat.Init
import Themer.Blueprint.Placeholder

/-! The grammar of placeholders, and why reading a line finds exactly what the grammar allows. -/

namespace Themer

namespace Placeholder

/-- A run of characters of one class, with at least one of them. -/
def IsRunOf (inClass : Char → Bool) (run : List Char) : Prop :=
  run ≠ [] ∧ ∀ c ∈ run, inClass c = true

/-- The text of a placeholder: a name in braces, or two names there with an amount between them. -/
inductive Spells : List Char → Placeholder → Prop
  | plain {name : List Char} (isName : IsRunOf Text.isWord name) :
      Spells ('\x7b' :: (name ++ ['\x7d'])) (.plain (String.ofList name))
  | mix {first digits second : List Char} (isFirst : IsRunOf Text.isWord first)
      (isAmount : IsRunOf Text.isDigit digits) (isSecond : IsRunOf Text.isWord second) :
      Spells ('\x7b' :: (first ++ ':' :: (digits ++ ':' :: (second ++ ['\x7d']))))
        (.mix (String.ofList first) (String.ofList digits) (String.ofList second))

/-- The characters between the fields of a placeholder belong to no field. -/
theorem fieldMarks : Text.isWord '\x7b' = false ∧ Text.isWord '\x7d' = false ∧
    Text.isWord ':' = false ∧ Text.isDigit ':' = false := by
  decide

/-- A run that a character of another class ends is taken off whole. -/
theorem IsRunOf.takeWhile {inClass : Char → Bool} {run : List Char} (isRun : IsRunOf inClass run)
    {c : Char} (ends : inClass c = false) (rest : List Char) :
    (run ++ c :: rest).takeWhile inClass = run := by
  rw [List.takeWhile_append_of_pos isRun.2]
  simp [ends]

/-- What is left behind a run starts with the character that ends it. -/
theorem IsRunOf.dropWhile {inClass : Char → Bool} {run : List Char} (isRun : IsRunOf inClass run)
    {c : Char} (ends : inClass c = false) (rest : List Char) :
    (run ++ c :: rest).dropWhile inClass = c :: rest := by
  rw [List.dropWhile_append_of_pos isRun.2]
  simp [ends]

/-- The characters taken off for their class are a run, unless there are none. -/
theorem isRunOf_takeWhile {inClass : Char → Bool} {text : List Char}
    (some : text.takeWhile inClass ≠ []) : IsRunOf inClass (text.takeWhile inClass) :=
  ⟨some, fun _ member => List.mem_takeWhile_imp member⟩

/-- The rest of a mix is an amount, a mark, a second name and the closing brace. -/
theorem readMix?_eq_some_iff {name rest : List Char} {placeholder : Placeholder} {length : Nat} :
    readMix? name rest = some (placeholder, length) ↔
      ∃ digits second after, rest = digits ++ ':' :: (second ++ '\x7d' :: after) ∧
        IsRunOf Text.isDigit digits ∧ IsRunOf Text.isWord second ∧
        placeholder =
          .mix (String.ofList name) (String.ofList digits) (String.ofList second) ∧
        length = name.length + digits.length + second.length + 3 := by
  obtain ⟨_, brace, _, mark⟩ := fieldMarks
  constructor
  · -- What is taken off and what is left make up the whole again.
    intro read
    have whole := List.takeWhile_append_dropWhile (p := Text.isDigit) (l := rest)
    simp only [readMix?] at read
    split at read
    · cases read
    · -- An amount and a mark were found, and the second name has to follow.
      rename_i after afterIs someDigits
      have wholeAfter := List.takeWhile_append_dropWhile (p := Text.isWord) (l := after)
      split at read
      · cases read
      · rename_i later laterIs someSecond
        simp only [Option.some.injEq, Prod.mk.injEq] at read
        obtain ⟨rfl, rfl⟩ := read
        refine ⟨_, _, later, ?_, isRunOf_takeWhile someDigits, isRunOf_takeWhile someSecond,
          rfl, rfl⟩
        rw [← laterIs, wholeAfter, ← afterIs, whole]
      · cases read
    · cases read
  · rintro ⟨digits, second, after, rfl, isAmount, isSecond, rfl, rfl⟩
    -- Both runs are taken off whole, and neither is empty.
    simp only [readMix?, isAmount.takeWhile mark, isAmount.dropWhile mark]
    obtain ⟨_, _, rfl⟩ := List.exists_cons_of_ne_nil isAmount.1
    simp only [isSecond.takeWhile brace, isSecond.dropWhile brace]
    obtain ⟨_, _, rfl⟩ := List.exists_cons_of_ne_nil isSecond.1
    rfl

/-- After an opening brace exactly the texts of placeholders are read, with their full length. -/
theorem read?_eq_some_iff {line : List Char} {placeholder : Placeholder} {length : Nat} :
    read? line = some (placeholder, length) ↔
      ∃ text, Spells text placeholder ∧ text <+: '\x7b' :: line ∧ text.length = length + 1 := by
  obtain ⟨_, brace, mark, _⟩ := fieldMarks
  constructor
  · -- The reader looks at what follows the first name, and each case is one of the grammar.
    intro read
    have whole := List.takeWhile_append_dropWhile (p := Text.isWord) (l := line)
    simp only [read?] at read
    split at read
    · cases read
    · -- The closing brace follows the name at once.
      rename_i later laterIs someName
      simp only [Option.some.injEq, Prod.mk.injEq] at read
      obtain ⟨rfl, rfl⟩ := read
      refine ⟨_, .plain (isRunOf_takeWhile someName), ⟨later, ?_⟩, by simp⟩
      simp [← laterIs, whole]
    · -- A mark follows the name, and behind it the rest of a mix.
      rename_i rest restIs someName
      obtain ⟨digits, second, after, rfl, isAmount, isSecond, rfl, rfl⟩ :=
        readMix?_eq_some_iff.mp read
      refine ⟨_, .mix (isRunOf_takeWhile someName) isAmount isSecond, ⟨after, ?_⟩, ?_⟩
      · simp only [List.cons_append, List.append_assoc, List.nil_append, ← restIs, whole]
      · simp only [List.length_cons, List.length_append, List.length_nil]
        omega
    · cases read
  · -- A spelled text is read back field by field, since each mark ends the run before it.
    rintro ⟨text, spelled, ⟨after, split⟩, size⟩
    cases spelled with
    | plain isName =>
      simp only [List.cons_append, List.cons.injEq, true_and, List.append_assoc,
        List.nil_append] at split
      subst split
      simp only [read?, isName.takeWhile brace, isName.dropWhile brace]
      obtain ⟨_, _, rfl⟩ := List.exists_cons_of_ne_nil isName.1
      simp only [List.length_cons, List.length_append, List.length_nil] at size
      simp
      omega
    | mix isFirst isAmount isSecond =>
      simp only [List.cons_append, List.cons.injEq, true_and, List.append_assoc,
        List.nil_append] at split
      subst split
      simp only [read?, isFirst.takeWhile mark, isFirst.dropWhile mark]
      obtain ⟨_, _, rfl⟩ := List.exists_cons_of_ne_nil isFirst.1
      simp only [List.length_cons, List.length_append, List.length_nil] at size
      exact readMix?_eq_some_iff.mpr ⟨_, _, after, rfl, isAmount, isSecond, rfl, by
        simp only [List.length_cons]; omega⟩

/-- The text that spells a placeholder is the one the placeholder is written as. -/
theorem Spells.text_eq {text : List Char} {placeholder : Placeholder}
    (spelled : Spells text placeholder) : placeholder.text.toList = text := by
  cases spelled <;> simp [Placeholder.text, expression]

/-- A placeholder opens with a brace and has no other opening brace in it. -/
theorem Spells.opens {text : List Char} {placeholder : Placeholder}
    (spelled : Spells text placeholder) :
    ∃ inner, text = '\x7b' :: inner ∧ '\x7b' ∉ inner := by
  obtain ⟨opening, _⟩ := fieldMarks
  -- No run holds the brace, since it is neither a word character nor a digit.
  have outside {inClass : Char → Bool} {run : List Char} (isRun : IsRunOf inClass run)
      (excluded : inClass '\x7b' = false) : '\x7b' ∉ run := by
    intro member
    rw [isRun.2 _ member] at excluded
    cases excluded
  have noDigit : Text.isDigit '\x7b' = false := by decide
  cases spelled with
  | plain isName => exact ⟨_, rfl, by simp [outside isName opening]⟩
  | mix isFirst isAmount isSecond =>
    exact ⟨_, rfl, by
      simp [outside isFirst opening, outside isAmount noDigit, outside isSecond opening]⟩

/-- At most one placeholder begins at any place, and it has one text. -/
theorem Spells.unique {line text other : List Char} {placeholder found : Placeholder}
    (spelled : Spells text placeholder) (starts : text <+: line)
    (otherSpelled : Spells other found) (otherStarts : other <+: line) :
    text = other ∧ placeholder = found := by
  -- Both are what reading the line after its first brace comes to.
  obtain ⟨inner, rfl, _⟩ := spelled.opens
  obtain ⟨otherInner, rfl, _⟩ := otherSpelled.opens
  obtain ⟨after, rfl⟩ := starts
  have read : read? (inner ++ after) = some (placeholder, inner.length) :=
    read?_eq_some_iff.mpr ⟨_, spelled, List.prefix_append _ _, rfl⟩
  have readOther : read? (inner ++ after) = some (found, otherInner.length) :=
    read?_eq_some_iff.mpr ⟨_, otherSpelled, otherStarts, rfl⟩
  rw [read] at readOther
  obtain rfl : placeholder = found := congrArg Prod.fst (Option.some.inj readOther)
  exact ⟨spelled.text_eq.symm.trans otherSpelled.text_eq, rfl⟩

/-- Characters that belong to a placeholder already are passed over. -/
theorem piecesFrom_eq_drop (taken : Nat) (line : List Char) :
    piecesFrom taken line = pieces (line.drop taken) := by
  -- Each step takes one character, and one off the count.
  induction line generalizing taken with
  | nil => cases taken <;> simp [pieces, piecesFrom]
  | cons c rest ih =>
    cases taken with
    | zero => rfl
    | succ taken => simpa [piecesFrom] using ih taken

/-- Where a placeholder is spelled, it becomes one piece, and the line goes on behind it. -/
theorem pieces_of_spells {text : List Char} {placeholder : Placeholder}
    (spelled : Spells text placeholder) (after : List Char) :
    pieces (text ++ after) = .hole placeholder :: pieces after := by
  -- The scan stops at the opening brace and reads the rest of the placeholder.
  obtain ⟨inner, rfl, _⟩ := spelled.opens
  have read : read? (inner ++ after) = some (placeholder, inner.length) :=
    read?_eq_some_iff.mpr ⟨_, spelled, List.prefix_append _ _, rfl⟩
  change piecesFrom 0 ('\x7b' :: (inner ++ after)) = _
  simp only [piecesFrom, read, if_true]
  rw [piecesFrom_eq_drop, List.drop_left]

/-- Where no placeholder is spelled, one character stays and the line goes on behind it. -/
theorem pieces_of_not_spells {c : Char} {rest : List Char}
    (unspelled : ∀ text placeholder, Spells text placeholder → ¬ text <+: c :: rest) :
    pieces (c :: rest) = .char c :: pieces rest := by
  -- Only an opening brace is read on from, and here nothing can be read.
  by_cases opening : c = '\x7b'
  · subst opening
    have unread : read? rest = none := by
      cases read : read? rest with
      | none => rfl
      | some found =>
        obtain ⟨text, spelled, starts, _⟩ := read?_eq_some_iff.mp read
        exact absurd starts (unspelled text found.1 spelled)
    simp [pieces, piecesFrom, unread]
  · simp [pieces, piecesFrom, opening]

/--
What holds of a line holds of it from left to right, by placeholders and single characters.

A character stands alone only where no placeholder begins.
-/
theorem scan_induction {motive : List Char → Prop} (nil : motive [])
    (hole : ∀ text placeholder after, Spells text placeholder → motive after →
      motive (text ++ after))
    (char : ∀ c rest, (∀ text placeholder, Spells text placeholder → ¬ text <+: c :: rest) →
      motive rest → motive (c :: rest)) (line : List Char) : motive line := by
  -- Both steps leave a shorter rest of the line.
  induction size : line.length using Nat.strong_induction_on generalizing line with
  | _ size ih =>
    subst size
    by_cases starts : ∃ text placeholder, Spells text placeholder ∧ text <+: line
    · obtain ⟨text, placeholder, spelled, after, rfl⟩ := starts
      obtain ⟨inner, rfl, _⟩ := spelled.opens
      have shorter : after.length < ('\x7b' :: inner ++ after).length := by
        simp only [List.length_append, List.length_cons]
        omega
      exact hole _ placeholder after spelled (ih _ shorter after rfl)
    · cases line with
      | nil => exact nil
      | cons c rest =>
        exact char c rest (fun text placeholder spelled begins =>
          starts ⟨text, placeholder, spelled, begins⟩) (ih _ (by simp) rest rfl)

/-- Every placeholder among the pieces of a line is one that the grammar allows. -/
theorem spells_of_mem_pieces {line : List Char} {placeholder : Placeholder}
    (found : .hole placeholder ∈ pieces line) : ∃ text, Spells text placeholder := by
  -- A piece that is a placeholder stands where one is spelled.
  induction line using scan_induction with
  | nil => simp [pieces, piecesFrom] at found
  | hole text first after spelled ih =>
    rw [pieces_of_spells spelled, List.mem_cons] at found
    rcases found with same | later
    · cases same
      exact ⟨text, spelled⟩
    · exact ih later
  | char c rest unspelled ih =>
    rw [pieces_of_not_spells unspelled, List.mem_cons] at found
    rcases found with same | later
    · cases same
    · exact ih later

end Placeholder

end Themer
