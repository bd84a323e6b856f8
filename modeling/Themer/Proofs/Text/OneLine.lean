import Mathlib.Data.List.Basic
import Mathlib.Data.Nat.Init
import Themer.Text.Quoted

/-! Texts of one line: numbers and quoted texts are some, and so is what is put together of some. -/

namespace Themer.Text

/-- A text of one line has no line break in it. -/
def IsOneLine (text : String) : Prop := '\n' ∉ text.toList

instance (text : String) : Decidable (IsOneLine text) :=
  inferInstanceAs (Decidable ('\n' ∉ text.toList))

/-- A text that is known to be one line is so wherever this is asked. -/
theorem isOneLine_eq_true {text : String} (plain : IsOneLine text) : IsOneLine text = True :=
  eq_true plain

/-- Two texts make one line together exactly where each of them is one. -/
@[simp] theorem isOneLine_append {first second : String} :
    IsOneLine (first ++ second) ↔ IsOneLine first ∧ IsOneLine second := by
  simp [IsOneLine, not_or]

/-- A text within a sentence is that text. -/
@[simp] theorem isOneLine_toString {text : String} : IsOneLine (toString text) ↔ IsOneLine text :=
  Iff.rfl

/-- Characters make one line exactly where none of them is a break. -/
@[simp] theorem isOneLine_ofList {text : List Char} :
    IsOneLine (String.ofList text) ↔ '\n' ∉ text := by
  simp [IsOneLine]

/-- Texts are joined without a character exactly where none has it, if what is between lacks it. -/
theorem not_mem_intercalate_iff {c : Char} {separator : String} (between : c ∉ separator.toList)
    {texts : List String} :
    c ∉ (separator.intercalate texts).toList ↔ ∀ text ∈ texts, c ∉ text.toList := by
  -- The first text is followed by the separator and the others, unless it is the only one.
  induction texts with
  | nil => simp
  | cons text rest ih =>
    cases rest with
    | nil => simp [String.intercalate_singleton]
    | cons next more =>
      rw [String.intercalate_cons_cons, String.toList_append, String.toList_append,
        List.mem_append, List.mem_append, not_or, not_or, ih, List.forall_mem_cons]
      simp [between]

/-- Texts are joined to one line exactly where each of them is one, if what is between them is. -/
theorem isOneLine_intercalate {separator : String} (between : IsOneLine separator)
    {texts : List String} :
    IsOneLine (separator.intercalate texts) ↔ ∀ text ∈ texts, IsOneLine text :=
  not_mem_intercalate_iff between

/-- A number is written without a line break, whatever its base is. -/
theorem break_not_mem_toDigits {base : Nat} (least : 1 < base) (number : Nat) :
    '\n' ∉ Nat.toDigits base number := by
  -- The last digit is taken off, and the number before it is smaller.
  induction number using Nat.strongRecOn with
  | ind number ih =>
    by_cases small : number < base
    · rw [Nat.toDigits_of_lt_base small]
      simp
    · have positive : 0 < number := by omega
      rw [Nat.toDigits_of_base_le least (by omega), List.mem_append, not_or]
      refine ⟨ih _ (Nat.div_lt_self positive least), ?_⟩
      simp

/-- A natural number is written in one line. -/
@[simp] theorem isOneLine_repr (number : Nat) : IsOneLine number.repr := by
  rw [Nat.repr_eq_ofList_toDigits, isOneLine_ofList]
  exact break_not_mem_toDigits (by decide) number

/-- A whole number is written in one line, its sign included. -/
@[simp] theorem isOneLine_repr_int (number : Int) : IsOneLine number.repr := by
  have sign : IsOneLine "-" := by decide
  rw [Int.repr_eq_if]
  split <;> simp [sign]

/-- No character is shown between quotes as a line break. -/
theorem break_not_mem_quotedChar {quote : Char} (plain : quote ≠ '\n') (c : Char) :
    '\n' ∉ quotedChar quote c := by
  have filled (width : Nat) : '\n' ∉ hexFilled width c.toNat := by
    have zeros (count : Nat) : '\n' ∉ List.replicate count '0' := by simp
    rw [hexFilled, List.mem_append, not_or]
    exact ⟨zeros _, break_not_mem_toDigits (by decide) _⟩
  -- A break has letters of its own, and any other character is shown as it is or by its number.
  unfold quotedChar
  split
  · rename_i marked
    -- What has a mark in front is the quote or a backslash.
    simp only [Bool.or_eq_true, decide_eq_true_eq] at marked
    rcases marked with rfl | rfl <;> simp [plain.symm]
  split_ifs
  · decide
  · decide
  · decide
  · rename_i other _ _ _
    simpa using Ne.symm other
  all_goals simp [filled]

/-- Whatever a text is, it is shown between quotes in one line. -/
@[simp] theorem isOneLine_quoted (text : String) : IsOneLine (quoted text) := by
  -- Either quote is none, and so is everything that is shown between them.
  have plain : quoteFor text.toList ≠ '\n' := by
    unfold quoteFor
    split <;> decide
  rw [quoted, isOneLine_ofList]
  simp [plain.symm, break_not_mem_quotedChar plain]

end Themer.Text
