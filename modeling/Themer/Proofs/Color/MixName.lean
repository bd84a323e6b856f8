import Mathlib
import Themer.Color.Palette

/-! The names that mixes are kept under: their fields can be told apart again. -/

namespace Themer

namespace Palette

/-- A name that could be one of a scheme's colors: the mark between fields is not in it. -/
def IsPlain (name : String) : Prop :=
  separator ∉ name.toList

instance (name : String) : Decidable (IsPlain name) :=
  inferInstanceAs (Decidable (separator ∉ name.toList))

/-- A name of a mix is its three fields with a mark after each of the first two. -/
theorem toList_mixName (first : String) (amount : Int) (second : String) :
    (mixName first amount second).toList =
      first.toList ++ separator :: ((toString amount).toList ++ separator :: second.toList) := by
  simp [mixName, separator, Char.toString]

/-- An amount is written in digits and perhaps a sign, never with the mark. -/
theorem isPlain_amount (amount : Int) : IsPlain (toString amount) := by
  -- Digits are the only characters of a natural number.
  have digits (n : Nat) : separator ∉ n.repr.toList := by
    intro marked
    rw [Nat.toList_repr] at marked
    have digit := Nat.isDigit_of_mem_toDigits (by decide) (by decide) marked
    simp [separator] at digit
  change separator ∉ (Int.repr amount).toList
  rw [Int.repr_eq_if]
  split
  · exact digits _
  · -- The sign in front of a negative amount is not the mark either.
    simp only [String.toList_append, List.mem_append, not_or]
    exact ⟨by decide, digits _⟩

/-- The mark ends a field that does not hold it, so what follows is the same as well. -/
theorem append_separator_inj {field other rest more : List Char}
    (clear : separator ∉ field) (otherClear : separator ∉ other)
    (same : field ++ separator :: rest = other ++ separator :: more) :
    field = other ∧ rest = more := by
  -- Neither field can reach past the first mark of the common text.
  induction field generalizing other with
  | nil =>
    cases other with
    | nil => simpa using same
    | cons c other =>
      simp only [List.nil_append, List.cons_append, List.cons.injEq] at same
      simp [same.1] at otherClear
  | cons c field ih =>
    cases other with
    | nil =>
      simp only [List.nil_append, List.cons_append, List.cons.injEq] at same
      simp [same.1] at clear
    | cons d other =>
      simp only [List.cons_append, List.cons.injEq] at same
      obtain ⟨rfl, same⟩ := same
      simp only [List.mem_cons, not_or] at clear otherClear
      obtain ⟨fields, rests⟩ := ih clear.2 otherClear.2 same
      exact ⟨by rw [fields], rests⟩

/-- The name of a mix determines its fields when the first colors have plain names. -/
theorem mixName_inj {first other second more : String} {amount number : Int}
    (plain : IsPlain first) (otherPlain : IsPlain other)
    (same : mixName first amount second = mixName other number more) :
    first = other ∧ amount = number ∧ second = more := by
  have texts := congrArg String.toList same
  rw [toList_mixName, toList_mixName] at texts
  -- The first mark ends the first color, the next one ends the amount.
  -- The second color is the rest of the text, whatever marks are in that.
  obtain ⟨firsts, rests⟩ := append_separator_inj plain otherPlain texts
  obtain ⟨amounts, seconds⟩ :=
    append_separator_inj (isPlain_amount amount) (isPlain_amount number) rests
  exact ⟨String.toList_inj.mp firsts, Int.repr_injective (String.toList_inj.mp amounts),
    String.toList_inj.mp seconds⟩

/-- A mix is never kept under a name that a color of a scheme could have. -/
theorem not_isPlain_mixName (first : String) (amount : Int) (second : String) :
    ¬ IsPlain (mixName first amount second) := by
  simp [IsPlain, toList_mixName]

/-- A plain name is the name of no mix. -/
theorem IsPlain.ne_mixName {name : String} (plain : IsPlain name) (first : String) (amount : Int)
    (second : String) : name ≠ mixName first amount second := by
  rintro rfl
  exact not_isPlain_mixName first amount second plain

end Palette

end Themer
