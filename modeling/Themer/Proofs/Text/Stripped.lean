import Mathlib.Data.List.Basic
import Mathlib.Data.List.TakeWhile
import Themer.Text.CharClass

/-! What is left of a text without the blanks around it: all that lies between them. -/

namespace Themer.Text

/-- The part of a text that begins and ends with no blank, and has nothing but blanks around. -/
structure Strips (text core : List Char) : Prop where
  around : ∃ before after, text = before ++ core ++ after ∧
    (∀ c ∈ before, isBlank c = true) ∧ ∀ c ∈ after, isBlank c = true
  first : ∀ c ∈ core.head?, isBlank c = false
  last : ∀ c ∈ core.getLast?, isBlank c = false

/-- The first character that is left behind the blanks is none. -/
theorem not_isBlank_of_dropWhile {text rest : List Char} {c : Char}
    (left : text.dropWhile isBlank = c :: rest) : isBlank c = false := by
  -- Dropping stops at it, so it is not dropped itself.
  have head := List.head_dropWhile_not (p := isBlank) (l := text) (by simp [left])
  simpa [left] using head

/-- What is left when the blanks at both ends are dropped is the part between them. -/
theorem strips_trim (text : List Char) : Strips text (trim text) := by
  -- The front is dropped first; what is dropped at the back is seen from the other end.
  let front := text.dropWhile isBlank
  have whole : text.takeWhile isBlank ++ front = text := List.takeWhile_append_dropWhile
  have core : trim text = (front.reverse.dropWhile isBlank).reverse := rfl
  have split : trim text ++ (front.reverse.takeWhile isBlank).reverse = front := by
    rw [core, ← List.reverse_append, List.takeWhile_append_dropWhile, List.reverse_reverse]
  refine ⟨⟨text.takeWhile isBlank, (front.reverse.takeWhile isBlank).reverse, ?_, ?_, ?_⟩, ?_, ?_⟩
  · rw [List.append_assoc, split, whole]
  · intro c among
    exact List.mem_takeWhile_imp among
  · intro c among
    exact List.mem_takeWhile_imp (List.mem_reverse.mp among)
  · -- The first character that is left is also the first behind the blanks in front.
    intro c starts
    obtain ⟨rest, filled⟩ : ∃ rest, trim text = c :: rest := List.head?_eq_some_iff.mp starts
    rw [filled, List.cons_append] at split
    exact not_isBlank_of_dropWhile split.symm
  · -- The last one comes first behind the blanks when all is turned round.
    intro c ends
    obtain ⟨rest, filled⟩ := List.getLast?_eq_some_iff.mp ends
    have back : front.reverse.dropWhile isBlank = c :: rest.reverse := by
      rw [← List.reverse_reverse (front.reverse.dropWhile isBlank), ← core, filled,
        List.reverse_append]
      rfl
    exact not_isBlank_of_dropWhile back

/-- Blanks before a text that begins with none are all that is dropped from its front. -/
theorem dropWhile_isBlank_append {before core : List Char}
    (blank : ∀ c ∈ before, isBlank c = true) (first : ∀ c ∈ core.head?, isBlank c = false) :
    (before ++ core).dropWhile isBlank = core := by
  -- The blanks are dropped, and then the text is left as soon as it begins, if it does.
  rw [List.dropWhile_append_of_pos blank]
  cases core with
  | nil => rfl
  | cons c rest => rw [List.dropWhile_cons_of_neg (by simp [first c rfl])]

/-- There is one such part: the text without the blanks at its ends. -/
theorem Strips.trim_eq {text core : List Char} (strips : Strips text core) : trim text = core := by
  obtain ⟨⟨before, after, rfl, blankBefore, blankAfter⟩, first, last⟩ := strips
  by_cases empty : core = []
  · -- Nothing but blanks is dropped whole from the front.
    subst core
    have none : (before ++ [] ++ after).dropWhile isBlank = [] := by
      rw [List.dropWhile_eq_nil_iff]
      intro c among
      simp only [List.append_nil, List.mem_append] at among
      rcases among with among | among
      · exact blankBefore c among
      · exact blankAfter c among
    rw [trim, none]
    rfl
  · -- Otherwise each end is dropped up to the text, whose own ends are none of the blanks.
    have front : (before ++ core ++ after).dropWhile isBlank = core ++ after := by
      rw [List.append_assoc]
      apply dropWhile_isBlank_append blankBefore
      rwa [List.head?_append_of_ne_nil core empty]
    have back : (after.reverse ++ core.reverse).dropWhile isBlank = core.reverse := by
      apply dropWhile_isBlank_append
      · intro c among
        exact blankAfter c (List.mem_reverse.mp among)
      · rwa [List.head?_reverse]
    rw [trim, front, List.reverse_append, back, List.reverse_reverse]

/-- The blanks around a text are dropped from it, and nothing else. -/
theorem trim_eq_iff {text core : List Char} : trim text = core ↔ Strips text core := by
  constructor
  · rintro rfl
    exact strips_trim text
  · exact Strips.trim_eq

/-- A part without blanks is what is left between blanks. -/
theorem strips_of_filled {before core after : List Char} (filled : ∀ c ∈ core, isBlank c = false)
    (blank : ∀ c ∈ before ++ after, isBlank c = true) : Strips (before ++ core ++ after) core where
  around := ⟨before, after, rfl, fun c among => blank c (List.mem_append_left _ among),
    fun c among => blank c (List.mem_append_right _ among)⟩
  first c starts := filled c (List.mem_of_mem_head? starts)
  last c ends := filled c (List.mem_of_mem_getLast? ends)

end Themer.Text
