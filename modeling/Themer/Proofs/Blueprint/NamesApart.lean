import Themer.Proofs.Blueprint.Alike
import Themer.Proofs.Blueprint.Occurrence

/-!
The names that mixes are kept under, apart from each other and from all names of colors.

A palette may so keep its mixes among the colors: no mix is taken for another one, and none is
found where a scheme or a blueprint calls a color.
-/

namespace Themer

/-- Wherever a placeholder stands in a line, it calls colors by plain names. -/
theorem Placeholder.isPlain_of_mem_placed {line : List Char} {place : Nat}
    {placeholder : Placeholder} (found : (place, placeholder) ∈ placed line) :
    placeholder.IsPlain := by
  -- It is spelled there, and the fields of what is spelled are made of word characters.
  obtain ⟨_, text, _, _, _, spelled⟩ := mem_placed_iff.mp found
  exact spelled.isPlain

namespace Palette

/--
A mix is known by its name.

Mixes of plainly named first colors have the same name only if they are the same mix, whatever
their amounts are. The name is no plain one, so no color of a scheme has it, and none of those that
a placeholder calls by itself, in whatever line it stands.
-/
theorem mix_known_by_name (first : String) (amount : Int) (second : String) :
    (IsPlain first → ∀ other number more, IsPlain other →
      (mixName first amount second = mixName other number more ↔
        first = other ∧ amount = number ∧ second = more)) ∧
    (∀ name, IsPlain name → mixName first amount second ≠ name) ∧
    ∀ line place name, (place, Placeholder.plain name) ∈ Placeholder.placed line →
      mixName first amount second ≠ name := by
  refine ⟨?_, ?_, ?_⟩
  · intro plain other number more otherPlain
    constructor
    · exact mixName_inj plain otherPlain
    · rintro ⟨rfl, rfl, rfl⟩
      rfl
  · intro name plain
    exact (plain.ne_mixName first amount second).symm
  · intro line place name found
    -- The name is between braces, and only word characters are read there.
    have plain : IsPlain name := Placeholder.isPlain_of_mem_placed found
    exact (plain.ne_mixName first amount second).symm

/-- Neither the sign of an amount nor marks that are no colons make two names of mixes alike. -/
theorem mix_known_by_name_signed :
    let line := "\x7b\x7bink_7_paper\x7d".toList
    IsPlain "ink" ∧ IsPlain "ink-7-paper" ∧
    (1, Placeholder.plain "ink_7_paper") ∈ Placeholder.placed line ∧
    mixName "ink" (-7) "paper" ≠ mixName "ink" 7 "paper" ∧
    mixName "ink" (-7) "paper" ≠ "ink-7-paper" ∧
    mixName "ink" (-7) "paper" ≠ "ink_7_paper" := by
  intro line
  have plain : IsPlain "ink" := by decide
  have plainName : IsPlain "ink-7-paper" := by decide
  have found : (1, Placeholder.plain "ink_7_paper") ∈ Placeholder.placed line := by decide
  obtain ⟨mixes, names, called⟩ := mix_known_by_name "ink" (-7) "paper"
  refine ⟨plain, plainName, found, ?_, names _ plainName, called line 1 _ found⟩
  intro same
  exact absurd ((mixes plain "ink" 7 "paper" plain).mp same).2.1 (by decide)

/-- A mark in the name of its first color would let a mix be taken for another one. -/
example : mixName "a:1:b" 2 "c" = mixName "a" 1 "b:2:c" := by
  decide

end Palette

end Themer
