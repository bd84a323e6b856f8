import Themer.Proofs.Color.Memory

/-! Palettes that cannot be told apart by asking for colors and mixes. -/

namespace Themer

namespace Palette

/-- Palettes in a relation give the same answers, and are in it again after each of them. -/
structure Bisimulation (related : Palette → Palette → Prop) : Prop where
  color {p q : Palette} {name : String} (pair : related p q) (plain : IsPlain name) :
    p.get? name = q.get? name
  mix {p q : Palette} {first second : String} (pair : related p q) (amount : Int)
    (plain : IsPlain first) (plainSecond : IsPlain second) :
    (p.mixed first amount second).1 = (q.mixed first amount second).1
  after {p q : Palette} {first second : String} (pair : related p q) (amount : Int)
    (plain : IsPlain first) (plainSecond : IsPlain second) :
    related (p.mixed first amount second).2 (q.mixed first amount second).2

/-- Two palettes that answer alike to plain names. -/
structure Agrees (p q : Palette) : Prop where
  color {name : String} (plain : IsPlain name) : p.get? name = q.get? name
  mix {first second : String} (amount : Int) (plain : IsPlain first)
    (plainSecond : IsPlain second) :
    (p.mixed first amount second).1 = (q.mixed first amount second).1

/-- Every palette agrees with itself. -/
theorem Agrees.refl (p : Palette) : Agrees p p :=
  ⟨fun _ => rfl, fun _ _ _ => rfl⟩

/-- Palettes that agree do so both ways. -/
theorem Agrees.symm {p q : Palette} (agree : Agrees p q) : Agrees q p :=
  ⟨fun plain => (agree.color plain).symm,
    fun amount plain plainSecond => (agree.mix amount plain plainSecond).symm⟩

/-- Palettes that agree with the same one agree. -/
theorem Agrees.trans {p q r : Palette} (first : Agrees p q) (second : Agrees q r) : Agrees p r :=
  ⟨fun plain => (first.color plain).trans (second.color plain),
    fun amount plain plainSecond =>
      (first.mix amount plain plainSecond).trans (second.mix amount plain plainSecond)⟩

/-- A palette that has one more entry gives the same color for every other name. -/
theorem get?_append_of_ne {palette : Palette} {added : String} {color : Color} {name : String}
    (other : name ≠ added) :
    get? ⟨palette.entries ++ [(added, color)]⟩ name = palette.get? name := by
  -- The entry comes last, and a search for another name passes it.
  have passed : (name == added) = false := beq_eq_false_iff_ne.mpr other
  simp [get?, List.lookup_append, List.lookup_cons, passed]

/-- Asking for a mix of plainly named colors is not noticed by any plain request. -/
theorem agrees_mixed (palette : Palette) {first second : String} (amount : Int)
    (plain : IsPlain first) (plainSecond : IsPlain second) :
    Agrees (palette.mixed first amount second).2 palette := by
  obtain same | ⟨color, absent, answer, added⟩ := mixed_snd_eq palette first amount second
  · rw [same]
    exact .refl palette
  -- Only the name of the mix is new, which is none of a plain color.
  have others {name : String} (other : name ≠ mixName first amount second) :
      (palette.mixed first amount second).2.get? name = palette.get? name := by
    rw [added, get?_append_of_ne other]
  refine ⟨fun plainName => others (plainName.ne_mixName _ _ _), ?_⟩
  intro one two number plainOne plainTwo
  by_cases same : mixName one number two = mixName first amount second
  · -- The mix just added is asked for again, by the same fields.
    obtain ⟨rfl, rfl, rfl⟩ := mixName_inj plainOne plain same
    rw [mixed_fst_eq, isTooLongToWrite_of_mixed answer, answer, added]
    rw [get?] at absent
    simp [get?, List.lookup_append, absent]
  · -- Any other mix depends on entries that were there before.
    rw [mixed_fst_eq, mixed_fst_eq palette, others same]
    simp only [freshMix, others (plainOne.ne_mixName _ _ _), others (plainTwo.ne_mixName _ _ _)]

/-- All palettes that agree with a given one cannot be told apart. -/
theorem bisimulation_agrees (palette : Palette) :
    Bisimulation fun p q => Agrees p palette ∧ Agrees q palette where
  -- Both answers are those of the given palette, and no request moves away from it.
  color pair plain := (pair.1.trans pair.2.symm).color plain
  mix pair amount plain plainSecond := (pair.1.trans pair.2.symm).mix amount plain plainSecond
  after pair amount plain plainSecond :=
    ⟨(agrees_mixed _ amount plain plainSecond).trans pair.1,
      (agrees_mixed _ amount plain plainSecond).trans pair.2⟩

/-- All palettes that have grown from a scheme cannot be told apart. -/
theorem IsScheme.bisimulation {scheme : Palette} (named : scheme.IsScheme) :
    Bisimulation fun p q => GrownFrom scheme p ∧ GrownFrom scheme q where
  -- What has grown from a scheme answers as the scheme does, whichever way it has grown.
  color pair plain := by rw [pair.1.get?_of_isPlain plain, pair.2.get?_of_isPlain plain]
  mix pair amount plain plainSecond := by
    rw [pair.1.mixed_fst named amount plain plainSecond,
      pair.2.mixed_fst named amount plain plainSecond]
  after pair amount plain plainSecond :=
    ⟨pair.1.mixed_snd amount plain plainSecond, pair.2.mixed_snd amount plain plainSecond⟩

end Palette

end Themer
