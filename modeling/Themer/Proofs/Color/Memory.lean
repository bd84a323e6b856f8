import Themer.Proofs.Color.MixName

/-! What a palette remembers: its scheme stays in front, and behind it come true mixes only. -/

namespace Themer

namespace Palette

/-- Every color has a plain name, as the colors of a scheme do. -/
def IsScheme (palette : Palette) : Prop :=
  ∀ name ∈ palette.names, IsPlain name

instance (palette : Palette) : Decidable palette.IsScheme :=
  inferInstanceAs (Decidable (∀ name ∈ palette.names, IsPlain name))

/-- An entry that holds the mix of two colors of a scheme, under the name of that mix. -/
inductive IsMixOf (scheme : Palette) : String × Color → Prop
  | intro {first second : String} {amount : Int} {a b color : Color}
      (firstIs : scheme.get? first = some a) (secondIs : scheme.get? second = some b)
      (mixed : a.mix amount b = .ok color) : IsMixOf scheme (mixName first amount second, color)

/-- A palette that begins with the entries of a scheme and goes on with mixes of its colors. -/
def GrownFrom (scheme palette : Palette) : Prop :=
  ∃ mixes, palette.entries = scheme.entries ++ mixes ∧ ∀ entry ∈ mixes, IsMixOf scheme entry

/-- The mix of two colors by their names, worked out from the colors alone. -/
def freshMix (colors : String → Option Color) (first : String) (amount : Int) (second : String) :
    Except ColorError (Option Color) :=
  if isTooLongToWrite amount then .error (.amountTooLong amount)
  else match colors first, colors second with
    | some a, some b => (a.mix amount b).map some
    | _, _ => .ok none

/-- An amount in range is written. -/
theorem isTooLongToWrite_of_inRange {amount : Int} (inRange : 0 ≤ amount ∧ amount ≤ 100) :
    isTooLongToWrite amount = false := by
  have great : 100 < tenTo digitLimit := by decide +kernel
  rw [isTooLongToWrite_eq_false_iff]
  omega

/-- An amount that colors mix by is written. -/
theorem isTooLongToWrite_of_mix {a b color : Color} {amount : Int}
    (made : a.mix amount b = .ok color) : isTooLongToWrite amount = false := by
  refine isTooLongToWrite_of_inRange ?_
  by_contra outside
  simp [Color.mix, outside] at made

/-- A mix comes to a color exactly where both its colors are there and it is made of them. -/
theorem freshMix_eq_some_iff {colors : String → Option Color} {first second : String}
    {amount : Int} {color : Color} :
    freshMix colors first amount second = .ok (some color) ↔
      ∃ a b, colors first = some a ∧ colors second = some b ∧ a.mix amount b = .ok color := by
  unfold freshMix
  cases tooLong : isTooLongToWrite amount with
  | true =>
    -- No colors mix by an amount that is not written.
    refine ⟨fun refused => by simp at refused, ?_⟩
    rintro ⟨a, b, _, _, made⟩
    rw [isTooLongToWrite_of_mix made] at tooLong
    cases tooLong
  | false =>
    cases colors first with
    | none => simp
    | some a =>
      cases colors second with
      | none => simp
      | some b => cases computed : a.mix amount b <;> simp [computed, Except.map]

/-- A name without an entry gets one behind all others. -/
theorem put_of_lookup_eq_none {entries : List (String × Color)} {name : String}
    (absent : entries.lookup name = none) (color : Color) :
    put entries name color = entries ++ [(name, color)] := by
  -- The search for the name comes to the end of the entries.
  induction entries with
  | nil => rfl
  | cons entry rest ih =>
    -- The first entry has another name, so the new one goes behind the rest.
    rw [List.lookup_eq_none_iff, List.forall_mem_cons] at absent
    obtain ⟨other, absentLater⟩ := absent
    have other : entry.1 ≠ name := by simpa using Ne.symm (bne_iff_ne.mp other)
    simp [put, other, ih (List.lookup_eq_none_iff.mpr absentLater)]

/-- Colors under different names make a palette of just these. -/
theorem ofList_of_nodup {colors : List (String × Color)}
    (distinct : (colors.map Prod.fst).Nodup) : ofList colors = ⟨colors⟩ := by
  -- Each color goes behind those before it, so these stay quantified over.
  have behind : ∀ before : List (String × Color),
      ((before ++ colors).map Prod.fst).Nodup →
        colors.foldl (fun entries entry => put entries entry.1 entry.2) before =
          before ++ colors := by
    clear distinct
    induction colors with
    | nil =>
      intro before _
      simp
    | cons entry rest ih =>
      intro before distinct
      have absent : before.lookup entry.1 = none := by
        rw [List.lookup_eq_none_iff]
        intro other among
        rw [List.map_append, List.nodup_append] at distinct
        have apart := distinct.2.2 other.1 (List.mem_map_of_mem among) entry.1 (by simp)
        exact bne_iff_ne.mpr apart.symm
      change rest.foldl _ (put before entry.1 entry.2) = _
      rw [put_of_lookup_eq_none absent, ih (before ++ [entry]) (by simpa using distinct)]
      simp
  exact congrArg Palette.mk (behind [] distinct)

/-- Without a name for it a mix is refused, whatever is kept. -/
theorem mixed_of_tooLong {amount : Int} (tooLong : isTooLongToWrite amount = true)
    (palette : Palette) (first second : String) :
    palette.mixed first amount second = (.error (.amountTooLong amount), palette) := by
  simp [mixed, writeMixName, tooLong]

/-- A mix that has a name is what is kept under it, or else made of the two colors and kept. -/
theorem mixed_of_short {amount : Int} (short : isTooLongToWrite amount = false)
    (palette : Palette) (first second : String) :
    palette.mixed first amount second =
      match palette.get? (mixName first amount second) with
      | some color => (.ok (some color), palette)
      | none => match freshMix palette.get? first amount second with
        | .ok (some color) =>
          (.ok (some color), ⟨put palette.entries (mixName first amount second) color⟩)
        | other => (other, palette) := by
  simp only [mixed, writeMixName, freshMix, short, Bool.false_eq_true, if_false]
  cases palette.get? (mixName first amount second) with
  | some color => rfl
  | none => cases palette.get? first with
    | none => rfl
    | some a => cases palette.get? second with
      | none => rfl
      | some b => cases computed : a.mix amount b <;> simp [computed, Except.map]

/-- A mix that is given has a name. -/
theorem isTooLongToWrite_of_mixed {palette : Palette} {first second : String} {amount : Int}
    {answer : Option Color} (given : (palette.mixed first amount second).1 = .ok answer) :
    isTooLongToWrite amount = false := by
  cases tooLong : isTooLongToWrite amount with
  | false => rfl
  | true => simp [mixed_of_tooLong tooLong] at given

/-- A mix is refused, given as kept under its name, or worked out from the two colors. -/
theorem mixed_fst_eq (palette : Palette) (first : String) (amount : Int) (second : String) :
    (palette.mixed first amount second).1 =
      if isTooLongToWrite amount then .error (.amountTooLong amount)
      else match palette.get? (mixName first amount second) with
        | some color => .ok (some color)
        | none => freshMix palette.get? first amount second := by
  cases length : isTooLongToWrite amount with
  | true => simp [mixed_of_tooLong length]
  | false =>
    rw [mixed_of_short length]
    -- Whatever is kept under the name is given, before either color is looked for.
    cases palette.get? (mixName first amount second) with
    | some color => rfl
    | none => cases freshMix palette.get? first amount second with
      | error => rfl
      | ok answer => cases answer <;> rfl

/--
What asking for a mix comes to.

It is found and given again, or made and kept behind all others, or not given and not kept.
-/
theorem mixed_cases (palette : Palette) (first : String) (amount : Int) (second : String) :
    (∃ color, palette.get? (mixName first amount second) = some color ∧
      palette.mixed first amount second = (.ok (some color), palette)) ∨
    (∃ color, palette.get? (mixName first amount second) = none ∧
      palette.mixed first amount second =
        (.ok (some color), ⟨palette.entries ++ [(mixName first amount second, color)]⟩)) ∨
    ((∀ color, (palette.mixed first amount second).1 ≠ .ok (some color)) ∧
      (palette.mixed first amount second).2 = palette) := by
  cases length : isTooLongToWrite amount with
  | true => exact .inr (.inr (by simp [mixed_of_tooLong length]))
  | false =>
    rw [mixed_of_short length]
    cases found : palette.get? (mixName first amount second) with
    | some color => exact .inl ⟨color, rfl, rfl⟩
    | none =>
      refine .inr ?_
      -- A mix that is not kept is worked out, and kept if it comes to a color.
      cases freshMix palette.get? first amount second with
      | error => exact .inr ⟨nofun, rfl⟩
      | ok answer => cases answer with
        | none => exact .inr ⟨nofun, rfl⟩
        | some color =>
          -- The name is a new one, so its entry goes behind all others.
          exact .inl ⟨color, rfl, by simp only [put_of_lookup_eq_none found]⟩

/-- A palette after a mix is the one before, or it has that mix as its last entry. -/
theorem mixed_snd_eq (palette : Palette) (first : String) (amount : Int) (second : String) :
    (palette.mixed first amount second).2 = palette ∨
      ∃ color, palette.get? (mixName first amount second) = none ∧
        (palette.mixed first amount second).1 = .ok (some color) ∧
        (palette.mixed first amount second).2 =
          ⟨palette.entries ++ [(mixName first amount second, color)]⟩ := by
  obtain ⟨_, _, again⟩ | ⟨color, absent, made⟩ | ⟨_, same⟩ :=
    mixed_cases palette first amount second
  · exact .inl (by rw [again])
  · exact .inr ⟨color, absent, by rw [made], by rw [made]⟩
  · exact .inl same

/-- A color that a scheme has is called by a plain name. -/
theorem IsScheme.isPlain {scheme : Palette} (named : scheme.IsScheme) {name : String}
    {color : Color} (found : scheme.get? name = some color) : IsPlain name := by
  -- The entry found is one of the scheme's, and its name is the one asked for.
  obtain ⟨before, after, split, _⟩ := List.lookup_eq_some_iff.mp found
  exact named name (by simp [names, split])

/-- A scheme has no color under the name of a mix. -/
theorem IsScheme.get?_mixName {scheme : Palette} (named : scheme.IsScheme)
    (first : String) (amount : Int) (second : String) :
    scheme.get? (mixName first amount second) = none := by
  cases found : scheme.get? (mixName first amount second) with
  | none => rfl
  -- A color found there would have a name with the mark in it.
  | some color => exact absurd rfl ((named.isPlain found).ne_mixName first amount second)

/-- A scheme has grown from itself, with no mixes yet. -/
theorem GrownFrom.refl (scheme : Palette) : GrownFrom scheme scheme :=
  ⟨[], by simp, by simp⟩

/-- However many mixes are remembered, a plain name has the color that it has in the scheme. -/
theorem GrownFrom.get?_of_isPlain {scheme palette : Palette} (grown : GrownFrom scheme palette)
    {name : String} (plain : IsPlain name) : palette.get? name = scheme.get? name := by
  obtain ⟨mixes, split, mixed⟩ := grown
  -- No mix is kept under a plain name, so the mixes are passed over.
  have unmixed : mixes.lookup name = none := by
    rw [List.lookup_eq_none_iff]
    intro entry member
    cases mixed entry member with
    | intro _ _ _ => exact bne_iff_ne.mpr (plain.ne_mixName _ _ _)
  rw [get?, split, List.lookup_append, unmixed, Option.or_none, get?]

/-- Without its mixes, a palette is the scheme that it has grown from. -/
theorem GrownFrom.base {scheme palette : Palette} (grown : GrownFrom scheme palette)
    (named : scheme.IsScheme) : palette.base = scheme.entries := by
  obtain ⟨mixes, split, mixed⟩ := grown
  rw [Palette.base, split, List.filter_append]
  -- The mark is in the name of every mix, and in the name of no color.
  have colors : scheme.entries.filter (fun entry => !entry.1.toList.contains separator) =
      scheme.entries := by
    rw [List.filter_eq_self]
    intro entry among
    have plain := named entry.1 (List.mem_map_of_mem among)
    simpa [IsPlain] using plain
  have marked : mixes.filter (fun entry => !entry.1.toList.contains separator) = [] := by
    rw [List.filter_eq_nil_iff]
    intro entry among
    cases mixed entry among with
    | @intro first second amount _ _ _ _ _ _ =>
      have notPlain := not_isPlain_mixName first amount second
      simpa [IsPlain] using notPlain
  rw [colors, marked, List.append_nil]

/-- What is found under the name of a mix is that very mix, worked out from the scheme. -/
theorem GrownFrom.freshMix_of_get? {scheme palette : Palette} (grown : GrownFrom scheme palette)
    (named : scheme.IsScheme) {first second : String} {amount : Int} {color : Color}
    (plain : IsPlain first) (found : palette.get? (mixName first amount second) = some color) :
    freshMix scheme.get? first amount second = .ok (some color) := by
  obtain ⟨mixes, split, mixed⟩ := grown
  -- The scheme itself has nothing under such a name, so one of the mixes was found.
  have foundLater : mixes.lookup (mixName first amount second) = some color := by
    have absent := named.get?_mixName first amount second
    rw [get?] at absent
    simpa [get?, split, List.lookup_append, absent] using found
  obtain ⟨before, after, place, _⟩ := List.lookup_eq_some_iff.mp foundLater
  have isMix := mixed (mixName first amount second, color) (by simp [place])
  -- Its name tells of which colors it is the mix.
  generalize entryIs : (mixName first amount second, color) = entry at isMix
  cases isMix with
  | intro firstIs secondIs computed =>
    simp only [Prod.mk.injEq] at entryIs
    obtain ⟨rfl, rfl, rfl⟩ := mixName_inj plain (named.isPlain firstIs) entryIs.1
    obtain rfl := entryIs.2
    exact freshMix_eq_some_iff.mpr ⟨_, _, firstIs, secondIs, computed⟩

/-- A mix of plainly named colors is worked out as it is in the scheme. -/
theorem GrownFrom.freshMix_eq {scheme palette : Palette} (grown : GrownFrom scheme palette)
    {first second : String} (amount : Int) (plain : IsPlain first)
    (plainSecond : IsPlain second) :
    freshMix palette.get? first amount second = freshMix scheme.get? first amount second := by
  simp only [freshMix, grown.get?_of_isPlain plain, grown.get?_of_isPlain plainSecond]

/-- A mix that comes to a color is the mix of two colors that are there. -/
theorem isMixOf_of_freshMix {scheme : Palette} {first second : String} {amount : Int}
    {color : Color} (worked : freshMix scheme.get? first amount second = .ok (some color)) :
    IsMixOf scheme (mixName first amount second, color) := by
  obtain ⟨a, b, firstIs, secondIs, computed⟩ := freshMix_eq_some_iff.mp worked
  exact .intro firstIs secondIs computed

/-- Remembered or not, a mix of plainly named colors is the one worked out from the scheme. -/
theorem GrownFrom.mixed_fst {scheme palette : Palette} (grown : GrownFrom scheme palette)
    (named : scheme.IsScheme) {first second : String} (amount : Int)
    (plain : IsPlain first) (plainSecond : IsPlain second) :
    (palette.mixed first amount second).1 = freshMix scheme.get? first amount second := by
  cases length : isTooLongToWrite amount with
  | true => simp [mixed_of_tooLong length, freshMix, length]
  | false =>
    rw [mixed_fst_eq, length, if_neg Bool.false_ne_true]
    cases found : palette.get? (mixName first amount second) with
    | some color =>
      -- A remembered mix is given again, and it is the one of this name.
      exact (grown.freshMix_of_get? named plain found).symm
    | none =>
      -- Both colors are looked up under plain names, which the mixes do not hide.
      exact grown.freshMix_eq amount plain plainSecond

/-- Asking for a mix of plainly named colors adds at most that mix. -/
theorem GrownFrom.mixed_snd {scheme palette : Palette} (grown : GrownFrom scheme palette)
    {first second : String} (amount : Int)
    (plain : IsPlain first) (plainSecond : IsPlain second) :
    GrownFrom scheme (palette.mixed first amount second).2 := by
  obtain same | ⟨color, absent, answer, added⟩ := mixed_snd_eq palette first amount second
  · rwa [same]
  -- The new entry comes last, behind the mixes remembered before.
  have short := isTooLongToWrite_of_mixed answer
  rw [mixed_fst_eq, short, if_neg Bool.false_ne_true, absent] at answer
  have isMix := isMixOf_of_freshMix ((grown.freshMix_eq amount plain plainSecond).symm.trans answer)
  obtain ⟨mixes, split, mixed⟩ := grown
  refine ⟨mixes ++ [(mixName first amount second, color)], ?_, ?_⟩
  · rw [added, split, List.append_assoc]
  · intro entry member
    rw [List.mem_append, List.mem_singleton] at member
    obtain old | rfl := member
    · exact mixed entry old
    · exact isMix

end Palette

end Themer
