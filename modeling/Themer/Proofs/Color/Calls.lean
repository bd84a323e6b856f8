import Themer.Proofs.Color.Average
import Themer.Proofs.Color.Memory

/-!
A palette in use: it keeps one entry for each mix that was granted, and no other trace of a call.

The scheme stays in front as it was, and nothing that was kept is lost, changed or moved.
-/

namespace Themer

namespace Palette

/-- A mix as it is asked for: its first color, the amount of that and its second color. -/
@[ext]
structure Mix where
  first : String
  amount : Int
  second : String
deriving DecidableEq, Repr

namespace Mix

/-- The name that a mix is kept under. -/
def name (mix : Mix) : String :=
  mixName mix.first mix.amount mix.second

/-- Whether a mix is one of plainly named colors. -/
def IsPlain (mix : Mix) : Prop :=
  Palette.IsPlain mix.first ∧ Palette.IsPlain mix.second

instance : DecidablePred IsPlain := fun mix =>
  inferInstanceAs (Decidable (Palette.IsPlain mix.first ∧ Palette.IsPlain mix.second))

/-- Whether a color is the mix of two colors of a scheme, by an amount in range. -/
structure Makes (scheme : Palette) (mix : Mix) (color : Color) : Prop where
  inRange : 0 ≤ mix.amount ∧ mix.amount ≤ 100
  made : ∃ a b, scheme.get? mix.first = some a ∧ scheme.get? mix.second = some b ∧
    a.mix mix.amount b = .ok color

end Mix

/-- What a palette is asked for: the color of a name, or a mix. -/
inductive Call
  | color (name : String)
  | mix (asked : Mix)
deriving DecidableEq, Repr

/-- Whether a call asks for a mix by plain names only; a color may be asked for by any name. -/
def Call.IsPlain : Call → Prop
  | .color _ => True
  | .mix asked => asked.IsPlain

instance : DecidablePred Call.IsPlain
  | .color _ => inferInstanceAs (Decidable True)
  | .mix asked => inferInstanceAs (Decidable asked.IsPlain)

/-- The answer to a call: a color, none, or the error of an amount out of range. -/
abbrev Answer : Type := Except ColorError (Option Color)

/-- The answer to a call, and the palette after it. -/
def answer (palette : Palette) : Call → Answer × Palette
  | .color name => (.ok (palette.get? name), palette)
  | .mix asked => palette.mixed asked.first asked.amount asked.second

/-- The answers to some calls, one after the other, and the palette after the last of them. -/
def answers (palette : Palette) : List Call → List (Call × Answer) × Palette
  | [] => ([], palette)
  | call :: rest =>
    let (first, next) := palette.answer call
    let (others, last) := next.answers rest
    ((call, first) :: others, last)

/-- The mix that an answered call was granted, if it asked for one. -/
def granted? : Call × Answer → Option Mix
  | (.mix asked, .ok (some _)) => some asked
  | _ => none

/-- The entry for a mix: its color under its name. -/
def Mix.entry (pair : Mix × Color) : String × Color :=
  (pair.1.name, pair.2)

/-- A palette of a scheme and of some mixes of its colors behind that, each of them kept once. -/
structure Keeps (scheme : Palette) (kept : List (Mix × Color)) (palette : Palette) : Prop where
  entries : palette.entries = scheme.entries ++ kept.map Mix.entry
  makes : ∀ mix color, (mix, color) ∈ kept → mix.Makes scheme color
  once : (kept.map Prod.fst).Nodup

/-- A mix comes to a color exactly where that is made of two colors that are there. -/
theorem Mix.makes_iff {scheme : Palette} {mix : Mix} {color : Color} :
    mix.Makes scheme color ↔
      freshMix scheme.get? mix.first mix.amount mix.second = .ok (some color) := by
  rw [freshMix_eq_some_iff]
  constructor
  · rintro ⟨_, made⟩
    exact made
  · -- A mix that is made has an amount in range.
    rintro ⟨a, b, firstIs, secondIs, made⟩
    exact ⟨(Color.mix_eq_ok_iff.mp made).1, a, b, firstIs, secondIs, made⟩

/-- A mix is granted to a call for it that is answered with a color. -/
theorem granted?_eq_some_iff {call : Call} {given : Answer} {mix : Mix} :
    granted? (call, given) = some mix ↔ call = .mix mix ∧ ∃ color, given = .ok (some color) := by
  unfold granted?
  split
  · rename_i asked color same
    cases same
    simp
  · rename_i other
    constructor
    · intro none
      cases none
    · rintro ⟨rfl, color, rfl⟩
      exact absurd rfl (other mix color)

/-- A name that one of some entries has is found. -/
theorem get?_of_mem {palette : Palette} {name : String} (among : name ∈ palette.names) :
    ∃ color, palette.get? name = some color := by
  -- Were nothing found, no entry would have the name.
  rw [← Option.isSome_iff_exists, get?, Option.isSome_iff_ne_none, ne_eq,
    List.lookup_eq_none_iff]
  intro absent
  obtain ⟨entry, amongEntries, rfl⟩ := List.mem_map.mp among
  simpa using absent entry amongEntries

/-- What is found in front is found in the whole. -/
theorem get?_of_append {palette after : Palette} {added : List (String × Color)}
    (split : after.entries = palette.entries ++ added) {name : String} {color : Color}
    (found : palette.get? name = some color) : after.get? name = some color := by
  rw [get?] at found
  rw [get?, split, List.lookup_append, found, Option.some_or]

/-- A mix that was granted is found under its name from then on. -/
theorem get?_of_granted {palette : Palette} {mix : Mix} {color : Color}
    (given : (palette.mixed mix.first mix.amount mix.second).1 = .ok (some color)) :
    (palette.mixed mix.first mix.amount mix.second).2.get? mix.name = some color := by
  -- Either it was there and is given again, or it is made and added under its name.
  obtain ⟨own, found, again⟩ | ⟨own, absent, made⟩ | ⟨refused, _⟩ :=
    mixed_cases palette mix.first mix.amount mix.second
  · rw [again] at given ⊢
    cases given
    exact found
  · rw [made] at given ⊢
    cases given
    rw [get?] at absent
    simp [get?, List.lookup_append, Mix.name, absent]
  · exact absurd given (refused color)

/-- A mix that is found under its name is given again, and nothing is added. -/
theorem mixed_of_get? {palette : Palette} {mix : Mix} {color : Color}
    (short : isTooLongToWrite mix.amount = false)
    (found : palette.get? mix.name = some color) :
    palette.mixed mix.first mix.amount mix.second = (.ok (some color), palette) := by
  rw [Mix.name] at found
  rw [mixed_of_short short, found]

/-- A call that is not answered with a color leaves the palette as it is. -/
theorem answer_snd_of_refused {palette : Palette} {call : Call}
    (refused : ∀ color, (palette.answer call).1 ≠ .ok (some color)) :
    (palette.answer call).2 = palette := by
  -- Only a mix that is made adds an entry, and then it is answered with its color.
  cases call with
  | color name => rfl
  | mix asked =>
    obtain ⟨color, _, again⟩ | ⟨color, _, made⟩ | ⟨_, same⟩ :=
      mixed_cases palette asked.first asked.amount asked.second
    · exact congrArg Prod.snd again
    · exact absurd (congrArg Prod.fst made) (refused color)
    · exact same

/-- A call adds entries behind the others, if any. -/
theorem exists_append_of_answer (palette : Palette) (call : Call) :
    ∃ added, (palette.answer call).2.entries = palette.entries ++ added := by
  cases call with
  | color name => exact ⟨[], by simp [answer]⟩
  | mix asked =>
    obtain same | ⟨color, _, _, added⟩ :=
      mixed_snd_eq palette asked.first asked.amount asked.second
    · exact ⟨[], by rw [answer, same, List.append_nil]⟩
    · exact ⟨_, congrArg Palette.entries added⟩

/-- Any number of calls add entries behind the others, if any. -/
theorem exists_append_of_answers (palette : Palette) (calls : List Call) :
    ∃ added, (palette.answers calls).2.entries = palette.entries ++ added := by
  -- Each call starts from the palette that the calls before it have left.
  induction calls generalizing palette with
  | nil => exact ⟨[], by simp [answers]⟩
  | cons call rest ih =>
    obtain ⟨first, here⟩ := palette.exists_append_of_answer call
    obtain ⟨others, later⟩ := ih (palette.answer call).2
    exact ⟨first ++ others, by rw [answers, later, here, List.append_assoc]⟩

/-- A call that was answered with a color is answered so ever after, and then adds nothing. -/
theorem answer_again {palette : Palette} {call : Call} {color : Color}
    (given : (palette.answer call).1 = .ok (some color)) (more : List Call) :
    let later := ((palette.answer call).2.answers more).2
    later.answer call = (.ok (some color), later) := by
  -- What was found or kept at the first call stays in front of all that comes later.
  obtain ⟨added, split⟩ := (palette.answer call).2.exists_append_of_answers more
  cases call with
  | color name =>
    have found : palette.get? name = some color := Except.ok.inj given
    exact congrArg (fun found => (Except.ok found, _)) (get?_of_append split found)
  | mix asked =>
    exact mixed_of_get? (isTooLongToWrite_of_mixed given)
      (get?_of_append split (get?_of_granted given))

namespace Keeps

variable {scheme palette : Palette} {kept : List (Mix × Color)}

/-- A scheme that was asked for nothing keeps no mixes. -/
theorem refl (scheme : Palette) : Keeps scheme [] scheme :=
  ⟨by simp, by simp, by simp⟩

/-- What keeps mixes of a scheme has grown from it. -/
theorem grownFrom (keeps : Keeps scheme kept palette) : GrownFrom scheme palette := by
  -- Behind the scheme there are the entries of the mixes kept, and nothing else.
  refine ⟨_, keeps.entries, fun entry among => ?_⟩
  obtain ⟨⟨mix, color⟩, amongKept, rfl⟩ := List.mem_map.mp among
  exact isMixOf_of_freshMix (Mix.makes_iff.mp (keeps.makes mix color amongKept))

/-- A mix of plainly named colors that is found under its name is one of those kept. -/
theorem mem_of_get? (keeps : Keeps scheme kept palette) (named : scheme.IsScheme) {mix : Mix}
    (plain : mix.IsPlain) {color : Color} (found : palette.get? mix.name = some color) :
    mix ∈ kept.map Prod.fst := by
  -- The scheme itself has nothing under such a name, so the entry of some kept mix was found.
  have absent := named.get?_mixName mix.first mix.amount mix.second
  rw [get?] at absent
  rw [get?, keeps.entries, List.lookup_append, Mix.name, absent, Option.none_or] at found
  obtain ⟨before, after, place, _⟩ := List.lookup_eq_some_iff.mp found
  have among : (mix.name, color) ∈ kept.map Mix.entry := by
    rw [place]
    exact List.mem_append_right before (List.mem_cons_self ..)
  obtain ⟨⟨own, held⟩, amongKept, same⟩ := List.mem_map.mp among
  -- The name tells which mix it is, since no first color has the mark in its name.
  obtain ⟨_, a, _, firstIs, _⟩ := keeps.makes own held amongKept
  obtain ⟨firsts, amounts, seconds⟩ :=
    mixName_inj (named.isPlain firstIs) plain.1 (congrArg Prod.fst same)
  obtain rfl : own = mix := Mix.ext firsts amounts seconds
  exact List.mem_map_of_mem amongKept

/-- A mix that is kept is found under its name. -/
theorem get?_of_mem (keeps : Keeps scheme kept palette) {mix : Mix}
    (among : mix ∈ kept.map Prod.fst) : ∃ color, palette.get? mix.name = some color := by
  obtain ⟨⟨own, color⟩, amongKept, rfl⟩ := List.mem_map.mp among
  refine Palette.get?_of_mem ?_
  rw [names, keeps.entries, List.map_append, List.mem_append]
  exact .inr (List.mem_map.mpr ⟨_, List.mem_map_of_mem amongKept, rfl⟩)

/-- A mix that is not kept yet may be kept behind the others. -/
theorem add (keeps : Keeps scheme kept palette) {mix : Mix} {color : Color}
    (another : mix ∉ kept.map Prod.fst) (makes : mix.Makes scheme color) :
    Keeps scheme (kept ++ [(mix, color)]) ⟨palette.entries ++ [(mix.name, color)]⟩ where
  entries := by simp [keeps.entries, Mix.entry]
  makes own held among := by
    rcases List.mem_append.mp among with old | new
    · exact keeps.makes own held old
    · cases List.mem_singleton.mp new
      exact makes
  once := by
    -- Those kept before are different mixes, and the new one is none of them.
    rw [List.map_append]
    refine List.nodup_append.mpr ⟨keeps.once, by simp, ?_⟩
    rintro own old _ new rfl
    obtain rfl : own = mix := List.mem_singleton.mp new
    exact another old

/-- A call adds the mix that it is granted to those kept, unless it is there. -/
theorem answer (keeps : Keeps scheme kept palette) (named : scheme.IsScheme) {call : Call}
    (plain : call.IsPlain) :
    ∃ more, Keeps scheme more (palette.answer call).2 ∧ ∀ mix, mix ∈ more.map Prod.fst ↔
      mix ∈ kept.map Prod.fst ∨ granted? (call, (palette.answer call).1) = some mix := by
  simp only [granted?_eq_some_iff]
  cases call with
  | color name => exact ⟨kept, keeps, by simp⟩
  | mix asked =>
    have answered := keeps.grownFrom.mixed_fst named asked.amount plain.1 plain.2
    simp only [Palette.answer, Call.mix.injEq]
    obtain ⟨color, found, again⟩ | ⟨color, absent, made⟩ | ⟨refused, same⟩ :=
      mixed_cases palette asked.first asked.amount asked.second
    · -- A mix that is given again was kept before.
      have there := keeps.mem_of_get? named plain found
      rw [again]
      refine ⟨kept, keeps, fun mix => ⟨.inl, ?_⟩⟩
      rintro (known | ⟨rfl, _⟩)
      · exact known
      · exact there
    · -- A mix that was made is kept behind the others, and was not among them.
      have another : asked ∉ kept.map Prod.fst := fun there => by
        obtain ⟨_, found⟩ := keeps.get?_of_mem there
        rw [Mix.name, absent] at found
        cases found
      rw [made] at answered ⊢
      exact ⟨_, keeps.add another (Mix.makes_iff.mpr answered.symm), by simp [eq_comm]⟩
    · -- A mix that was refused is none of those granted.
      rw [same]
      refine ⟨kept, keeps, fun mix => ⟨.inl, ?_⟩⟩
      rintro (known | ⟨_, color, given⟩)
      · exact known
      · exact absurd given (refused color)

/-- After any calls, the mixes kept are those kept before and those granted since. -/
theorem answers (keeps : Keeps scheme kept palette) (named : scheme.IsScheme) {calls : List Call}
    (plain : ∀ call ∈ calls, call.IsPlain) :
    ∃ more, Keeps scheme more (palette.answers calls).2 ∧ ∀ mix, mix ∈ more.map Prod.fst ↔
      mix ∈ kept.map Prod.fst ∨ mix ∈ (palette.answers calls).1.filterMap granted? := by
  -- The mixes kept grow from call to call, so they vary together with the palette.
  induction calls generalizing palette kept with
  | nil => exact ⟨kept, keeps, by simp [Palette.answers]⟩
  | cons call rest ih =>
    rw [List.forall_mem_cons] at plain
    obtain ⟨between, keepsBetween, first⟩ := keeps.answer named plain.1
    obtain ⟨more, keepsMore, others⟩ := ih keepsBetween plain.2
    refine ⟨more, keepsMore, fun mix => ?_⟩
    rw [others, first, or_assoc]
    simp only [Palette.answers, List.mem_filterMap, List.exists_mem_cons_iff]

end Keeps

/--
A palette in use is its scheme, with one entry behind it for each mix that was granted.

Each of these holds the mix of two colors of the scheme, by an amount in range, under its name.
Later calls only add entries behind those there are. One that gives no color adds none, and neither
does one that has given a color before: it gives that color ever after.
-/
theorem palette_keeps_granted (scheme : Palette) (named : scheme.IsScheme) (calls : List Call)
    (plain : ∀ call ∈ calls, call.IsPlain) :
    let (answered, palette) := scheme.answers calls
    palette.base = scheme.entries ∧
    (∃ kept, Keeps scheme kept palette ∧
      ∀ mix, mix ∈ kept.map Prod.fst ↔ mix ∈ answered.filterMap granted?) ∧
    palette.size = scheme.size + (answered.filterMap granted?).toFinset.card ∧
    (∀ more, ∃ added, (palette.answers more).2.entries = palette.entries ++ added) ∧
    ∀ call, let (given, after) := palette.answer call
      ((∀ color, given ≠ .ok (some color)) → after = palette) ∧
      ∀ color, given = .ok (some color) → ∀ more,
        (after.answers more).2.answer call = (.ok (some color), (after.answers more).2) := by
  obtain ⟨kept, keeps, granted⟩ := (Keeps.refl scheme).answers named plain
  simp only [List.map_nil, List.not_mem_nil, false_or] at granted
  refine ⟨keeps.grownFrom.base named, ⟨kept, keeps, granted⟩, ?_,
    exists_append_of_answers _, fun call => ⟨answer_snd_of_refused, fun color given more => ?_⟩⟩
  · -- Each granted mix is kept, and none is kept twice.
    have same : (kept.map Prod.fst).toFinset =
        ((scheme.answers calls).1.filterMap granted?).toFinset := by
      ext mix
      simp only [List.mem_toFinset, granted]
    rw [← same, List.toFinset_card_of_nodup keeps.once, size, keeps.entries]
    simp [size]
  · exact answer_again given more

/-- Of six calls, two are granted a mix: the others are refused, find nothing or find that mix. -/
theorem palette_keeps_granted_two :
    let scheme : Palette := ⟨[("ink", ⟨0, 0, 0⟩), ("paper", ⟨255, 255, 255⟩)]⟩
    let calls : List Call := [.mix ⟨"ink", 150, "paper"⟩, .mix ⟨"ink", 50, "none"⟩,
      .mix ⟨"ink", 50, "paper"⟩, .color "ink:50:paper", .mix ⟨"ink", 50, "paper"⟩,
      .mix ⟨"paper", 0, "ink"⟩]
    let (answered, palette) := scheme.answers calls
    scheme.IsScheme ∧ (∀ call ∈ calls, call.IsPlain) ∧
      answered.map Prod.snd = [.error (.amountOutOfRange 150), .ok none,
        .ok (some ⟨127, 127, 127⟩), .ok (some ⟨127, 127, 127⟩), .ok (some ⟨127, 127, 127⟩),
        .ok (some ⟨0, 0, 0⟩)] ∧
      palette.names = ["ink", "paper", "ink:50:paper", "paper:0:ink"] ∧
      palette.base = scheme.entries ∧
      palette.size = scheme.size + (answered.filterMap granted?).toFinset.card := by
  intro scheme calls
  have named : scheme.IsScheme := by decide
  have plain : ∀ call ∈ calls, call.IsPlain := by decide
  obtain ⟨base, _, size, _⟩ := palette_keeps_granted scheme named calls plain
  exact ⟨named, plain, by decide +kernel, by decide +kernel, base, size⟩

end Palette

end Themer
