import Themer.Proofs.Json.Distinct

/-!
What is read where some levels are left is read where more of them are.

Of a document that is not read this cannot be said, as it may take levels to tell what is wrong.
-/

namespace Themer.Json

/-- Whether one reading gives all that another one gives. -/
def GivesAll {α : Type} (fewer more : Except Stop α) : Prop :=
  ∀ value, fewer = .ok value → more = .ok value

namespace GivesAll

variable {α β : Type} {fewer more : Except Stop α} {levels left : Nat}

/-- A reading gives all that it gives itself. -/
theorem refl (outcome : Except Stop α) : GivesAll outcome outcome :=
  fun _ given => given

/-- What stops gives nothing. -/
theorem of_stop (stop : Stop) (more : Except Stop α) : GivesAll (.error stop) more :=
  fun _ given => nomatch given

/-- A stop gives nothing, whether it can be told or not. -/
theorem of_raised (stop : Stop) (levels : Nat) (more : Except Stop α) :
    GivesAll (stop.raised levels) more :=
  fun value given => (stop.raised_ne_ok levels value given).elim

/-- A reading in two parts gives all that another gives if its parts do so. -/
theorem bind {next other : α → Except Stop β} (first : GivesAll fewer more)
    (later : ∀ value, GivesAll (next value) (other value)) :
    GivesAll (fewer >>= next) (more >>= other) := by
  intro whole given
  obtain ⟨value, begun, ended⟩ := bind_eq_ok_iff.mp given
  exact bind_eq_ok_iff.mpr ⟨value, first value begun, later value whole ended⟩

/-- What is given is given whatever is left for telling of a stop. -/
theorem raising (outcome : Except Stop α) (levels left : Nat) :
    GivesAll (Json.raising levels outcome) (Json.raising left outcome) := by
  cases outcome with
  | ok value => exact .refl _
  | error stop => exact .of_raised stop levels _

/-- What takes some levels is given where more of them are left. -/
theorem within (room : levels ≤ left) (taken : List Level) (outcome : Except Stop α) :
    GivesAll (Json.within levels taken outcome) (Json.within left taken outcome) := by
  intro value given
  unfold Json.within at given ⊢
  split at given
  · cases given
  · rename_i enough
    have more : taken[left]? = none := by
      rw [List.getElem?_eq_none_iff] at enough ⊢
      exact Nat.le_trans enough room
    rwa [more]

/-- An object that is closed is closed where more levels are left. -/
theorem closeObject (room : levels ≤ left) (distinct : Bool) (members : List (String × Datum)) :
    GivesAll (Json.closeObject distinct levels members)
      (Json.closeObject distinct left members) := by
  unfold Json.closeObject
  split <;> exact .within room _ _

/-- A scalar that is read is read where more levels are left. -/
theorem readScalar (room : levels ≤ left) (document : List Char) :
    GivesAll (Json.readScalar levels document) (Json.readScalar left document) := by
  unfold Json.readScalar
  split
  · exact .within room _ _
  · exact .refl _

end GivesAll

/-- Whether everything within a document that is read in so many steps is read with more levels. -/
structure IsReadDeeper (distinct : Bool) (steps : Nat) : Prop where
  values {levels left : Nat} (room : levels ≤ left) (document : List Char) :
    GivesAll (readValue distinct steps levels document) (readValue distinct steps left document)
  items {levels left : Nat} (room : levels ≤ left) (document : List Char) :
    GivesAll (readItems distinct steps levels document) (readItems distinct steps left document)
  members {levels left : Nat} (room : levels ≤ left) (document : List Char) :
    GivesAll (readMembers distinct steps levels document)
      (readMembers distinct steps left document)

namespace IsReadDeeper

variable {distinct : Bool} {steps levels left : Nat}

/-- A value that begins with no quote and no bracket is a scalar. -/
theorem readValue_of_scalar {c : Char} (noQuote : c ≠ '"') (noBracket : c ≠ '[')
    (noBrace : c ≠ '\x7b') (levels : Nat) (rest : List Char) :
    readValue distinct (steps + 1) levels (c :: rest) = readScalar levels (c :: rest) := by
  rw [readValue] <;> simp [noQuote, noBracket, noBrace]

/-- A value is read deeper, if what lies within it is. -/
theorem value_succ (inner : IsReadDeeper distinct steps) (room : levels ≤ left)
    (document : List Char) :
    GivesAll (readValue distinct (steps + 1) levels document)
      (readValue distinct (steps + 1) left document) := by
  cases document with
  | nil => exact .readScalar room []
  | cons c rest =>
    by_cases quote : c = '"'
    · subst quote
      simp only [readValue]
      exact (GivesAll.raising _ _ _).bind fun _ => .refl _
    · by_cases bracket : c = '['
      · subst bracket
        cases levels with
        | zero => exact .of_stop _ _
        | succ levels =>
          -- A bracket takes one of the levels from both readings.
          obtain ⟨more, rfl⟩ : ∃ more, left = more + 1 := ⟨left - 1, by omega⟩
          simp only [readValue]
          split
          · exact .refl _
          · exact (inner.items (by omega) _).bind fun _ => .refl _
      · by_cases brace : c = '\x7b'
        · subst brace
          cases levels with
          | zero => exact .of_stop _ _
          | succ levels =>
            obtain ⟨more, rfl⟩ : ∃ more, left = more + 1 := ⟨left - 1, by omega⟩
            have closes (members : List (String × Datum)) (after : List Char) :
                GivesAll (do return (← closeObject distinct levels members, after))
                  (do return (← closeObject distinct more members, after)) :=
              (GivesAll.closeObject (by omega) distinct members).bind fun _ => .refl _
            simp only [readValue]
            split
            · exact closes _ _
            · exact (inner.members (by omega) _).bind fun given => closes given.1 given.2
        · rw [readValue_of_scalar quote bracket brace, readValue_of_scalar quote bracket brace]
          exact .readScalar room _

/-- The items of a list are read deeper, if each value is. -/
theorem items_succ (inner : IsReadDeeper distinct steps) (room : levels ≤ left)
    (document : List Char) :
    GivesAll (readItems distinct (steps + 1) levels document)
      (readItems distinct (steps + 1) left document) := by
  unfold readItems
  refine (inner.values room _).bind ?_
  rintro ⟨item, rest⟩
  dsimp only
  split
  · exact .refl _
  · exact (inner.items room _).bind fun _ => .refl _
  · exact .of_raised _ _ _

/-- The members of an object are read deeper, if each value is. -/
theorem members_succ (inner : IsReadDeeper distinct steps) (room : levels ≤ left)
    (document : List Char) :
    GivesAll (readMembers distinct (steps + 1) levels document)
      (readMembers distinct (steps + 1) left document) := by
  unfold readMembers
  split
  · refine (GivesAll.raising _ _ _).bind ?_
    rintro ⟨name, rest⟩
    dsimp only
    split
    · refine (inner.values room _).bind ?_
      rintro ⟨value, rest⟩
      dsimp only
      split
      · exact .refl _
      · exact (inner.members room _).bind fun _ => .refl _
      · exact .of_raised _ _ _
    · exact .of_raised _ _ _
  · exact .of_raised _ _ _

end IsReadDeeper

/-- However many steps there are, what is read in them is read where more levels are left. -/
theorem isReadDeeper (distinct : Bool) (steps : Nat) : IsReadDeeper distinct steps := by
  -- Each of the three readers calls the others with one step less.
  induction steps with
  | zero =>
    refine ⟨fun _ _ => ?_, fun _ _ => ?_, fun _ _ => ?_⟩
    · unfold readValue
      exact .of_stop _ _
    · unfold readItems
      exact .of_stop _ _
    · unfold readMembers
      exact .of_stop _ _
  | succ steps ih => exact ⟨ih.value_succ, ih.items_succ, ih.members_succ⟩

/-- A text that is read where some levels are left is read alike where more of them are. -/
theorem read_of_le {levels left : Nat} (room : levels ≤ left) {distinct : Bool} {text : String}
    {value : Datum} (given : read levels distinct text = .ok value) :
    read left distinct text = .ok value := by
  rw [read_eq_ok_iff_readDocument] at given ⊢
  unfold readDocument at given ⊢
  split at given
  · cases given
  · exact ((isReadDeeper distinct _).values room _).bind (fun _ => .refl _) value given

end Themer.Json
