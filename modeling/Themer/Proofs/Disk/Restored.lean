import Themer.Proofs.Disk.Changed

/-! A tree in which every place has again what it had is the tree that there was. -/

namespace Themer

namespace Disk

/--
Entries of which some were overwritten, each where its place comes first.

An entry at a place seen before does not count, and is as it was.
-/
inductive Overwritten :
    List Location → List (Location × Entry) → List (Location × Entry) → Prop
  | nil {seen : List Location} : Overwritten seen [] []
  | first {seen : List Location} {place : Location} {old new : Entry}
      {before after : List (Location × Entry)} (unseen : place ∉ seen)
      (rest : Overwritten (place :: seen) before after) :
      Overwritten seen ((place, old) :: before) ((place, new) :: after)
  | hidden {seen : List Location} {place : Location} {entry : Entry}
      {before after : List (Location × Entry)} (among : place ∈ seen)
      (rest : Overwritten seen before after) :
      Overwritten seen ((place, entry) :: before) ((place, entry) :: after)

namespace Overwritten

/-- None of the entries may have been overwritten. -/
theorem refl (seen : List Location) (entries : List (Location × Entry)) :
    Overwritten seen entries entries := by
  -- Which entries are hidden depends on those before, so the places seen stay quantified over.
  induction entries generalizing seen with
  | nil => exact .nil
  | cons pair rest ih =>
    obtain ⟨place, entry⟩ := pair
    by_cases among : place ∈ seen
    · exact .hidden among (ih seen)
    · exact .first among (ih (place :: seen))

/-- One more entry may be overwritten, if its place has one. -/
theorem put {seen : List Location} {before after : List (Location × Entry)} {place : Location}
    (overwritten : Overwritten seen before after) (unseen : place ∉ seen)
    (there : (after.lookup place).isSome) (entry : Entry) :
    Overwritten seen before (Disk.put after place entry) := by
  -- The entry goes to the first of its place, and as that one is not hidden, it may change.
  induction overwritten with
  | nil => cases there
  | @first seen other old new before after unseenOther rest ih =>
    rw [Disk.put]
    by_cases here : other = place
    · subst here
      rw [if_pos rfl]
      exact .first unseenOther rest
    · -- Another place keeps its entry here, and it is no place that was seen before the one put.
      rw [if_neg here]
      refine .first unseenOther (ih ?_ ?_)
      · rw [List.mem_cons, not_or]
        exact ⟨Ne.symm here, unseen⟩
      · rwa [List.lookup_cons, beq_eq_false_iff_ne.mpr (Ne.symm here)] at there
  | @hidden seen other _ before after among rest ih =>
    have elsewhere : other ≠ place := fun here => unseen (here ▸ among)
    rw [Disk.put, if_neg elsewhere]
    refine .hidden among (ih unseen ?_)
    rwa [List.lookup_cons, beq_eq_false_iff_ne.mpr elsewhere.symm] at there

/-- Entries overwritten with what they had are the same. -/
theorem eq_of_lookup {seen : List Location} {before after : List (Location × Entry)}
    (overwritten : Overwritten seen before after)
    (same : ∀ place, place ∉ seen → after.lookup place = before.lookup place) :
    after = before := by
  -- A lookup tells of the first entry of each place only, and no other was overwritten.
  induction overwritten with
  | nil => rfl
  | @first seen other old new before after unseen rest ih =>
    -- The entry is the first of its place, so what is looked up there is what it has.
    have counts := same other unseen
    simp only [List.lookup_cons_self, Option.some.injEq] at counts
    rw [counts, ih]
    intro place unseenPlace
    rw [List.mem_cons, not_or] at unseenPlace
    simpa [List.lookup_cons, beq_eq_false_iff_ne.mpr unseenPlace.1] using
      same place unseenPlace.2
  | @hidden seen other _ before after among rest ih =>
    rw [ih]
    intro place unseenPlace
    have elsewhere : place ≠ other := fun here => unseenPlace (here ▸ among)
    simpa [List.lookup_cons, beq_eq_false_iff_ne.mpr elsewhere] using same place unseenPlace

end Overwritten

namespace Changed

variable {may : Location → Entry → Prop} {before after : Disk}

/-- Where nothing is at a new place, entries were overwritten, but none of the root, if any. -/
theorem overwritten (changed : Changed may before after)
    (old : ∀ place, (after.entry? place).isSome → (before.entry? place).isSome) :
    Overwritten [[]] before.entries after.entries := by
  -- Whatever is there at any time is there at the end, so that no step has put anything new.
  induction changed with
  | same => exact .refl [[]] before.entries
  | @put middle place entry earlier fits _ ih =>
    have set := entry?_set middle fits.below entry
    have there : (middle.entry? place).isSome :=
      earlier.isSome (old place (by rw [set, if_pos rfl]; rfl))
    refine (ih fun other held => old other ?_).put (by simpa using fits.below) ?_ entry
    · rw [set]
      split
      · rfl
      · exact held
    · rwa [Disk.entry?, if_neg fits.below] at there

/-- If every place has again what it had, the tree is the same. -/
theorem eq_of_same_entries (changed : Changed may before after)
    (same : ∀ place, after.entry? place = before.entry? place) : after = before := by
  -- What is at the places settles the entries, in which only the root need not be looked up.
  have entries : after.entries = before.entries := by
    refine (changed.overwritten fun place held => by rwa [← same place]).eq_of_lookup ?_
    intro place below
    rw [List.mem_singleton] at below
    simpa [Disk.entry?, below] using same place
  obtain ⟨workDir, rest⟩ := after
  obtain rfl : workDir = before.workDir := changed.workDir
  subst entries
  rfl

end Changed

end Disk

end Themer
