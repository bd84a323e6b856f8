import Themer.Proofs.Disk.Listed

/-!
Paths that are too long to be looked at.

Only for these does the system refuse to say whether there is something.
-/

namespace Themer

namespace Disk

variable {disk : Disk}

/--
Whether a path is too long: as a whole, or in a name that is looked up in a directory.

A name behind one that leads nowhere is never looked up.
-/
def IsOverlong (disk : Disk) (path : Path) : Prop :=
  pathLimit ≤ path.text.utf8ByteSize ∨
    ∃ above name below place, path.parts = above ++ name :: below ∧
      disk.walk (disk.start path.anchor) above = .ok (.taken place .directory) ∧
      name ≠ ".." ∧ nameLimit < name.utf8ByteSize

/-- A name that is too long stops a walk in the directory where it is looked up. -/
theorem walk_eq_nameTooLong_iff {here : Location} {names : List String} :
    disk.walk here names = .error .nameTooLong ↔
      ∃ above name below place, names = above ++ name :: below ∧
        disk.walk here above = .ok (.taken place .directory) ∧
        name ≠ ".." ∧ nameLimit < name.utf8ByteSize := by
  constructor
  · -- The walk stops at the first name, or else behind it, where the names above are one more.
    intro refused
    induction names generalizing here with
    | nil => cases (walk_nil_eq_error_iff.mp refused).2
    | cons first rest ih =>
      cases walk_cons_eq_iff.mp refused with
      | up inside up onward =>
        obtain ⟨above, name, below, place, rfl, led, down, tooLong⟩ := ih onward
        have ledOn := walk_cons_eq_iff.mpr (.up inside up led)
        exact ⟨first :: above, name, below, place, rfl, ledOn, down, tooLong⟩
      | long inside down tooLong =>
        exact ⟨[], first, rest, here, rfl, walk_nil_eq_ok_iff.mpr ⟨_, inside, rfl⟩, down, tooLong⟩
      | down inside other short there onward =>
        obtain ⟨above, name, below, place, rfl, led, down, tooLong⟩ := ih onward
        have ledOn := walk_cons_eq_iff.mpr (.down inside other short there led)
        exact ⟨first :: above, name, below, place, rfl, ledOn, down, tooLong⟩
  · -- The names above lead to a directory, so that the walk looks the long name up there.
    rintro ⟨above, name, below, place, rfl, led, down, tooLong⟩
    rw [walk_append led]
    exact walk_cons_eq_iff.mpr (.long (entry?_of_walk led) down tooLong)

/-- A walk that does not come to its end finds nothing, unless a name is too long. -/
theorem isAbsence_of_walk {here : Location} {names : List String} {cause : OsCause}
    (refused : disk.walk here names = .error cause) (other : cause ≠ .nameTooLong) :
    isAbsence cause = true := by
  -- Every other cause of a stop is one of the two that mean an absence.
  induction names generalizing here with
  | nil =>
    rw [(walk_nil_eq_error_iff.mp refused).2]
    rfl
  | cons name rest ih =>
    cases walk_cons_eq_iff.mp refused with
    | outside => rfl
    | up _ _ onward => exact ih onward
    | long => exact absurd rfl other
    | down _ _ _ _ onward => exact ih onward
    | lost => rfl

/-- What a path leads to is refused for its length exactly where it is too long. -/
theorem spot_eq_nameTooLong_iff {path : Path} :
    disk.spot path = .error .nameTooLong ↔ disk.IsOverlong path := by
  -- The limit on the whole is tested before the walk, which has the one on each name.
  unfold spot IsOverlong start
  split
  · rename_i whole
    exact ⟨fun _ => .inl whole, fun _ => rfl⟩
  · rename_i inLimit
    rw [walk_eq_nameTooLong_iff]
    exact ⟨.inr, fun tooLong => tooLong.resolve_left inLimit⟩

/-- In a directory that can be seen, a name that is too long makes its path so. -/
theorem isOverlong_entry {directory : Path} {name : String}
    (seen : disk.look directory = .ok (some .directory)) (down : name ≠ "..")
    (long : nameLimit < name.utf8ByteSize) : disk.IsOverlong (directory.entry name) := by
  -- The directory's own path is the way to it, and the name the one that is looked up there.
  obtain ⟨_, place, leads, there⟩ := look_eq_some_iff.mp seen
  obtain ⟨_, led⟩ := spot_eq_ok_iff.mp (place?_eq_some_iff.mp leads)
  rw [spotAt, there] at led
  exact .inr ⟨directory.parts, name, [], place, rfl, led, down, long⟩

/-- To look at a path is refused exactly where it can be passed on and is too long. -/
theorem look_eq_error_iff {path : Path} {e : OsError} :
    disk.look path = .error e ↔
      hasNul path = false ∧ disk.IsOverlong path ∧ e = ⟨.nameTooLong, path.text⟩ := by
  -- To look is refused for a spot's cause, so the cases are those of the spot.
  rw [← spot_eq_nameTooLong_iff]
  unfold look
  cases hasNul path with
  | true => simp
  | false =>
    cases led : disk.spot path with
    | ok found => cases found <;> simp
    | error cause =>
      by_cases tooLong : cause = .nameTooLong
      · subst tooLong
        have asRefusal : isAbsence .nameTooLong = false := rfl
        simp only [asRefusal, Bool.false_eq_true, if_false, true_and, Except.error.injEq]
        exact eq_comm
      · -- Any other cause only means that nothing is there.
        have absent : isAbsence cause = true := by
          unfold spot at led
          split at led
          · cases led
            exact absurd rfl tooLong
          · exact isAbsence_of_walk led tooLong
        simp [absent, tooLong]

end Disk

end Themer
