import Mathlib.Data.List.Basic
import Themer.Proofs.Disk.Place

/-! What lies in a directory: the names it lists, and the places they lead to. -/

namespace Themer

namespace Disk

variable {disk : Disk} {directory : Path} {place : Location}

/-- What is listed are the names of the directory that the path leads to. -/
theorem list_eq_ok_iff {names : List String} :
    disk.list directory = .ok names ↔
      hasNul directory = false ∧ ∃ place, disk.place? directory = some place ∧
        disk.entry? place = some .directory ∧ disk.namesIn place = names := by
  -- Only where the path leads to a directory is anything listed.
  unfold list
  cases nul : hasNul directory with
  | true => simp
  | false =>
    simp only [Bool.false_eq_true, if_false, true_and]
    cases leads : disk.place? directory with
    | some place =>
      rw [place?_eq_some_iff.mp leads, spotAt]
      cases there : disk.entry? place with
      | none => simp [there]
      | some entry => cases entry <;> simp [there]
    | none =>
      obtain ⟨cause, led⟩ := spot_of_place?_eq_none leads
      simp [led]

/-- A directory that a path leads to is listed. -/
theorem list_of_place? (free : hasNul directory = false)
    (leads : disk.place? directory = some place)
    (there : disk.entry? place = some .directory) :
    disk.list directory = .ok (disk.namesIn place) :=
  list_eq_ok_iff.mpr ⟨free, place, leads, there, rfl⟩

/-- A name in a directory leads to a place right in this, if it does not lead up. -/
theorem eq_of_place?_entry {name : String} {inner : Location} (down : name ≠ "..")
    (leads : disk.place? directory = some place)
    (leadsIn : disk.place? (directory.entry name) = some inner) : inner = place ++ [name] := by
  -- The names before the last one are those of the directory, and they lead to one place only.
  obtain ⟨_, led⟩ := spot_eq_ok_iff.mp (place?_eq_some_iff.mp leads)
  obtain ⟨_, ledIn⟩ := spot_eq_ok_iff.mp (place?_eq_some_iff.mp leadsIn)
  obtain ⟨above, ledAbove, found⟩ := walk_append_singleton down ledIn
  have here : inner = above ++ [name] := by
    rw [← disk.spotAt_location inner, found, spotAt_location]
  have same : above = place := by
    rw [← disk.spotAt_location place, ← Except.ok.inj (ledAbove.symm.trans led), Spot.location]
  rw [here, same]

/-- What a name in a directory leads to lies right in this, or it is a directory further up. -/
theorem IsTree.of_place?_entry (tree : disk.IsTree)
    (leads : disk.place? directory = some place) {name : String} {inner : Location}
    (leadsIn : disk.place? (directory.entry name) = some inner) :
    inner.dropLast = place ∨ disk.entry? inner = some .directory := by
  -- Only the way up leaves the directory, and what it comes to is a directory itself.
  by_cases up : name = ".."
  · subst up
    right
    obtain ⟨_, ledIn⟩ := spot_eq_ok_iff.mp (place?_eq_some_iff.mp leadsIn)
    obtain ⟨above, found⟩ := tree.walk_append_up ledIn
    have here : above = inner := by
      rw [← disk.spotAt_location inner, found, Spot.location]
    rw [found] at ledIn
    rw [← here]
    exact entry?_of_walk ledIn
  · left
    rw [eq_of_place?_entry up leads leadsIn, List.dropLast_concat]

/-- A directory lists the names of what the tree has right below it. -/
theorem mem_namesIn {name : String} :
    name ∈ disk.namesIn place ↔ (disk.entry? (place ++ [name])).isSome := by
  -- A name is listed for an entry, and what is at a place is the first entry it has.
  have below : place ++ [name] ≠ [] := by simp
  rw [namesIn, List.mem_mergeSort, List.mem_filterMap, entry?, if_neg below,
    List.lookup_isSome_iff]
  constructor
  · rintro ⟨⟨location, entry⟩, among, last⟩
    dsimp only at last
    split at last
    · rename_i inside
      -- A place is what it lies in and its last name.
      have whole : location.dropLast ++ [name] = location :=
        List.dropLast_append_getLast? name last
      rw [inside.2] at whole
      exact ⟨(location, entry), among, by simp [whole]⟩
    · cases last
  · rintro ⟨⟨location, entry⟩, among, same⟩
    obtain rfl : place ++ [name] = location := by simpa using same
    exact ⟨_, among, by simp⟩

/-- A file that is seen in a directory is among the names that this lists. -/
theorem exists_list_of_isFile {name : String} (named : name ≠ "") (down : name ≠ "..")
    (isFile : disk.isFile (directory.entry name) = .ok true) :
    ∃ names, disk.list directory = .ok names ∧ name ∈ names := by
  -- The path to the file goes through the directory, which is therefore there to be listed.
  obtain ⟨content, executable, looked⟩ := isFile_eq_true_iff.mp isFile
  obtain ⟨free, inner, leads, there⟩ := look_eq_some_iff.mp looked
  obtain ⟨place, above, last⟩ := spot_entry named down (place?_eq_some_iff.mp leads)
  obtain rfl : inner = place ++ [name] := by
    simpa using congrArg Spot.location last
  rw [hasNul_entry, Bool.or_eq_false_iff] at free
  obtain ⟨leadsAbove, isDirectory⟩ :
      disk.place? directory = some place ∧ disk.entry? place = some .directory := by
    have led := (spot_eq_ok_iff.mp above).2
    have same := eq_spotAt_of_walk led
    exact ⟨place?_eq_some_iff.mpr (above.trans (congrArg _ same)), entry?_of_walk led⟩
  exact ⟨_, list_of_place? free.1 leadsAbove isDirectory, mem_namesIn.mpr (by simp [there])⟩

/-- A directory lists its names in order, each before those that are greater. -/
theorem pairwise_namesIn (once : (disk.namesIn place).Nodup) :
    (disk.namesIn place).Pairwise (· < ·) := by
  -- Sorting puts no name before a smaller one, and no two of the names are the same.
  have ordered : (disk.namesIn place).Pairwise fun a b => (!(b < a : Bool)) = true := by
    refine List.pairwise_mergeSort ?_ ?_ _
    · intro a b c first second
      simp only [Bool.not_eq_true', decide_eq_false_iff_not, String.not_lt] at first second ⊢
      exact String.le_trans first second
    · intro a b
      simp only [Bool.or_eq_true, Bool.not_eq_true', decide_eq_false_iff_not, String.not_lt]
      exact String.le_total a b
  refine (ordered.and once).imp fun ⟨notAfter, other⟩ => ?_
  simp only [Bool.not_eq_true', decide_eq_false_iff_not, String.not_lt] at notAfter
  exact Std.lt_of_le_of_ne notAfter other

/-- From where some names lead, other names lead on. -/
theorem walk_append {here there : Location} {entry : Entry} {names : List String}
    (led : disk.walk here names = .ok (.taken there entry)) (more : List String) :
    disk.walk here (names ++ more) = disk.walk there more := by
  -- Something is there after each of the names, so that the walk passes them all.
  induction names generalizing here with
  | nil =>
    obtain ⟨_, _, same⟩ := walk_nil_eq_ok_iff.mp led
    cases same
    rfl
  | cons name rest ih =>
    rw [List.cons_append, walk_cons_eq_iff]
    cases walk_cons_eq_iff.mp led with
    | up inside up onward => exact .up inside up (ih onward)
    | down inside other short there onward => exact .down inside other short there (ih onward)

/-- What lies in a directory is found there, unless its name or its path is too long. -/
theorem place?_entry {name : String} (down : name ≠ "..")
    (leads : disk.place? directory = some place)
    (isDirectory : disk.entry? place = some .directory)
    (there : (disk.entry? (place ++ [name])).isSome)
    (short : disk.spot (directory.entry name) ≠ .error .nameTooLong) :
    disk.place? (directory.entry name) = some (place ++ [name]) := by
  obtain ⟨entry, held⟩ := Option.isSome_iff_exists.mp there
  obtain ⟨_, led⟩ := spot_eq_ok_iff.mp (place?_eq_some_iff.mp leads)
  -- The one name that is left leads there from the directory, unless it is too long for that.
  have ahead : disk.walk place [name] = .error .nameTooLong ∨
      disk.walk place [name] = .ok (.taken (place ++ [name]) entry) := by
    simp only [walk_cons_eq_iff]
    by_cases long : nameLimit < name.utf8ByteSize
    · exact .inl (.long isDirectory down long)
    · exact .inr (.down isDirectory down (Nat.not_lt.mp long) there
        (walk_nil_eq_ok_iff.mpr ⟨_, held, rfl⟩))
  rw [spotAt, isDirectory] at led
  -- The path on from the directory is only refused for its length, which is excluded.
  have onward := walk_append led [name]
  unfold spot at short
  split at short
  · exact absurd rfl short
  · rename_i inLimit
    have onwardIs : disk.walk (disk.start directory.anchor) (directory.parts ++ [name]) =
        .ok (.taken (place ++ [name]) entry) := by
      obtain tooLong | found := ahead
      · exact absurd (onward.trans tooLong) short
      · exact onward.trans found
    rw [place?_eq_some_iff, spot_eq_ok_iff, spotAt, held]
    exact ⟨by omega, onwardIs⟩

end Disk

end Themer
