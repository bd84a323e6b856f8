import Themer.Proofs.Disk.Tree

/-! The places that paths lead to, and reading and writing as they depend on these alone. -/

namespace Themer

/-- The place of a spot, taken or free. -/
def Spot.location : Spot → Location
  | .taken location _ | .free location => location

/-- What reading gives; a device has nothing to read, and a directory is not read. -/
def Entry.content? : Entry → Option Text.Bytes
  | .file content _ => some content
  | .device => some []
  | .directory => none

namespace Disk

/-- The place that a path leads to, if it leads anywhere. -/
def place? (disk : Disk) (path : Path) : Option Location :=
  (disk.spot path).toOption.map Spot.location

/-- Whether the file at a place may be run; one that is not there yet may not. -/
def isExecutableAt (disk : Disk) (place : Location) : Bool :=
  match disk.entry? place with
  | some (.file _ executable) => executable
  | _ => false

/-- What is at a place once some bytes were written there; a device takes them in. -/
def entryWith (disk : Disk) (place : Location) (content : Text.Bytes) : Entry :=
  match disk.entry? place with
  | some .device => .device
  | _ => .file content (disk.isExecutableAt place)

/-- The tree after some bytes were written to what is at a place, unless it is a directory. -/
def writeAt? (disk : Disk) (place : Location) (content : Text.Bytes) : Option Disk :=
  match disk.entry? place with
  | some .directory => none
  | some .device => some disk
  | _ => some (disk.set place (.file content (disk.isExecutableAt place)))

/-- The spot at a place is the spot of that place. -/
@[simp] theorem spotAt_location (disk : Disk) (place : Location) :
    (disk.spotAt place).location = place := by
  unfold spotAt
  split <;> rfl

/-- What names lead to is what the tree has at the place they lead to. -/
theorem eq_spotAt_of_walk {disk : Disk} {here : Location} {names : List String} {found : Spot}
    (led : disk.walk here names = .ok found) : found = disk.spotAt found.location := by
  -- Each name moves the place, and what is found is looked up at the last one.
  induction names generalizing here with
  | nil =>
    obtain ⟨entry, there, rfl⟩ := walk_nil_eq_ok_iff.mp led
    simp [spotAt, Spot.location, there]
  | cons name rest ih =>
    cases walk_cons_eq_iff.mp led with
    | up _ _ onward => exact ih onward
    | down _ _ _ _ onward => exact ih onward
    | free _ _ _ nothing => simp [spotAt, Spot.location, nothing]

/-- A place that is free lies in a directory. -/
theorem inside_of_walk {disk : Disk} {here : Location} {names : List String} {place : Location}
    (led : disk.walk here names = .ok (.free place)) :
    disk.entry? place.dropLast = some .directory := by
  -- The walk comes to a free place only by the last name, from a directory it stands in.
  induction names generalizing here with
  | nil =>
    obtain ⟨_, _, found⟩ := walk_nil_eq_ok_iff.mp led
    cases found
  | cons name rest ih =>
    cases walk_cons_eq_iff.mp led with
    | up _ _ onward => exact ih onward
    | down _ _ _ _ onward => exact ih onward
    | free inside => simpa using inside

/-- What names lead to is there. -/
theorem entry?_of_walk {disk : Disk} {here : Location} {names : List String} {place : Location}
    {entry : Entry} (led : disk.walk here names = .ok (.taken place entry)) :
    disk.entry? place = some entry := by
  -- The spot is the one at its place, and this one is taken.
  have same : Spot.taken place entry = disk.spotAt place := eq_spotAt_of_walk led
  unfold spotAt at same
  split at same <;> cases same
  assumption

/-- A path leads to a place where its spot is the one at that place. -/
theorem place?_eq_some_iff {disk : Disk} {path : Path} {place : Location} :
    disk.place? path = some place ↔ disk.spot path = .ok (disk.spotAt place) := by
  -- A spot says both what is at a place and which place it is, and either settles the other.
  constructor
  · intro leads
    rw [place?] at leads
    cases led : disk.spot path with
    | error cause => simp [led, Except.toOption] at leads
    | ok found =>
      obtain rfl : found.location = place := by simpa [led, Except.toOption] using leads
      rw [← eq_spotAt_of_walk (spot_eq_ok_iff.mp led).2]
  · intro led
    simp [place?, led, Except.toOption]

/-- A path that leads to a place with nothing leads into a directory. -/
theorem inside_of_place? {disk : Disk} {path : Path} {place : Location}
    (leads : disk.place? path = some place) (nothing : disk.entry? place = none) :
    disk.entry? place.dropLast = some .directory := by
  obtain ⟨_, led⟩ := spot_eq_ok_iff.mp (place?_eq_some_iff.mp leads)
  rw [spotAt, nothing] at led
  exact inside_of_walk led

/-- A path without a place is refused. -/
theorem spot_of_place?_eq_none {disk : Disk} {path : Path} (nowhere : disk.place? path = none) :
    ∃ cause, disk.spot path = .error cause := by
  cases led : disk.spot path with
  | ok found => simp [place?, led, Except.toOption] at nowhere
  | error cause => exact ⟨cause, rfl⟩

/-- Looking at a path that leads to a place gives what is at that place. -/
theorem look_of_place? {disk : Disk} {path : Path} {place : Location}
    (free : hasNul path = false) (leads : disk.place? path = some place) :
    disk.look path = .ok (disk.entry? place) := by
  simp only [look, free, Bool.false_eq_true, if_false, place?_eq_some_iff.mp leads, spotAt]
  cases disk.entry? place <;> rfl

/-- Something is seen at a path only where that leads to a place that has it. -/
theorem look_eq_some_iff {disk : Disk} {path : Path} {entry : Entry} :
    disk.look path = .ok (some entry) ↔
      hasNul path = false ∧ ∃ place, disk.place? path = some place ∧
        disk.entry? place = some entry := by
  constructor
  · intro seen
    cases nul : hasNul path with
    | true => simp [look, nul] at seen
    | false =>
      cases leads : disk.place? path with
      | some place =>
        rw [look_of_place? nul leads] at seen
        exact ⟨rfl, place, rfl, Except.ok.inj seen⟩
      | none =>
        -- A path that leads nowhere is refused, or nothing is seen there.
        obtain ⟨cause, led⟩ := spot_of_place?_eq_none leads
        simp only [look, nul, led, Bool.false_eq_true, if_false] at seen
        split at seen <;> cases seen
  · rintro ⟨free, place, leads, there⟩
    rw [look_of_place? free leads, there]

/-- The system says that there is something at a path where it is seen there. -/
theorem isThere_eq_true_iff {disk : Disk} {path : Path} :
    disk.isThere path = .ok true ↔ ∃ entry, disk.look path = .ok (some entry) := by
  unfold isThere
  cases disk.look path with
  | error e => simp [Except.map]
  | ok held => cases held <;> simp [Except.map]

/-- The system says that a file is at a path where one is seen there. -/
theorem isFile_eq_true_iff {disk : Disk} {path : Path} :
    disk.isFile path = .ok true ↔
      ∃ content executable, disk.look path = .ok (some (.file content executable)) := by
  -- Of all that a look can give, only a file is one.
  unfold isFile
  cases disk.look path with
  | error e => simp [Except.map]
  | ok held =>
    match held with
    | some (.file content executable) => simp [Except.map]
    | none | some .directory | some .device => simp [Except.map]

/-- Where a file is, there is something. -/
theorem isThere_of_isFile {disk : Disk} {path : Path} (isFile : disk.isFile path = .ok true) :
    disk.isThere path = .ok true := by
  obtain ⟨content, executable, looked⟩ := isFile_eq_true_iff.mp isFile
  exact isThere_eq_true_iff.mpr ⟨_, looked⟩

/-- Reading gives the bytes of what is at the place that the path leads to. -/
theorem readFile_eq_ok_iff {disk : Disk} {path : Path} {content : Text.Bytes} :
    disk.readFile path = .ok content ↔
      hasNul path = false ∧ ∃ place, disk.place? path = some place ∧
        (disk.entry? place).bind Entry.content? = some content := by
  -- Where the path has a place, what is there decides, and where it has none it is refused.
  unfold readFile
  cases nul : hasNul path with
  | true => simp
  | false =>
    simp only [Bool.false_eq_true, if_false, true_and]
    cases leads : disk.place? path with
    | some place =>
      rw [place?_eq_some_iff.mp leads, spotAt]
      cases there : disk.entry? place with
      | none => simp [there]
      | some entry => cases entry <;> simp [there, Entry.content?]
    | none =>
      obtain ⟨cause, led⟩ := spot_of_place?_eq_none leads
      simp [led]

/-- Writing puts the bytes at the place that the path leads to. -/
theorem writeFile_eq_ok_iff {disk after : Disk} {path : Path} {content : Text.Bytes} :
    disk.writeFile path content = .ok after ↔
      hasNul path = false ∧ ∃ place, disk.place? path = some place ∧
        disk.writeAt? place content = some after := by
  -- As for reading, but a free place will do as well.
  unfold writeFile writeAt? isExecutableAt
  cases nul : hasNul path with
  | true => simp
  | false =>
    simp only [Bool.false_eq_true, if_false, true_and]
    cases leads : disk.place? path with
    | some place =>
      rw [place?_eq_some_iff.mp leads, spotAt]
      cases there : disk.entry? place with
      | none => simp [there]
      | some entry => cases entry <;> simp [there]
    | none =>
      obtain ⟨cause, led⟩ := spot_of_place?_eq_none leads
      simp [led]

/-- A file can be written where a path leads to anything but a directory. -/
theorem exists_writeFile_iff {disk : Disk} {path : Path} {content : Text.Bytes} :
    (∃ after, disk.writeFile path content = .ok after) ↔
      hasNul path = false ∧ ∃ place, disk.place? path = some place ∧
        disk.entry? place ≠ some .directory := by
  -- Only a directory takes no bytes.
  have takes (place : Location) :
      (∃ after, disk.writeAt? place content = some after) ↔
        disk.entry? place ≠ some .directory := by
    unfold writeAt?
    cases disk.entry? place with
    | none => simp
    | some entry => cases entry <;> simp
  simp only [writeFile_eq_ok_iff, ← takes]
  constructor
  · rintro ⟨after, free, place, leads, written⟩
    exact ⟨free, place, leads, after, written⟩
  · rintro ⟨free, place, leads, after, written⟩
    exact ⟨after, free, place, leads, written⟩

end Disk

end Themer
