import Themer.Blueprint.Build
import Themer.Proofs.Disk.Overlong
import Themer.Proofs.Session.Work

/-!
The search for a blueprint by its name: the first of some paths that something is at.

A path that is too long ends the search, as it cannot be told whether something is there.
-/

namespace Themer

namespace Disk

variable {disk : Disk} {paths : List Path} {path : Path} {e : OsError}

/-- The first of some paths that something is at, or the refusal to tell of one before it. -/
def firstThere (disk : Disk) : List Path → Except OsError (Option Path)
  | [] => .ok none
  | path :: rest => match disk.isThere path with
    | .ok true => .ok (some path)
    | .ok false => disk.firstThere rest
    | .error e => .error e

/-- A search through some paths gets to one of them: nothing is at those before it. -/
def GetsTo (disk : Disk) (paths : List Path) (path : Path) : Prop :=
  ∃ before rest, paths = before ++ path :: rest ∧
    ∀ earlier ∈ before, disk.isThere earlier = .ok false

/-- A search gets to the first path, and to another one if nothing is at the first. -/
theorem getsTo_cons {first : Path} :
    disk.GetsTo (first :: paths) path ↔
      path = first ∨ disk.isThere first = .ok false ∧ disk.GetsTo paths path := by
  -- Either no path comes before the one it gets to, or the first does.
  constructor
  · rintro ⟨before, rest, split, absent⟩
    cases before with
    | nil => exact .inl (List.cons.inj split).1.symm
    | cons passed before =>
      rw [List.cons_append, List.cons.injEq] at split
      obtain ⟨rfl, split⟩ := split
      rw [List.forall_mem_cons] at absent
      exact .inr ⟨absent.1, before, rest, split, absent.2⟩
  · rintro (rfl | ⟨nothing, before, rest, rfl, absent⟩)
    · exact ⟨[], paths, rfl, by simp⟩
    · exact ⟨first :: before, rest, rfl, List.forall_mem_cons.mpr ⟨nothing, absent⟩⟩

/-- A search has no path to get to where there is none. -/
theorem not_getsTo_nil : ¬ disk.GetsTo [] path := by
  rintro ⟨before, rest, split, _⟩
  simp at split

/-- The answer where a search gets to is the one at the first path, or else it comes later. -/
theorem getsTo_cons_answer {first : Path} {answer : Except OsError Bool} :
    disk.GetsTo (first :: paths) path ∧ disk.isThere path = answer ↔
      path = first ∧ disk.isThere first = answer ∨
        disk.isThere first = .ok false ∧ disk.GetsTo paths path ∧ disk.isThere path = answer := by
  -- The answer is the same in both cases, and in the first it is that of the first path.
  rw [getsTo_cons, or_and_right, and_assoc]
  refine or_congr_left (and_congr_right ?_)
  rintro rfl
  rfl

/-- What is found is where the search gets to and something is. -/
theorem firstThere_eq_some_iff :
    disk.firstThere paths = .ok (some path) ↔
      disk.GetsTo paths path ∧ disk.isThere path = .ok true := by
  -- The search goes on only behind a path with nothing, and stops at any other answer.
  induction paths with
  | nil => simp [firstThere, not_getsTo_nil]
  | cons first rest ih =>
    rw [firstThere, getsTo_cons_answer]
    cases disk.isThere first with
    | error e => simp
    | ok answer => cases answer <;> simp [ih, eq_comm]

/-- Nothing is found where nothing is at any of the paths. -/
theorem firstThere_eq_none_iff :
    disk.firstThere paths = .ok none ↔ ∀ path ∈ paths, disk.isThere path = .ok false := by
  -- To come to its end, the search has gone on behind every path.
  induction paths with
  | nil => simp [firstThere]
  | cons first rest ih =>
    rw [firstThere, List.forall_mem_cons]
    cases disk.isThere first with
    | error e => simp
    | ok answer => cases answer <;> simp [ih]

/-- A search is refused where it gets to a path that is refused. -/
theorem firstThere_eq_error_iff :
    disk.firstThere paths = .error e ↔
      ∃ path, disk.GetsTo paths path ∧ disk.isThere path = .error e := by
  -- Here it is a refusal that it stops at, be it of the first path or of a later one.
  induction paths with
  | nil => simp [firstThere, not_getsTo_nil]
  | cons first rest ih =>
    simp only [firstThere, getsTo_cons_answer]
    cases disk.isThere first with
    | error refusal => simp
    | ok answer => cases answer <;> simp [ih]

/-- To ask whether something is at a path is refused exactly where it is too long. -/
theorem isThere_eq_error_iff :
    disk.isThere path = .error e ↔
      hasNul path = false ∧ disk.IsOverlong path ∧ e = ⟨.nameTooLong, path.text⟩ := by
  rw [← look_eq_error_iff, isThere]
  cases disk.look path <;> simp [Except.map]

end Disk

namespace Blueprint

/-- A search leaves the session alone, and a refusal cuts the work short. -/
theorem runIn_firstThere (paths : List Path) (session : Session) :
    (firstThere paths).runIn session =
      ((session.disk.firstThere paths).mapError fun e => .cutShort (.denied (.os e)),
        session) := by
  -- Nothing in the session changes from path to path, and least of all the tree.
  induction paths with
  | nil => rfl
  | cons path rest ih =>
    rw [firstThere, Work.runIn_bind_of_ok (Work.runIn_disk session), Disk.firstThere]
    cases session.disk.isThere path with
    | error e => rfl
    | ok answer => cases answer with
      | true => rfl
      | false => exact ih

/-- What is found by name is the first of its candidates that is there, or none is reported. -/
theorem runIn_find (layout : Layout) (name : String) (session : Session) :
    (find layout name).runIn session =
      (match session.disk.firstThere (candidates layout name) with
        | .ok (some path) => .ok path
        | .ok none => .error (.reported (.setup (.noBlueprint name (candidates layout name))))
        | .error e => .error (.cutShort (.denied (.os e))), session) := by
  rw [find, Work.runIn_bind, runIn_firstThere]
  cases session.disk.firstThere (candidates layout name) with
  | error e => rfl
  | ok found => cases found <;> rfl

/-- Searching for a blueprint leaves the session alone. -/
theorem observes_find (layout : Layout) (name : String) : (find layout name).Observes := by
  intro session
  rw [runIn_find]

/-- What is found by name is where the search through its candidates gets to something. -/
theorem find_eq_ok_iff {layout : Layout} {name : String} {session : Session} {path : Path} :
    ((find layout name).runIn session).1 = .ok path ↔
      session.disk.GetsTo (candidates layout name) path ∧
        session.disk.isThere path = .ok true := by
  rw [← Disk.firstThere_eq_some_iff, runIn_find]
  cases session.disk.firstThere (candidates layout name) with
  | error e => simp
  | ok found => cases found <;> simp

/-- The blueprint is reported to be missing where nothing is at any of its candidates. -/
theorem find_eq_reported_iff {layout : Layout} {name : String} {session : Session}
    {problem : Problem} :
    ((find layout name).runIn session).1 = .error (.reported problem) ↔
      problem = .setup (.noBlueprint name (candidates layout name)) ∧
        ∀ path ∈ candidates layout name, session.disk.isThere path = .ok false := by
  rw [← Disk.firstThere_eq_none_iff, runIn_find]
  cases session.disk.firstThere (candidates layout name) with
  | error e => simp
  | ok found => cases found <;> simp [eq_comm]

/-- The search is cut short where it gets to a candidate that is too long. -/
theorem find_eq_cutShort_iff {layout : Layout} {name : String} {session : Session}
    {cause : Interruption} :
    ((find layout name).runIn session).1 = .error (.cutShort cause) ↔
      ∃ path, session.disk.GetsTo (candidates layout name) path ∧ Disk.hasNul path = false ∧
        session.disk.IsOverlong path ∧ cause = .denied (.os ⟨.nameTooLong, path.text⟩) := by
  -- A missing blueprint is reported, so what cuts the search short is a path that is refused.
  have refused : ((find layout name).runIn session).1 = .error (.cutShort cause) ↔
      ∃ e, session.disk.firstThere (candidates layout name) = .error e ∧
        cause = .denied (.os e) := by
    rw [runIn_find]
    cases session.disk.firstThere (candidates layout name) with
    | error e => simp [eq_comm]
    | ok found => cases found <;> simp
  simp only [refused, Disk.firstThere_eq_error_iff, Disk.isThere_eq_error_iff]
  constructor
  · rintro ⟨e, ⟨path, gets, free, tooLong, rfl⟩, rfl⟩
    exact ⟨path, gets, free, tooLong, rfl⟩
  · rintro ⟨path, gets, free, tooLong, rfl⟩
    exact ⟨_, ⟨path, gets, free, tooLong, rfl⟩, rfl⟩

/--
Where something is known to be in a directory of blueprints, its name leads to it or in its way.

The user's own directory comes first, and what is there under the name is found there.
-/
theorem runIn_find_of_known {layout : Layout} {name : String} {session : Session} {path : Path}
    (clean : Path.IsCleanName name)
    (inOne : path = layout.ownBlueprintsDir.entry name ∨
      path = layout.sharedBlueprintsDir.entry name)
    (known : session.disk.isThere path = .ok true) :
    (find layout name).runIn session =
      (match session.disk.isThere (layout.ownBlueprintsDir.entry name) with
        | .ok true => .ok (layout.ownBlueprintsDir.entry name)
        | .ok false => .ok path
        | .error e => .error (.cutShort (.denied (.os e))), session) := by
  -- The user's own directory is searched first, and the name as a path by itself comes last.
  have paths : candidates layout name = [layout.ownBlueprintsDir.entry name,
      layout.sharedBlueprintsDir.entry name, Path.ofString name] := by
    simp only [candidates, Layout.blueprintDirs, List.map_cons, List.map_nil,
      Path.child_of_isCleanName _ clean, List.cons_append, List.nil_append]
  rw [runIn_find, paths, Disk.firstThere]
  cases first : session.disk.isThere (layout.ownBlueprintsDir.entry name) with
  | error e => rfl
  | ok answer =>
    cases answer with
    | true => rfl
    | false =>
      -- Then it is in the shared directory that something is known to be.
      obtain rfl | rfl := inOne
      · cases first.symm.trans known
      · simp only [Disk.firstThere, known]

/-- A name that is too long cuts the search short in the user's own directory. -/
theorem find_of_long {layout : Layout} {name : String} {session : Session}
    (seen : session.disk.look layout.ownBlueprintsDir = .ok (some .directory))
    (clean : Path.IsCleanName name) (down : name ≠ "..") (free : '\x00' ∉ name.toList)
    (long : Disk.nameLimit < name.utf8ByteSize) :
    ((find layout name).runIn session).1 = .error (.cutShort
      (.denied (.os ⟨.nameTooLong, (layout.ownBlueprintsDir.entry name).text⟩))) := by
  -- The first candidate is in a directory that can be seen, which is where the name is looked up.
  obtain ⟨freeAbove, _⟩ := Disk.look_eq_some_iff.mp seen
  have first := Path.child_of_isCleanName layout.ownBlueprintsDir clean
  refine find_eq_cutShort_iff.mpr ⟨layout.ownBlueprintsDir.entry name,
    Disk.getsTo_cons.mpr (.inl first.symm), ?_, Disk.isOverlong_entry seen down long, rfl⟩
  simp [Disk.hasNul_entry, freeAbove, free]

end Blueprint

end Themer
