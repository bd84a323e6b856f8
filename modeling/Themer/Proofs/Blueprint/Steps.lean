import Themer.Blueprint.HeadStep
import Themer.Proofs.Blueprint.ChangedTree

/-!
The head of a blueprint over any run of steps, those that fail among them.

It shows what the last sound lines asked for, and nothing changes it once it is closed.
-/

namespace Themer

namespace HeadWork

/-- Work goes on with the head that the work before it left, unless that work failed. -/
theorem run_bind {α β : Type} (work : HeadWork α) (rest : α → HeadWork β) (head : Head) :
    (work >>= rest).run.run head =
      match work.run.run head with
      | (.ok value, next) => (rest value).run.run next
      | (.error e, next) => (.error e, next) := by
  rw [ExceptT.run_bind, StateT.run_bind]
  -- The head is passed on in both cases: failing does not take back what was changed before.
  obtain ⟨outcome, next⟩ := work.run.run head
  cases outcome <;> rfl

variable (home : Path) (disk : Disk) (head : Head) (line value : String)

/-- Settling on a format changes the head at the end only, so a failure leaves it as it was. -/
theorem run_setFormat :
    (setFormat line value).run.run head =
      match head.setFormat line value with
      | .ok next => (.ok (), next)
      | .error e => (.error e, head) := by
  unfold setFormat Head.setFormat
  cases Format.ofName? value <;> rfl

/-- Settling on a directory looks twice before it changes the head, and the looks agree. -/
theorem run_setDirectory :
    (setDirectory home disk line value).run.run head =
      match head.setDirectory home disk line value with
      | .ok next => (.ok (), next)
      | .error e => (.error e, head) := by
  simp only [setDirectory, Head.setDirectory, Disk.isThere, Disk.isDirectory]
  -- Both looks come from the same one, which decides alone.
  cases disk.look (Path.expandHome home value) with
  | error e => rfl
  | ok found =>
    cases found with
    | none => rfl
    | some entry => cases entry <;> rfl

/-- Applying a line ends as it does for the whole head, which stays as it was on a failure. -/
theorem run_apply :
    (apply home disk line).run.run head =
      match head.apply home disk line with
      | .ok (directive, next) => (.ok directive, next)
      | .error e => (.error e, head) := by
  unfold apply Head.apply
  rw [run_bind]
  -- Asking for the head changes nothing, so the test is made on the head at the start.
  change (if head.closed then _ else _ : HeadWork Directive).run.run head = _
  by_cases isClosed : head.closed = true
  · rw [if_pos isClosed, if_pos isClosed]
    rfl
  · rw [if_neg isClosed, if_neg isClosed]
    cases Directive.read? line.toList with
    | none => rfl
    | some directive =>
      -- Each kind of directive ends in a single change, or in none.
      by_cases onFormat : directive.name = Directive.formatName
      · simp only [if_pos onFormat, run_bind, run_setFormat]
        cases head.setFormat line directive.value <;> rfl
      · by_cases onDirectory : directive.name = Directive.directoryName
        · simp only [if_neg onFormat, if_pos onDirectory, run_bind, run_setDirectory]
          cases head.setDirectory home disk line directive.value <;> rfl
        · simp only [if_neg onFormat, if_neg onDirectory]
          rfl

end HeadWork

namespace Directive

/-- A sound line spells a directive. -/
theorem exists_read?_of_sound {home : Path} {disk : Disk} {line : List Char}
    (sound : fault? home disk line = none) : ∃ directive, read? line = some directive := by
  obtain ⟨directive, spelled, _⟩ := fault?_eq_none_iff.mp sound
  exact ⟨directive, spelled⟩

/-- A sound line that asks for a directory asks for one that is there. -/
theorem look_of_directory? {home : Path} {disk : Disk} {line : List Char} {path : Path}
    (sound : fault? home disk line = none) (asked : directory? home line = some path) :
    disk.look path = .ok (some .directory) := by
  obtain ⟨directive, spelled, ⟨onFormat, _⟩ | ⟨onDirectory, there⟩⟩ :=
    fault?_eq_none_iff.mp sound
  · -- A directive on the format asks for no directory.
    have apart : formatName ≠ directoryName := by decide
    simp only [directory?, spelled, onFormat, if_neg apart] at asked
    cases asked
  · simp only [directory?, spelled, if_pos onDirectory] at asked
    cases asked
    exact there

end Directive

namespace Head

/-- Where a line is taken in, what it spells is told. -/
theorem read?_of_apply {home : Path} {disk : Disk} {head next : Head} {line : String}
    {directive : Directive} (taken : head.apply home disk line = .ok (directive, next)) :
    Directive.read? line.toList = some directive := by
  unfold apply at taken
  -- A closed head takes in nothing, and neither does an open one where no directive is spelled.
  split at taken
  · cases taken
  · split at taken
    · cases taken
    · rename_i spelled
      -- Whatever is settled on, the directive itself is passed through.
      have told {outcome : Except DirectiveError Head} {own : Directive}
          (same : outcome.map (own, ·) = .ok (directive, next)) : own = directive := by
        cases outcome <;> cases same
        rfl
      split at taken
      · rw [spelled, told taken]
      · split at taken
        · rw [spelled, told taken]
        · cases taken

/-- An open head takes in a sound line, and tells what it spells. -/
theorem apply_of_sound {home : Path} {disk : Disk} {head : Head} {line : String}
    {directive : Directive} (isOpen : head.closed = false)
    (sound : Directive.fault? home disk line.toList = none)
    (spelled : Directive.read? line.toList = some directive) :
    head.apply home disk line = .ok (directive, head.settle home line.toList) := by
  have taken := apply_of_open home disk isOpen line.toList
  rw [sound, String.ofList_toList] at taken
  cases applied : head.apply home disk line with
  | error e =>
    rw [applied] at taken
    cases taken
  | ok result =>
    obtain ⟨own, next⟩ := result
    obtain rfl : own = directive :=
      Option.some.inj ((read?_of_apply applied).symm.trans spelled)
    rw [applied] at taken
    have settled : next = head.settle home line.toList := Except.ok.inj taken
    rw [settled]

/-- An open head refuses a line that is at fault, for that fault. -/
theorem apply_of_fault {home : Path} {disk : Disk} {head : Head} {line : String}
    {e : DirectiveError} (isOpen : head.closed = false)
    (fault : Directive.fault? home disk line.toList = some e) :
    head.apply home disk line = .error e := by
  have taken := apply_of_open home disk isOpen line.toList
  rw [fault, String.ofList_toList] at taken
  cases applied : head.apply home disk line with
  | error own =>
    rw [applied] at taken
    exact congrArg _ (Except.error.inj taken)
  | ok result =>
    rw [applied] at taken
    cases taken

end Head

namespace HeadStep

variable {home : Path} {head last : Head} {step : HeadStep} {outcome : Outcome}

/-- The ways a step can go: how it ends and what the head is after it. -/
inductive Goes (home : Path) (head : Head) : HeadStep → Outcome → Head → Prop
  | closed : Goes home head .close (.ok none) head.close
  | late {disk : Disk} {line : String} (isClosed : head.closed = true) :
    Goes home head (.apply disk line) (.error .closed) head
  | refused {disk : Disk} {line : String} {e : DirectiveError} (isOpen : head.closed = false)
    (fault : Directive.fault? home disk line.toList = some e) :
    Goes home head (.apply disk line) (.error e) head
  | settled {disk : Disk} {line : String} {directive : Directive} (isOpen : head.closed = false)
    (sound : Directive.fault? home disk line.toList = none)
    (spelled : Directive.read? line.toList = some directive) :
    Goes home head (.apply disk line) (.ok (some directive)) (head.settle home line.toList)

/-- A step with a line goes as the line does for the whole head. -/
theorem run_apply (home : Path) (head : Head) (disk : Disk) (line : String) :
    (HeadStep.apply disk line).run home head =
      match head.apply home disk line with
      | .ok (directive, next) => (.ok (some directive), next)
      | .error e => (.error e, head) := by
  change (HeadWork.apply home disk line >>= fun directive => pure (some directive)).run.run
    head = _
  rw [HeadWork.run_bind, HeadWork.run_apply]
  cases head.apply home disk line <;> rfl

/-- Every step goes one of these ways. -/
theorem goes (home : Path) (head : Head) (step : HeadStep) :
    Goes home head step (step.run home head).1 (step.run home head).2 := by
  cases step with
  | close => exact .closed
  | apply disk line =>
    rw [run_apply]
    -- A closed head refuses all lines; an open one only those that are at fault.
    cases isClosed : head.closed with
    | true =>
      rw [Head.apply, if_pos isClosed]
      exact .late isClosed
    | false =>
      cases fault : Directive.fault? home disk line.toList with
      | some e =>
        rw [Head.apply_of_fault isClosed fault]
        exact .refused isClosed fault
      | none =>
        obtain ⟨directive, spelled⟩ := Directive.exists_read?_of_sound fault
        rw [Head.apply_of_sound isClosed fault spelled]
        exact .settled isClosed fault spelled

/-- Nothing changes in a closed head, whichever way a step goes. -/
theorem Goes.of_closed {next : Head} (goes : Goes home head step outcome next)
    (isClosed : head.closed = true) :
    next = head ∧ (step = .close ∨ outcome = .error .closed) := by
  cases goes with
  | closed =>
    -- Closing once more is allowed, and changes nothing.
    obtain ⟨format, directory, closed⟩ := head
    obtain rfl : closed = true := isClosed
    exact ⟨rfl, .inl rfl⟩
  | late => exact ⟨rfl, .inr rfl⟩
  | refused isOpen => cases isClosed.symm.trans isOpen
  | settled isOpen => cases isClosed.symm.trans isOpen

/-- A step that fails leaves the head as it was. -/
theorem Goes.of_error {next : Head} {e : DirectiveError}
    (goes : Goes home head step (.error e) next) : next = head := by
  cases goes <;> rfl

/-- The lines that were taken in, of steps that went in some way. -/
def soundLines (told : List (HeadStep × Outcome)) : List (List Char) :=
  told.filterMap fun
    | (.apply _ line, .ok _) => some line.toList
    | _ => none

/-- The lines that later steps take in come after those of earlier ones. -/
theorem soundLines_append (told more : List (HeadStep × Outcome)) :
    soundLines (told ++ more) = soundLines told ++ soundLines more :=
  List.filterMap_append

/-- What a head shows after steps that went in some way. -/
structure Accounts (home : Path) (head : Head) (told : List (HeadStep × Outcome))
    (last : Head) : Prop where
  /-- The format is the one that the last sound line on it asked for. -/
  format : last.format =
    ((soundLines told).filterMap Directive.format?).getLast?.getD head.format
  /-- The directory is the one that the last sound line on it asked for. -/
  directory : last.directory =
    ((soundLines told).filterMap (Directive.directory? home)).getLast?.getD head.directory
  /-- The directory was there when a line asked for it, or no line did. -/
  wasThere : last.directory = head.directory ∨ ∃ disk line directive,
    (.apply disk line, .ok (some directive)) ∈ told ∧
      Directive.directory? home line.toList = some last.directory ∧
      disk.look last.directory = .ok (some .directory)
  /-- The head is closed from the first step on that closes it. -/
  closed : last.closed = true ↔ head.closed = true ∨ .close ∈ told.map Prod.fst

/-- Before any step a head shows what it starts from. -/
theorem Accounts.nil (home : Path) (head : Head) : Accounts home head [] head where
  format := rfl
  directory := rfl
  wasThere := .inl rfl
  closed := by simp

/-- What the last of some lines asks for is what counts, if later ones ask for nothing. -/
theorem getLast?_filterMap_append {α β : Type} (f : α → Option β) (earlier later : List α)
    (other : β) :
    ((earlier ++ later).filterMap f).getLast?.getD other =
      (later.filterMap f).getLast?.getD ((earlier.filterMap f).getLast?.getD other) := by
  rw [List.filterMap_append, List.getLast?_append, Option.getD_or]

/-- What a head shows after some steps is where the steps after them start from. -/
theorem Accounts.append {told more : List (HeadStep × Outcome)} {next : Head}
    (first : Accounts home head told next) (rest : Accounts home next more last) :
    Accounts home head (told ++ more) last where
  format := by
    rw [rest.format, first.format, soundLines_append, getLast?_filterMap_append]
  directory := by
    rw [rest.directory, first.directory, soundLines_append, getLast?_filterMap_append]
  wasThere := by
    obtain same | ⟨disk, line, directive, took, there⟩ := rest.wasThere
    · -- No later line asked for a directory, so it is still the one from before.
      rw [same]
      refine first.wasThere.imp_right ?_
      rintro ⟨disk, line, directive, took, there⟩
      exact ⟨disk, line, directive, List.mem_append_left _ took, there⟩
    · exact .inr ⟨disk, line, directive, List.mem_append_right _ took, there⟩
  closed := by
    rw [rest.closed, first.closed, List.map_append, List.mem_append, or_assoc]

/-- A step accounts for what the head shows after it, whichever way it goes. -/
theorem Goes.accounts {next : Head} (goes : Goes home head step outcome next) :
    Accounts home head [(step, outcome)] next := by
  cases goes with
  | closed => exact ⟨rfl, rfl, .inl rfl, by simp [Head.close]⟩
  | late => exact ⟨rfl, rfl, .inl rfl, by simp⟩
  | refused => exact ⟨rfl, rfl, .inl rfl, by simp⟩
  | settled isOpen sound spelled =>
    rename_i disk line directive
    -- Only a sound line says anything, and on a setting that it is not on it says nothing.
    refine ⟨?_, ?_, ?_, by simp⟩
    · change (Directive.format? line.toList).getD head.format = _
      cases asked : Directive.format? line.toList <;> simp [soundLines, asked]
    · change (Directive.directory? home line.toList).getD head.directory = _
      cases asked : Directive.directory? home line.toList <;> simp [soundLines, asked]
    · cases asked : Directive.directory? home line.toList with
      | none =>
        left
        rw [Head.settle, asked]
        rfl
      | some path =>
        have settled : (head.settle home line.toList).directory = path := by
          rw [Head.settle, asked]
          rfl
        rw [settled]
        exact .inr ⟨disk, line, directive, List.mem_singleton_self _, asked,
          Directive.look_of_directory? sound asked⟩

/-- Of some steps the first is taken, and then the rest from the head it leaves. -/
theorem takeAll_cons (home : Path) (head : Head) (step : HeadStep) (rest : List HeadStep) :
    (takeAll home (step :: rest)).run head =
      let first := step.run home head
      let others := (takeAll home rest).run first.2
      ((step, first.1) :: others.1, others.2) := by
  rw [takeAll, List.mapM_cons, StateT.run_bind]
  rfl

/-- A step after others is taken from the head they leave. -/
theorem takeAll_concat (home : Path) (head : Head) (steps : List HeadStep) (step : HeadStep) :
    (takeAll home (steps ++ [step])).run head =
      let earlier := (takeAll home steps).run head
      let last := step.run home earlier.2
      (earlier.1 ++ [(step, last.1)], last.2) := by
  rw [takeAll, List.mapM_append, StateT.run_bind]
  rfl

/-- What a head shows after any run of steps is accounted for by how they went. -/
theorem accounts_takeAll (home : Path) (head : Head) (steps : List HeadStep) :
    let ran := (takeAll home steps).run head
    Accounts home head ran.1 ran.2 := by
  -- Each step starts from the head before it, so that head stays quantified over.
  induction steps generalizing head with
  | nil => exact .nil home head
  | cons step rest ih =>
    rw [takeAll_cons]
    exact (goes home head step).accounts.append (ih _)

/-- All steps are taken, in their order. -/
theorem map_fst_takeAll (home : Path) (head : Head) (steps : List HeadStep) :
    ((takeAll home steps).run head).1.map Prod.fst = steps := by
  -- A step is told of even where it fails, so none is left out.
  induction steps generalizing head with
  | nil => rfl
  | cons step rest ih =>
    rw [takeAll_cons, List.map_cons, ih]

/-- Any run of steps from a closed head leaves it as it is, and refuses all its lines. -/
theorem takeAll_of_closed (home : Path) {head : Head} (isClosed : head.closed = true)
    (steps : List HeadStep) :
    let ran := (takeAll home steps).run head
    ran.2 = head ∧ ∀ disk line outcome, (.apply disk line, outcome) ∈ ran.1 →
      outcome = .error .closed := by
  -- The head is the same after each step, so nothing has to be generalized.
  induction steps with
  | nil => exact ⟨rfl, fun _ _ _ took => nomatch took⟩
  | cons step rest ih =>
    obtain ⟨same, refused⟩ := (goes home head step).of_closed isClosed
    rw [takeAll_cons]
    simp only [same]
    refine ⟨ih.1, fun disk line outcome took => ?_⟩
    obtain first | later := List.mem_cons.mp took
    · cases first
      exact refused.resolve_left (by simp)
    · exact ih.2 disk line outcome later

/-- A line is taken in by an open head alone, if it asks for a format or a directory there is. -/
theorem run_apply_eq_ok_iff {home : Path} {head : Head} {disk : Disk} {line : String}
    {directive : Directive} :
    ((HeadStep.apply disk line).run home head).1 = .ok (some directive) ↔
      head.closed = false ∧ Directive.read? line.toList = some directive ∧
        (directive.name = Directive.formatName ∧ (Format.ofName? directive.value).isSome ∨
          directive.name = Directive.directoryName ∧
            disk.look (Path.expandHome home directive.value) = .ok (some .directory)) := by
  have goes := goes home head (.apply disk line)
  constructor
  · intro took
    -- Only one of the ways ends with a directive.
    generalize ((HeadStep.apply disk line).run home head).2 = next at goes
    rw [took] at goes
    cases goes with
    | settled isOpen sound spelled =>
      obtain ⟨own, same, asked⟩ := Directive.fault?_eq_none_iff.mp sound
      cases spelled.symm.trans same
      exact ⟨isOpen, spelled, asked⟩
  · rintro ⟨isOpen, spelled, asked⟩
    -- Of the ways a step can go, the others are for closed heads and for faults.
    have sound := Directive.fault?_eq_none_iff.mpr ⟨directive, spelled, asked⟩
    generalize (HeadStep.apply disk line).run home head = ran at goes
    obtain ⟨outcome, next⟩ := ran
    cases goes with
    | late isClosed => cases isClosed.symm.trans isOpen
    | refused _ fault => cases sound.symm.trans fault
    | settled _ _ same => cases same.symm.trans spelled; rfl

end HeadStep

/--
A head is settled by the sound lines of any run of steps, until one of them closes it.

A step that fails leaves it as it was, whichever failure that is, and so does every step once the
head is closed. Each setting is the one that the last sound line on it asked for, and the directory
was there then.
-/
theorem head_settled_by_steps (home : Path) (start : Head) (steps : List HeadStep) :
    let ran := (HeadStep.takeAll home steps).run start
    let told := ran.1
    let last := ran.2
    told.map Prod.fst = steps ∧
      HeadStep.Accounts home start told last ∧
      (∀ disk line directive,
        ((HeadStep.apply disk line).run home last).1 = .ok (some directive) ↔
          last.closed = false ∧ Directive.read? line.toList = some directive ∧
            (directive.name = Directive.formatName ∧ (Format.ofName? directive.value).isSome ∨
              directive.name = Directive.directoryName ∧
                disk.look (Path.expandHome home directive.value) = .ok (some .directory))) ∧
      (∀ step : HeadStep, (HeadStep.takeAll home (steps ++ [step])).run start =
        (told ++ [(step, (step.run home last).1)], (step.run home last).2)) ∧
      (∀ (step : HeadStep) e, (step.run home last).1 = .error e → (step.run home last).2 = last) ∧
      (last.closed = true → ∀ more,
        let later := (HeadStep.takeAll home more).run last
        later.2 = last ∧ ∀ disk line outcome, (.apply disk line, outcome) ∈ later.1 →
          outcome = .error .closed) := by
  intro ran told last
  refine ⟨HeadStep.map_fst_takeAll home start steps, HeadStep.accounts_takeAll home start steps,
    fun _ _ _ => HeadStep.run_apply_eq_ok_iff, HeadStep.takeAll_concat home start steps, ?_,
    fun isClosed more => HeadStep.takeAll_of_closed home isClosed more⟩
  intro step e failed
  have goes := HeadStep.goes home last step
  rw [failed] at goes
  exact goes.of_error

/-- A head keeps what two sound lines settle, whatever the lines between and after them ask for. -/
theorem head_settled_by_steps_closed :
    let home := Path.ofString "home"
    let start : Head := ⟨.hashed, Path.ofString "usual", false⟩
    let disk : Disk := ⟨[], [(["home"], .directory), (["home", "out"], .directory),
      (["home", "ink"], .file [] false)]⟩
    let line (text : String) : HeadStep := .apply disk text
    let steps : List HeadStep := [line "%color-format 6h", line "%output-directory ~/out",
      line "%output-directory ~/ink", line "%color-format rgb", line "%colour-format #6h",
      .close, line "%color-format #6h"]
    let ran := (HeadStep.takeAll home steps).run start
    ran.2 = ⟨.bare, Path.ofString "home/out", true⟩ ∧
      ran.1.map (fun told => told.2.isOk) = [true, true, false, false, false, true, false] ∧
      ((line "%color-format rgb").run home start).2 = start ∧
      ∀ more, ((HeadStep.takeAll home more).run ran.2).2 = ran.2 := by
  intro home start disk line steps ran
  have left : ran.2 = ⟨.bare, Path.ofString "home/out", true⟩ := by decide +kernel
  have failed : ((line "%color-format rgb").run home start).1 =
      .error (.unknownFormat "rgb" "%color-format rgb") := by decide +kernel
  obtain ⟨_, _, _, _, kept, _⟩ := head_settled_by_steps home start []
  obtain ⟨_, _, _, _, _, forever⟩ := head_settled_by_steps home start steps
  exact ⟨left, by decide +kernel, kept _ _ failed,
    fun more => (forever (by rw [left]) more).1⟩

end Themer
