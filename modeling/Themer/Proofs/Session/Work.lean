import Themer.Proofs.Outcome
import Themer.Session

/-! Work done in a session: how each step of it ends, and what the session is after it. -/

namespace Themer

namespace Work

variable {α β : Type}

/-- How some work ends that is done in a session, and the session after it. -/
def runIn (work : Work α) (session : Session) : Except (Failure Problem) α × Session :=
  work.run.run session

/-- Work goes on in the session that its first part leaves, unless that part fails. -/
theorem runIn_bind (work : Work α) (next : α → Work β) (session : Session) :
    (work >>= next).runIn session =
      match work.runIn session with
      | (.ok value, after) => (next value).runIn after
      | (.error failure, after) => (.error failure, after) := by
  -- Running the whole goes on from the end of the first part, and that is one of two.
  change (ExceptT.bindCont next (work.runIn session).1).run (work.runIn session).2 = _
  obtain ⟨ended, after⟩ := work.runIn session
  cases ended <;> rfl

/-- Work goes on with the value of its first part. -/
theorem runIn_bind_of_ok {work : Work α} {session after : Session} {value : α}
    (done : work.runIn session = (.ok value, after)) (next : α → Work β) :
    (work >>= next).runIn session = (next value).runIn after := by
  rw [runIn_bind, done]

/-- Work ends where its first part fails. -/
theorem runIn_bind_of_error {work : Work α} {session after : Session} {failure : Failure Problem}
    (failed : work.runIn session = (.error failure, after)) (next : α → Work β) :
    (work >>= next).runIn session = (.error failure, after) := by
  rw [runIn_bind, failed]

/-- A value at hand leaves the session alone. -/
@[simp] theorem runIn_pure (value : α) (session : Session) :
    (pure value : Work α).runIn session = (.ok value, session) := rfl

/-- A failure at hand leaves the session alone. -/
@[simp] theorem runIn_throw (failure : Failure Problem) (session : Session) :
    (throw failure : Work α).runIn session = (.error failure, session) := rfl

/-- A function of what some work ends with leaves the session to the work. -/
theorem runIn_map (f : α → β) (work : Work α) (session : Session) :
    (f <$> work).runIn session =
      ((work.runIn session).1.map f, (work.runIn session).2) := by
  -- To apply a function is to go on with a value at hand.
  rw [← bind_pure_comp, runIn_bind]
  obtain ⟨ended, after⟩ := work.runIn session
  cases ended <;> rfl

/-- Work that fails is followed by what handles its failure, in the session it leaves. -/
theorem runIn_tryCatch (work : Work α) (handle : Failure Problem → Work α) (session : Session) :
    (tryCatch work handle).runIn session =
      match work.runIn session with
      | (.ok value, after) => (.ok value, after)
      | (.error failure, after) => (handle failure).runIn after := by
  unfold runIn ExceptT.run StateT.run
  -- As with a bind, the whole goes on from the end of the work, and that is one of two.
  simp only [tryCatch, tryCatchThe, MonadExceptOf.tryCatch, ExceptT.tryCatch, ExceptT.mk, bind,
    StateT.bind]
  cases work session with
  | mk ended after => cases ended <;> rfl

/-- The session itself as a value. -/
@[simp] theorem runIn_get (session : Session) :
    (get : Work Session).runIn session = (.ok session, session) := rfl

/-- A session put in the place of the one there was. -/
@[simp] theorem runIn_set (session later : Session) :
    (set later : Work PUnit).runIn session = (.ok ⟨⟩, later) := rfl

/-- The disk of the session as a value. -/
@[simp] theorem runIn_disk (session : Session) :
    disk.runIn session = (.ok session.disk, session) := rfl

/-- A disk put in the place of the one there was. -/
@[simp] theorem runIn_setDisk (later : Disk) (session : Session) :
    (setDisk later).runIn session = (.ok ⟨⟩, { session with disk := later }) := rfl

/-- What is said comes after all that was said before. -/
@[simp] theorem runIn_tell (severity : Severity) (text : String) (session : Session) :
    (tell severity text).runIn session =
      (.ok ⟨⟩, { session with notices := session.notices ++ [⟨severity, text⟩] }) := rfl

/-- An outcome at hand leaves the session alone. -/
@[simp] theorem runIn_ofExcept (outcome : Except (Failure Problem) α) (session : Session) :
    (ofExcept outcome).runIn session = (outcome, session) := by
  cases outcome <;> rfl

/-- An access to the disk leaves the session alone, and its refusal is a problem or cuts short. -/
@[simp] theorem runIn_grantedOr (problem : OsError → Problem) (access : Except Denial α)
    (session : Session) :
    (grantedOr problem access).runIn session =
      (match access with
        | .ok value => .ok value
        | .error (.os e) => .error (.reported (problem e))
        | .error other => .error (.cutShort (.denied other)), session) := by
  cases access with
  | ok value => rfl
  | error denial => cases denial <;> rfl

/-- Work that ended with a value did each of its parts to the end. -/
theorem ok_of_bind {work : Work α} {next : α → Work β} {session after : Session} {value : β}
    (ended : (work >>= next).runIn session = (.ok value, after)) :
    ∃ first between, work.runIn session = (.ok first, between) ∧
      (next first).runIn between = (.ok value, after) := by
  -- Had the first part failed, the whole would have failed with it.
  rw [runIn_bind] at ended
  cases ran : work.runIn session with
  | mk outcome between =>
    rw [ran] at ended
    cases outcome with
    | error failure => cases ended
    | ok first => exact ⟨first, between, rfl, ended⟩

/-- Work that failed did so in its first part, or in the second after the first was done. -/
theorem error_of_bind {work : Work α} {next : α → Work β} {session after : Session}
    {failure : Failure Problem}
    (ended : (work >>= next).runIn session = (.error failure, after)) :
    work.runIn session = (.error failure, after) ∨
      ∃ first between, work.runIn session = (.ok first, between) ∧
        (next first).runIn between = (.error failure, after) := by
  rw [runIn_bind] at ended
  cases ran : work.runIn session with
  | mk outcome between =>
    rw [ran] at ended
    cases outcome with
    | error other =>
      -- The failure of the first part is that of the whole, and so is the session.
      left
      cases ended
      rfl
    | ok first => exact .inr ⟨first, between, rfl, ended⟩

/-- Work that never ends with a problem to report, though it may be cut short. -/
def NeverReports (work : Work α) : Prop :=
  ∀ session problem after, work.runIn session ≠ (.error (.reported problem), after)

/-- A value at hand is no problem. -/
theorem neverReports_pure (value : α) : (pure value : Work α).NeverReports := by
  intro session problem after ended
  cases ended

/-- To be cut short is no problem to report. -/
theorem neverReports_cutShort (cause : Interruption) :
    (cutShort cause : Work α).NeverReports := by
  intro session problem after ended
  cases ended

/-- To say something is no problem. -/
theorem neverReports_tell (severity : Severity) (text : String) :
    (tell severity text).NeverReports := by
  intro session problem after ended
  cases ended

/-- The disk as it is is no problem. -/
theorem neverReports_disk : disk.NeverReports := by
  intro session problem after ended
  cases ended

/-- A refusal of the disk that nobody reports is no problem. -/
theorem neverReports_granted (access : Except Denial α) : (granted access).NeverReports := by
  cases access with
  | ok value => exact neverReports_pure value
  | error denial => exact neverReports_cutShort _

/-- A problem of work whose second part reports nothing is one of the first part. -/
theorem reported_of_bind {work : Work α} {next : α → Work β} {session after : Session}
    {problem : Problem} (later : ∀ value, (next value).NeverReports)
    (ended : (work >>= next).runIn session = (.error (.reported problem), after)) :
    work.runIn session = (.error (.reported problem), after) := by
  -- The second part has no problem to report, so it was not this one that failed.
  obtain first | ⟨value, between, _, second⟩ := error_of_bind ended
  · exact first
  · exact absurd second (later value between problem after)

/-- Work of two parts that report nothing reports nothing. -/
theorem NeverReports.bind {work : Work α} {next : α → Work β} (first : work.NeverReports)
    (later : ∀ value, (next value).NeverReports) : (work >>= next).NeverReports :=
  fun session problem after ended =>
    first session problem after (reported_of_bind later ended)

/-- Work that leaves the session as it is, however it ends. -/
def Observes (work : Work α) : Prop :=
  ∀ session, (work.runIn session).2 = session

/-- A value at hand leaves the session alone. -/
theorem observes_pure (value : α) : (pure value : Work α).Observes := fun _ => rfl

/-- An outcome at hand leaves the session alone. -/
theorem observes_ofExcept (outcome : Except (Failure Problem) α) :
    (ofExcept outcome).Observes := by
  intro session
  rw [runIn_ofExcept]

/-- An access whose refusal is reported leaves the session alone. -/
theorem observes_grantedOr (problem : OsError → Problem) (access : Except Denial α) :
    (grantedOr problem access).Observes := by
  intro session
  rw [runIn_grantedOr]

/-- What an access reports is its own refusal, and the session is left alone. -/
theorem reported_of_grantedOr {problem : OsError → Problem} {access : Except Denial α}
    {session after : Session} {reported : Problem}
    (ended : (grantedOr problem access).runIn session = (.error (.reported reported), after)) :
    after = session ∧ ∃ e, reported = problem e := by
  -- Of the denials, only the system's is reported.
  rw [runIn_grantedOr] at ended
  cases access with
  | ok value => cases ended
  | error denial =>
    cases denial with
    | os e =>
      cases ended
      exact ⟨rfl, e, rfl⟩
    | nulByte | tooDeep => cases ended

/-- Work of two parts that leave the session alone does so as well. -/
theorem Observes.bind {work : Work α} {next : α → Work β} (first : work.Observes)
    (later : ∀ value, (next value).Observes) : (work >>= next).Observes := by
  -- The second part starts from the session that the first leaves, which is the one there was.
  intro session
  have here := first session
  rw [runIn_bind]
  cases ran : work.runIn session with
  | mk outcome between =>
    rw [ran] at here
    obtain rfl : between = session := here
    cases outcome with
    | ok value => exact later value between
    | error failure => rfl

end Work

end Themer
