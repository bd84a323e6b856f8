import Themer.Failure

/-!
Outcomes that are a value or a failure, and what is known of both.

One statement covers the two ways a reading ends, and goes through each step of it.
-/

namespace Themer

/-- An outcome is fine where it has a value. -/
theorem isOk_iff {ε α : Type} {outcome : Except ε α} :
    outcome.isOk = true ↔ ∃ value, outcome = .ok value := by
  cases outcome <;> simp [Except.isOk, Except.toBool]

/-- An outcome that has a value left has ended with it. -/
theorem ok_of_toOption {ε α : Type} {outcome : Except ε α} {value : α}
    (found : outcome.toOption = some value) : outcome = .ok value := by
  cases outcome with
  | error e => cases found
  | ok other => rw [Option.some.inj found]

/-- An outcome of which something is left that holds of its value has ended with such a value. -/
theorem exists_ok_of_map_toOption {ε α β : Type} {outcome : Except ε α} {f : α → β} {value : β}
    (found : outcome.toOption.map f = some value) : ∃ own, outcome = .ok own ∧ f own = value := by
  cases outcome with
  | error e => cases found
  | ok own => exact ⟨own, rfl, Option.some.inj found⟩

/-- Two steps end with a value where the first has one, and the second ends with it from there. -/
theorem bind_eq_ok_iff {ε α β : Type} {outcome : Except ε α} {next : α → Except ε β} {value : β} :
    outcome >>= next = .ok value ↔ ∃ first, outcome = .ok first ∧ next first = .ok value := by
  cases outcome <;> simp [bind, Except.bind]

/-- To see a failure as part of something greater changes no value. -/
theorem mapError_eq_ok_iff {ε δ α : Type} {outcome : Except ε α} {f : ε → δ} {value : α} :
    outcome.mapError f = .ok value ↔ outcome = .ok value := by
  cases outcome with
  | error e => exact ⟨nofun, nofun⟩
  | ok own =>
    change Except.ok own = .ok value ↔ _
    rw [Except.ok.injEq, Except.ok.injEq]

/-- What is reported as part of something greater was reported before that. -/
theorem reported_of_mapError {ε δ α : Type} {outcome : Except (Failure ε) α} {f : ε → δ}
    {problem : δ} (ended : outcome.mapError (·.map f) = .error (.reported problem)) :
    ∃ own, outcome = .error (.reported own) ∧ problem = f own := by
  -- An interruption stays what it is, so it does not become a report.
  cases outcome with
  | ok value => cases ended
  | error failure =>
    cases failure with
    | cutShort cause => cases ended
    | reported own =>
      cases ended
      exact ⟨own, rfl, rfl⟩

/-- What cuts something greater short has cut short the part that failed. -/
theorem cutShort_of_mapError {ε δ α : Type} {outcome : Except (Failure ε) α} {f : ε → δ}
    {cause : Interruption} (ended : outcome.mapError (·.map f) = .error (.cutShort cause)) :
    outcome = .error (.cutShort cause) := by
  cases outcome with
  | ok value => cases ended
  | error failure =>
    cases failure with
    | reported problem => cases ended
    | cutShort own =>
      cases ended
      rfl

/-- Whether an outcome is a value of one kind, or a failure of another. -/
def Gives {ε α : Type} (good : α → Prop) (bad : ε → Prop) : Except ε α → Prop
  | .ok value => good value
  | .error failure => bad failure

namespace Gives

variable {ε δ α β : Type} {good fine : α → Prop} {after : β → Prop} {bad worse : ε → Prop}
  {outcome : Except ε α}

/-- The value that there is. -/
theorem of_ok {value : α} (gives : Gives good bad outcome) (ended : outcome = .ok value) :
    good value := by
  rw [ended] at gives
  exact gives

/-- The failure that there is. -/
theorem of_error {failure : ε} (gives : Gives good bad outcome) (ended : outcome = .error failure) :
    bad failure := by
  rw [ended] at gives
  exact gives

/-- What is known of both ways may be weakened. -/
theorem mono (gives : Gives good bad outcome) (values : ∀ value, good value → fine value)
    (failures : ∀ failure, bad failure → worse failure) : Gives fine worse outcome := by
  cases outcome with
  | ok value => exact values value gives
  | error failure => exact failures failure gives

/-- A next step starts from the value of the first. -/
theorem bind {next : α → Except ε β} (first : Gives good bad outcome)
    (goesOn : ∀ value, good value → Gives after bad (next value)) :
    Gives after bad (outcome >>= next) := by
  cases outcome with
  | ok value => exact goesOn value first
  | error failure => exact first

/-- A function of the value is one of the outcome. -/
theorem map {f : α → β} (first : Gives good bad outcome)
    (values : ∀ value, good value → after (f value)) : Gives after bad (f <$> outcome) := by
  cases outcome with
  | ok value => exact values value first
  | error failure => exact first

/-- A failure may be seen as part of something greater. -/
theorem mapError {f : ε → δ} {worse : δ → Prop} (first : Gives good bad outcome)
    (failures : ∀ failure, bad failure → worse (f failure)) :
    Gives good worse (outcome.mapError f) := by
  cases outcome with
  | ok value => exact first
  | error failure => exact failures failure first

/-- A value of its own for each member of a list. -/
theorem mapM {members : List β} {read : β → Except ε α}
    (each : ∀ member ∈ members, Gives good bad (read member)) :
    Gives (fun values => ∀ value ∈ values, good value) bad (members.mapM read) := by
  -- The first failure ends the whole, and it is one of the members.
  induction members with
  | nil => exact fun _ none => nomatch none
  | cons member rest ih =>
    rw [List.forall_mem_cons] at each
    rw [List.mapM_cons]
    refine each.1.bind fun value first => (ih each.2).bind fun values later => ?_
    exact List.forall_mem_cons.mpr ⟨first, later⟩

end Gives

end Themer
