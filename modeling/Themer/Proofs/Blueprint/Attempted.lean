import Themer.Proofs.Blueprint.Batch

/-! A batch that comes to its end has attempted every blueprint, and it never reports a problem. -/

namespace Themer

/-- A session has told that the rendering of a blueprint begins. -/
def Session.HasAttempted (session : Session) (source : Path) : Prop :=
  ⟨.debug, s!"Rendering blueprint {source.text}"⟩ ∈ session.notices

/-- What was attempted stays attempted however much more is told. -/
theorem Session.HasAttempted.later {session after : Session} {source : Path}
    (attempted : session.HasAttempted source) (told : session.notices <+: after.notices) :
    after.HasAttempted source :=
  told.subset attempted

namespace Blueprint

variable {defaults : Defaults} {source : Path} {session after : Session}

/-- Building a blueprint tells that its rendering begins, and reports what is wrong with it. -/
theorem runIn_build_told (defaults : Defaults) (source : Path) (session : Session) :
    (session.notices <+: ((build defaults source).runIn session).2.notices ∧
      ((build defaults source).runIn session).2.HasAttempted source) ∧
    ∀ problem, ((build defaults source).runIn session).1 = .error (.reported problem) →
      ∃ e, problem = .blueprint e := by
  let between :=
    session.withRendering (defaults.renderFile session.disk session.palette source)
  -- The rendering begins with its notice, whatever comes of it.
  have told : session.notices <+: between.notices ∧ between.HasAttempted source := by
    obtain ⟨warnings, notices⟩ := defaults.notices_renderFile session.disk session.palette source
    refine ⟨List.prefix_append _ _, ?_⟩
    simp [Session.HasAttempted, between, Session.withRendering, notices]
  cases ended : (defaults.renderFile session.disk session.palette source).outcome with
  | error failure =>
    rw [runIn_build_of_error ended]
    refine ⟨told, fun problem reported => ?_⟩
    cases failure with
    | reported e =>
      cases reported
      exact ⟨e, rfl⟩
    | cutShort cause => cases reported
  | ok rendered =>
    rw [runIn_build_of_ok ended]
    cases session.disk.writeFile rendered.output (Text.Utf8.encode rendered.text) with
    | ok disk =>
      -- The last notice is put behind those of the rendering.
      have more : between.notices <+: between.notices ++
          [⟨.debug, s!"Blueprint {source.text} -> {rendered.output.text}"⟩] :=
        List.prefix_append _ _
      refine ⟨⟨told.1.trans more, told.2.later more⟩, fun problem reported => ?_⟩
      cases reported
    | error denial =>
      -- Only the refusal of the system is reported; any other cuts the build short.
      cases denial with
      | nulByte | tooDeep =>
        refine ⟨told, fun problem reported => ?_⟩
        cases reported
      | os e =>
        refine ⟨told, fun problem reported => ?_⟩
        cases reported
        exact ⟨_, rfl⟩

/-- What is wrong with a blueprint is told in the batch, not reported. -/
theorem neverReports_attempt (defaults : Defaults) (source : Path) :
    (attempt defaults source).NeverReports := by
  intro session problem after ended
  -- Building reports nothing but what is wrong with a blueprint, and the attempt handles that.
  obtain ⟨_, own⟩ := runIn_build_told defaults source session
  rw [attempt, Work.runIn_tryCatch, Work.runIn_map] at ended
  cases built : (build defaults source).runIn session with
  | mk outcome between =>
    rw [built] at ended own
    cases outcome with
    | ok output => cases ended
    | error failure =>
      cases failure with
      | cutShort cause => cases ended
      | reported e =>
        obtain ⟨e, rfl⟩ := own e rfl
        cases ended

/-- An attempt tells that the rendering of the blueprint begins. -/
theorem attempt_told (defaults : Defaults) (source : Path) (session : Session) :
    session.notices <+: ((attempt defaults source).runIn session).2.notices ∧
      ((attempt defaults source).runIn session).2.HasAttempted source := by
  obtain ⟨told, own⟩ := runIn_build_told defaults source session
  -- The handler adds a notice or nothing to what building has told.
  rw [attempt, Work.runIn_tryCatch, Work.runIn_map]
  cases built : (build defaults source).runIn session with
  | mk outcome between =>
    rw [built] at told own
    cases outcome with
    | ok output => exact told
    | error failure =>
      cases failure with
      | cutShort cause => exact told
      | reported e =>
        obtain ⟨e, rfl⟩ := own e rfl
        have more : between.notices <+: between.notices ++ [⟨.error, e.message⟩] :=
          List.prefix_append _ _
        exact ⟨told.1.trans more, told.2.later more⟩

/-- However its blueprints fare, a batch never reports a problem. -/
theorem neverReports_buildAll (defaults : Defaults) (sources : List Path) :
    (buildAll defaults sources).NeverReports := by
  -- None of the attempts does, and the count at the end is a notice.
  have each : (buildEach defaults sources).NeverReports := by
    induction sources with
    | nil => exact Work.neverReports_pure _
    | cons source rest ih =>
      rw [buildEach_cons]
      exact (neverReports_attempt defaults source).bind fun built =>
        ih.bind fun _ => Work.neverReports_pure _
  exact each.bind fun _ => (Work.neverReports_tell _ _).bind fun _ => Work.neverReports_pure _

/-- A batch that comes to its end has attempted each of its blueprints. -/
theorem attempted_of_buildAll {sources outputs : List Path}
    (ended : (buildAll defaults sources).runIn session = (.ok outputs, after)) :
    ∀ source ∈ sources, after.HasAttempted source := by
  -- What one attempt has told is still told after all others.
  have each : ∀ (sources : List Path) (session after : Session) (result : List Path × Nat),
      (buildEach defaults sources).runIn session = (.ok result, after) →
        session.notices <+: after.notices ∧ ∀ source ∈ sources, after.HasAttempted source := by
    intro sources
    induction sources with
    | nil =>
      intro session after result ended
      cases ended
      exact ⟨List.prefix_refl _, by simp⟩
    | cons source rest ih =>
      intro session after result ended
      rw [buildEach_cons] at ended
      obtain ⟨built, between, attempted, later⟩ := Work.ok_of_bind ended
      obtain ⟨more, last, ran, done⟩ := Work.ok_of_bind later
      obtain ⟨told, others⟩ := ih between last more ran
      have first := attempt_told defaults source session
      rw [attempted] at first
      cases done
      rw [List.forall_mem_cons]
      exact ⟨first.1.trans told, first.2.later told, others⟩
  obtain ⟨result, between, ran, rest⟩ := Work.ok_of_bind ended
  obtain ⟨_, attempted⟩ := each sources session between result ran
  cases rest
  exact fun source among => (attempted source among).later (List.prefix_append _ _)

end Blueprint

end Themer
