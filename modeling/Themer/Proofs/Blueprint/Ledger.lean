import Themer.Proofs.Blueprint.Batch
import Themer.Proofs.Disk.Restored

/-! What a batch writes, blueprint by blueprint, and where it writes the same once more. -/

namespace Themer

namespace Blueprint

/-- Each of some blueprints with what is written for it at its turn; one that fails has nothing. -/
def ledger (defaults : Defaults) : List Path → Session → List (Path × Option Rendered)
  | [], _ => []
  | source :: rest, session =>
    (source, product? defaults session source) ::
      ledger defaults rest ((attempt defaults source).runIn session).2

/-- The tree after some rendered blueprints were written to it, one after the other. -/
def writeAll (disk : Disk) (writes : List Rendered) : Except Denial Disk :=
  writes.foldlM (fun disk rendered =>
    disk.writeFile rendered.output (Text.Utf8.encode rendered.text)) disk

variable {defaults : Defaults}

/-- A batch comes to what its ledger says: the paths, the number of failures, and the tree. -/
theorem runIn_buildEach_ledger (usual : Disk.hasNul defaults.directory = false)
    {sources : List Path} (free : ∀ source ∈ sources, Disk.hasNul source = false)
    (session : Session) :
    let entries := ledger defaults sources session
    let writes := entries.filterMap Prod.snd
    ∃ after, (buildEach defaults sources).runIn session =
        (.ok (writes.map Rendered.output, entries.countP (·.2.isNone)), after) ∧
      writeAll session.disk writes = .ok after.disk := by
  -- Both go on from the session that the first attempt leaves, whichever that is.
  induction sources generalizing session with
  | nil => exact ⟨session, rfl, rfl⟩
  | cons source rest ih =>
    rw [List.forall_mem_cons] at free
    rw [buildEach_cons, ledger]
    cases made : product? defaults session source with
    | some rendered =>
      -- The write of the attempt is the first of all.
      obtain ⟨between, attempted, written, _⟩ := runIn_attempt_of_product made
      obtain ⟨after, ran, wrote⟩ := ih free.2 between
      refine ⟨after, ?_, ?_⟩
      · rw [Work.runIn_bind_of_ok attempted, Work.runIn_bind_of_ok ran, attempted]
        simp
      · rw [attempted]
        change writeAll session.disk (rendered :: _) = _
        rw [writeAll, List.foldlM_cons, written]
        exact wrote
    | none =>
      -- The attempt has changed no file, so the writes are those of the others.
      obtain ⟨between, fault, attempted, diskIs, _⟩ :=
        runIn_attempt_of_no_product free.1 usual made
      obtain ⟨after, ran, wrote⟩ := ih free.2 between
      refine ⟨after, ?_, ?_⟩
      · rw [Work.runIn_bind_of_ok attempted, Work.runIn_bind_of_ok ran, attempted]
        simp
      · rw [attempted, ← diskIs]
        exact wrote

/-- Writing rendered blueprints puts files where they fit. -/
theorem changed_of_writeAll {disk after : Disk} {writes : List Rendered}
    (wrote : writeAll disk writes = .ok after) : Disk.Changed (fun _ _ => True) disk after := by
  -- One write a step, each in the tree that the one before has left.
  induction writes generalizing disk with
  | nil =>
    cases wrote
    exact .same
  | cons rendered rest ih =>
    rw [writeAll, List.foldlM_cons] at wrote
    cases written : disk.writeFile rendered.output (Text.Utf8.encode rendered.text) with
    | error denial =>
      rw [written] at wrote
      cases wrote
    | ok between =>
      rw [written] at wrote
      obtain ⟨_, _, changed, _⟩ := Disk.changed_of_writeFile written
      exact (changed.mono fun _ _ _ => trivial).trans (ih wrote)

end Blueprint

namespace Session.Follows

variable {defaults : Defaults} {may : Location → Entry → Prop} {begun later : Session}
  (follows : begun.Follows may later) (files : Disk.FilesOnly may) (tree : begun.disk.IsTree)
  (usual : Disk.hasNul defaults.directory = false)
include follows files tree usual

/-- An attempt that writes where it may leaves a session in which the others come to the same. -/
theorem attempt {source : Path} (free : Disk.hasNul source = false)
    (kept : begun.disk.Keeps may source)
    (allowed : ∀ rendered, Blueprint.product? defaults begun source = some rendered →
      begun.disk.Takes may rendered.output (Text.Utf8.encode rendered.text)) :
    begun.Follows may ((Blueprint.attempt defaults source).runIn later).2 := by
  cases made : Blueprint.product? defaults begun source with
  | some rendered =>
    obtain ⟨after, _, followsAfter, attempted, _⟩ :=
      follows.attempt_of_product files tree kept made (allowed rendered made)
    rwa [attempted]
  | none =>
    obtain ⟨after, _, followsAfter, attempted, _⟩ :=
      follows.attempt_of_no_product files tree kept free usual made
    rwa [attempted]

variable {sources : List Path} (free : ∀ source ∈ sources, Disk.hasNul source = false)
  (kept : ∀ source ∈ sources, begun.disk.Keeps may source)
include free kept

/-- The ledger has what each blueprint came to at first, if all that may go where it goes. -/
theorem ledger_eq (allowed : ∀ source ∈ sources, ∀ rendered,
      Blueprint.product? defaults begun source = some rendered →
        begun.disk.Takes may rendered.output (Text.Utf8.encode rendered.text)) :
    Blueprint.ledger defaults sources later =
      sources.map fun source => (source, Blueprint.product? defaults begun source) := by
  -- After each attempt the session still follows the first one, and that is all it takes.
  induction sources generalizing later with
  | nil => rfl
  | cons source rest ih =>
    rw [List.forall_mem_cons] at free kept allowed
    rw [Blueprint.ledger, follows.product?_eq files tree kept.1, List.map_cons]
    rw [ih (follows.attempt files tree usual free.1 kept.1 allowed.1) free.2 kept.2 allowed.2]

/-- It has so as well if only what stands in the ledger may go where it goes. -/
theorem ledger_eq_of_mem (allowed : ∀ source rendered,
      (source, some rendered) ∈ Blueprint.ledger defaults sources later →
        begun.disk.Takes may rendered.output (Text.Utf8.encode rendered.text)) :
    Blueprint.ledger defaults sources later =
      sources.map fun source => (source, Blueprint.product? defaults begun source) := by
  induction sources generalizing later with
  | nil => rfl
  | cons source rest ih =>
    rw [List.forall_mem_cons] at free kept
    -- The head of the ledger is known first, and with it the session that the tail begins in.
    rw [Blueprint.ledger, follows.product?_eq files tree kept.1] at allowed ⊢
    have next := follows.attempt files tree usual free.1 kept.1 fun rendered made =>
      allowed source rendered (by simp [made])
    rw [List.map_cons, ih next free.2 kept.2 fun other rendered among =>
      allowed other rendered (List.mem_cons_of_mem _ among)]

/-- What stands in the ledger is what each blueprint came to, so that too may go where it goes. -/
theorem takes_of_ledger (allowed : ∀ source rendered,
      (source, some rendered) ∈ Blueprint.ledger defaults sources later →
        begun.disk.Takes may rendered.output (Text.Utf8.encode rendered.text)) :
    ∀ source ∈ sources, ∀ rendered, Blueprint.product? defaults begun source = some rendered →
      begun.disk.Takes may rendered.output (Text.Utf8.encode rendered.text) := by
  intro source among rendered made
  refine allowed source rendered ?_
  rw [follows.ledger_eq_of_mem files tree usual free kept allowed, ← made]
  exact List.mem_map_of_mem among

end Session.Follows

namespace Blueprint

variable {defaults : Defaults} {sources : List Path}

/-- A batch is built one by one, and then it is told how many there were. -/
theorem runIn_buildAll {session after : Session} {outputs : List Path} {failed : Nat}
    (ran : (buildEach defaults sources).runIn session = (.ok (outputs, failed), after)) :
    ∃ told, (buildAll defaults sources).runIn session = (.ok outputs, told) ∧
      told.disk = after.disk := by
  rw [buildAll, Work.runIn_bind_of_ok ran]
  exact ⟨_, rfl, rfl⟩

/-- A place that was settled twice in a row has what it had after the first time. -/
theorem SettledAt.again {begun : Session} {earlier between after : Disk} {place : Location}
    (first : SettledAt defaults begun sources earlier between place)
    (second : SettledAt defaults begun sources between after place) :
    after.entry? place = between.entry? place := by
  unfold SettledAt at first second
  -- Nothing goes there either time, or the same blueprint is the last one to go there both times.
  cases last : lastInto? defaults begun sources place with
  | none =>
    rw [last] at second
    exact second
  | some source =>
    rw [last] at first second
    obtain ⟨rendered, ended, held⟩ := first
    obtain ⟨renderedAgain, endedAgain, heldAgain⟩ := second
    cases ended.symm.trans endedAgain
    rw [held, heldAgain]

/-- Writes that settle all places as they were settled before put nothing new in the tree. -/
theorem eq_of_settled_again {begun : Session} {earlier between after : Disk}
    {writes : List Rendered} (wrote : writeAll between writes = .ok after)
    (first : ∀ place, SettledAt defaults begun sources earlier between place)
    (second : ∀ place, SettledAt defaults begun sources between after place) :
    after = between :=
  (changed_of_writeAll wrote).eq_of_same_entries fun place => (first place).again (second place)

/--
A batch that is built again in the tree that it left writes the same, and the tree stays.

Its outputs may go only where they take the place of none of the blueprints.
-/
theorem buildAll_again {may : Location → Entry → Prop} {begun built again : Session}
    {outputs : List Path} (files : Disk.FilesOnly may) (tree : begun.disk.IsTree)
    (usual : Disk.hasNul defaults.directory = false)
    (free : ∀ source ∈ sources, Disk.hasNul source = false)
    (kept : ∀ source ∈ sources, begun.disk.Keeps may source)
    (allowed : ∀ source rendered, (source, some rendered) ∈ ledger defaults sources begun →
      begun.disk.Takes may rendered.output (Text.Utf8.encode rendered.text))
    (ran : (buildAll defaults sources).runIn begun = (.ok outputs, built))
    (diskIs : again.disk = built.disk) (paletteIs : again.palette = begun.palette) :
    Disk.Changed may begun.disk built.disk ∧
      ledger defaults sources again = ledger defaults sources begun ∧
      ∃ after, (buildAll defaults sources).runIn again = (.ok outputs, after) ∧
        after.disk = built.disk := by
  have follows : begun.Follows may begun := ⟨.same, .refl _⟩
  have entries := follows.ledger_eq_of_mem files tree usual free kept allowed
  have products := follows.takes_of_ledger files tree usual free kept allowed
  obtain ⟨first, _, _, ranFirst, followsFirst, _, _, settled⟩ :=
    follows.buildEach files tree usual sources free kept products
  obtain ⟨told, ranAll, toldDisk⟩ := runIn_buildAll ranFirst
  cases ranAll.symm.trans ran
  -- The second time begins in a session that follows the first one.
  have followsAgain : begun.Follows may again := by
    refine ⟨?_, ?_⟩
    · rw [diskIs, toldDisk]
      exact followsFirst.disk
    · rw [paletteIs]
      exact .refl _
  obtain ⟨second, _, _, ranSecond, _, _, _, settledAgain⟩ :=
    followsAgain.buildEach files tree usual sources free kept products
  obtain ⟨last, ranLast, lastDisk⟩ := runIn_buildAll ranSecond
  obtain ⟨written, ranLedger, wrote⟩ := runIn_buildEach_ledger usual free again
  obtain rfl : written = second := congrArg Prod.snd (ranLedger.symm.trans ranSecond)
  have same : written.disk = again.disk := by
    rw [diskIs, toldDisk] at wrote settledAgain ⊢
    exact eq_of_settled_again wrote settled settledAgain
  refine ⟨?_, ?_, last, ranLast, ?_⟩
  · rw [toldDisk]
    exact followsFirst.disk
  · rw [entries]
    exact followsAgain.ledger_eq files tree usual free kept products
  · rw [lastDisk, same, diskIs]

end Blueprint

end Themer
