import Themer.Proofs.Command.Problems
import Themer.Proofs.Text.Encoded

/-!
What becomes of a script that is launched: its status counts where all it prints is text.

This holds on every system, whatever the script and whatever has run it.
-/

namespace Themer

namespace Script

/-- All that a script has printed is text, on either stream. -/
structure Finished.IsText (finished : Finished) : Prop where
  output : ∃ text, finished.output = Text.Utf8.encode text
  errors : ∃ text, finished.errors = Text.Utf8.encode text

/-- A script that has printed text is judged by its status alone. -/
theorem judge_of_isText (path : Path) {finished : Finished} (isText : finished.IsText) :
    ∃ complaint, judge path finished =
      if finished.status = 0 then .ok ()
      else .error (.reported (.exited path finished.status complaint)) := by
  obtain ⟨⟨text, output⟩, complaint, errors⟩ := isText
  -- Nothing of the output is kept, and what is kept of the other stream only fills the message.
  refine ⟨Text.trim (Text.unifyBreaks complaint), ?_⟩
  rw [judge, Text.Utf8.decode_eq_ok_iff.mpr output, Text.Utf8.decode_eq_ok_iff.mpr errors]

/-- A script that has printed anything else is not judged, whatever its status is. -/
theorem judge_of_not_isText (path : Path) {finished : Finished} (noText : ¬ finished.IsText) :
    ∃ e, judge path finished = .error (.cutShort (.notUtf8 e)) := by
  -- The output is decoded first, so the other stream matters only where the output is text.
  by_cases output : ∃ text, finished.output = Text.Utf8.encode text
  · obtain ⟨e, failed⟩ :=
      Text.Utf8.exists_failure_of_not_text fun errors => noText ⟨output, errors⟩
    obtain ⟨text, same⟩ := output
    exact ⟨e, by rw [judge, Text.Utf8.decode_eq_ok_iff.mpr same, failed]⟩
  · obtain ⟨e, failed⟩ := Text.Utf8.exists_failure_of_not_text output
    exact ⟨e, by rw [judge, failed]⟩

/-- A script is reported for its status, with what it has said on its second stream. -/
theorem reported_of_judge {path : Path} {finished : Finished} {e : ScriptError}
    (judged : judge path finished = .error (.reported e)) :
    ∃ said, finished.errors = Text.Utf8.encode said ∧ finished.status ≠ 0 ∧
      e = .exited path finished.status (Text.trim (Text.unifyBreaks said)) := by
  unfold judge at judged
  -- What is no text on either stream cuts short, so that both are texts and the status decides.
  split at judged
  · cases judged
  split at judged
  · cases judged
  · rename_i said decoded
    split at judged
    · cases judged
    · rename_i bad
      cases judged
      exact ⟨said, Text.Utf8.decode_eq_ok_iff.mp decoded, bad, rfl⟩

/-- What a batch's script comes to: it has passed, it has failed, or something else is wrong. -/
inductive Verdict
  | passed
  | failed (status : Option Int)
  | broken
deriving DecidableEq, Repr

namespace Verdict

/-- The verdict that the end of the work after a batch gives. -/
def of : Except (Failure Problem) Unit → Verdict
  | .ok () => .passed
  | .error (.reported (.script e)) => .failed e.status?
  | .error _ => .broken

/-- The verdict by a status: only zero is none of a failure. -/
def ofStatus (status : Int) : Verdict :=
  if status = 0 then .passed else .failed (some status)

/-- Whatever its status is, a script that is judged by it has passed or failed. -/
theorem ofStatus_ne_broken (status : Int) : ofStatus status ≠ .broken := by
  unfold ofStatus
  split <;> simp

end Verdict

/-- A script is there and is launched, and this is how it has finished. -/
structure Finishes (environment : Environment) (script : Path) (session : Session)
    (finished : Finished) : Prop where
  isThere : session.disk.isThere script = .ok true
  launched : ∃ disk, environment.launch session.disk script = .ok (.ended finished disk)

/-- A run of which it is known how it has finished has ended so. -/
theorem exists_ended_of_finished? {launched : Except OsCause Ran} {finished : Finished}
    (known : launched.toOption.bind Ran.finished? = some finished) :
    ∃ disk, launched = .ok (.ended finished disk) := by
  cases launched with
  | error cause => cases known
  | ok ran =>
    cases ran with
    | endless => cases known
    | ended own disk =>
      cases known
      exact ⟨disk, rfl⟩

section

variable {environment : Environment} {script : Path} {session : Session} {finished : Finished}

/-- The work after a batch ends as its script is judged. -/
theorem Finishes.fst_runAfter (finishes : Finishes environment script session finished) :
    ((runAfter environment (some script)).runIn session).1 =
      (judge script finished).mapError (·.map .script) := by
  obtain ⟨disk, launched⟩ := finishes.launched
  rw [runIn_runAfter, finishes.isThere]
  dsimp only
  rw [launched]

/-- The verdict on a script that has printed text is that by its status. -/
theorem Finishes.verdict_of_isText (finishes : Finishes environment script session finished)
    (isText : finished.IsText) :
    Verdict.of ((runAfter environment (some script)).runIn session).1 =
      .ofStatus finished.status := by
  obtain ⟨complaint, judged⟩ := judge_of_isText script isText
  rw [finishes.fst_runAfter, judged, Verdict.ofStatus]
  split <;> rfl

/-- The work after a batch is cut short by a script that has printed anything else. -/
theorem Finishes.cutShort_of_not_isText (finishes : Finishes environment script session finished)
    (noText : ¬ finished.IsText) :
    ∃ e, ((runAfter environment (some script)).runIn session).1 =
      .error (.cutShort (.notUtf8 e)) := by
  obtain ⟨e, judged⟩ := judge_of_not_isText script noText
  exact ⟨e, by rw [finishes.fst_runAfter, judged]; rfl⟩

/-- No verdict of its own is given on a script exactly where it has printed anything else. -/
theorem Finishes.verdict_eq_broken_iff
    (finishes : Finishes environment script session finished) :
    Verdict.of ((runAfter environment (some script)).runIn session).1 = .broken ↔
      ¬ finished.IsText := by
  constructor
  · intro broken isText
    rw [finishes.verdict_of_isText isText] at broken
    exact Verdict.ofStatus_ne_broken _ broken
  · intro noText
    obtain ⟨e, ended⟩ := finishes.cutShort_of_not_isText noText
    rw [ended]
    rfl

end

end Script

/--
A script that is launched is judged by its status where all that it prints is text.

Anything else it prints cuts the work short, and nobody looks at the status then.
So two runs that end with one status come to one verdict where both print text or neither does,
whatever the texts are, and to two verdicts otherwise.
-/
theorem script_judged_by_status_where_text {environment environment' : Environment}
    {script : Path} {session session' : Session} {finished finished' : Script.Finished}
    (finishes : Script.Finishes environment script session finished)
    (finishes' : Script.Finishes environment' script session' finished')
    (sameStatus : finished.status = finished'.status) :
    let ended := ((Script.runAfter environment (some script)).runIn session).1
    let ended' := ((Script.runAfter environment' (some script)).runIn session').1
    (finished.IsText → Script.Verdict.of ended = .ofStatus finished.status) ∧
      (¬ finished.IsText → ∃ e, ended = .error (.cutShort (.notUtf8 e))) ∧
      (Script.Verdict.of ended = Script.Verdict.of ended' ↔
        (finished.IsText ↔ finished'.IsText)) := by
  intro ended ended'
  refine ⟨finishes.verdict_of_isText, finishes.cutShort_of_not_isText, fun same => ?_, ?_⟩
  · -- Only what is no text gives a verdict that no status gives.
    refine not_iff_not.mp (finishes.verdict_eq_broken_iff.symm.trans ?_)
    change Script.Verdict.of ended = _ ↔ _
    rw [same]
    exact finishes'.verdict_eq_broken_iff
  · intro alike
    by_cases isText : finished.IsText
    · have first := finishes.verdict_of_isText isText
      have second := finishes'.verdict_of_isText (alike.mp isText)
      rw [← sameStatus] at second
      exact first.trans second.symm
    · have first := finishes.verdict_eq_broken_iff.mpr isText
      have second := finishes'.verdict_eq_broken_iff.mpr fun isText' => isText (alike.mpr isText')
      exact first.trans second.symm

/-- Of two runs with status three, one complains and has failed, and the other prints a byte. -/
theorem script_judged_by_status_where_text_one_byte :
    let disk (text : String) : Disk := ⟨["home"], [(["home"], .directory),
      (["home", "s"], .directory),
      (["home", "s", "p"], .file (Text.Utf8.encode text.toList) true)]⟩
    let script := Path.ofString "s/p"
    let good : Session := ⟨disk "#!/bin/sh\necho no >&2\nexit 3\n", ⟨[]⟩, []⟩
    let bad : Session := ⟨disk "#!/bin/sh\nprintf '\\377'\nexit 3\n", ⟨[]⟩, []⟩
    let environment : Environment := .atHand []
    let ended (session : Session) := ((Script.runAfter environment (some script)).runIn session).1
    Script.Finishes environment script good ⟨3, [], [0x6E, 0x6F, 0x0A]⟩ ∧
      Script.Finishes environment script bad ⟨3, [0xFF], []⟩ ∧
      Script.Verdict.of (ended good) = .failed (some 3) ∧
      (∃ e, ended bad = .error (.cutShort (.notUtf8 e))) ∧
      Script.Verdict.of (ended good) ≠ Script.Verdict.of (ended bad) := by
  intro disk script good bad environment ended
  -- Only what a script has come to is told here, and not the disk that it leaves.
  have ofGood : Script.Finishes environment script good ⟨3, [], [0x6E, 0x6F, 0x0A]⟩ :=
    ⟨ok_of_toOption (by decide +kernel), Script.exists_ended_of_finished? (by decide +kernel)⟩
  have ofBad : Script.Finishes environment script bad ⟨3, [0xFF], []⟩ :=
    ⟨ok_of_toOption (by decide +kernel), Script.exists_ended_of_finished? (by decide +kernel)⟩
  have isText : Script.Finished.IsText ⟨3, [], [0x6E, 0x6F, 0x0A]⟩ :=
    ⟨⟨[], rfl⟩, ['n', 'o', '\n'], by decide⟩
  have noText : ¬ Script.Finished.IsText ⟨3, [0xFF], []⟩ := by
    rintro ⟨⟨text, same⟩, _⟩
    cases Text.Utf8.decode_eq_ok_iff.mpr same
  obtain ⟨judged, _, alike⟩ := script_judged_by_status_where_text ofGood ofBad rfl
  obtain ⟨_, cut, _⟩ := script_judged_by_status_where_text ofBad ofGood rfl
  exact ⟨ofGood, ofBad, judged isText, cut noText, fun same => noText ((alike.mp same).mp isText)⟩

/-- A script that prints a byte that is no text and exits with status three is not reported. -/
theorem script_not_judged_of_byte :
    let content := Text.Utf8.encode "#!/bin/sh\nprintf '\\377'\nexit 3\n".toList
    let disk : Disk := ⟨["home"], [(["home"], .directory), (["home", "s"], .directory),
      (["home", "s", "p"], .file content true)]⟩
    let script := Path.ofString "s/p"
    let environment : Environment := .atHand []
    (∃ left, environment.launch disk script = .ok (.ended ⟨3, [0xFF], []⟩ left)) ∧
      ((Script.runAfter environment (some script)).runIn ⟨disk, ⟨[]⟩, []⟩).1 =
        .error (.cutShort (.notUtf8 ⟨0, [0xFF], .invalidStart⟩)) := by
  intro content disk script environment
  -- The launch is worked out, and how it ends is left to the lemma on launched scripts.
  have isThere : disk.isThere script = .ok true := ok_of_toOption (by decide +kernel)
  have launched : ∃ left, environment.launch disk script = .ok (.ended ⟨3, [0xFF], []⟩ left) :=
    Script.exists_ended_of_finished? (by decide +kernel)
  have finishes : Script.Finishes environment script ⟨disk, ⟨[]⟩, []⟩ ⟨3, [0xFF], []⟩ :=
    ⟨isThere, launched⟩
  refine ⟨launched, ?_⟩
  rw [finishes.fst_runAfter]
  rfl

end Themer
