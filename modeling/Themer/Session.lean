import Themer.Notice
import Themer.Problem

/-! A session at work on the disk: its palette, what it has told, and how its work ends. -/

namespace Themer

/-- The state of a session: the disk, the palette in use, and the notices so far, oldest first. -/
structure Session where
  disk : Disk
  palette : Palette
  notices : List Notice

/-- A piece of work changes a session and ends with a value or a failure. -/
abbrev Work (α : Type) := ExceptT (Failure Problem) (StateM Session) α

namespace Work

/-- Says something. -/
def tell (severity : Severity) (text : String) : Work Unit :=
  -- Notices are kept in the order they came, whatever severities are shown in the end.
  modify fun session => { session with notices := session.notices ++ [⟨severity, text⟩] }

/-- The disk as it is. -/
def disk : Work Disk := return (← get).disk

/-- Puts another disk in place. -/
def setDisk (disk : Disk) : Work Unit := modify fun session => { session with disk }

/-- Ends with a problem. -/
def report {α : Type} (problem : Problem) : Work α := throw (.reported problem)

/-- Ends with an interruption. -/
def cutShort {α : Type} (cause : Interruption) : Work α := throw (.cutShort cause)

/-- The value of an outcome, or its failure. -/
def ofExcept {α : Type} (outcome : Except (Failure Problem) α) : Work α :=
  match outcome with
  | .ok value => pure value
  | .error failure => throw failure

/-- The value of an access to the disk, whose refusal nobody reports. -/
def granted {α : Type} (access : Except Denial α) : Work α :=
  match access with
  | .ok value => pure value
  | .error e => cutShort (.denied e)

/-- The value of an access to the disk, whose refusal by the system is a problem. -/
def grantedOr {α : Type} (problem : OsError → Problem) (access : Except Denial α) : Work α :=
  match access with
  | .ok value => pure value
  | .error (.os e) => report (problem e)
  -- What is not the system's to refuse is no problem to be told.
  | .error .nulByte => cutShort (.denied .nulByte)
  | .error (.tooDeep e) => cutShort (.denied (.tooDeep e))

/-- The answer of a look at the disk. -/
def seen {α : Type} (answer : Except OsError α) : Work α :=
  granted (answer.mapError .os)

end Work

end Themer
