import Themer.Layout
import Themer.Session

/-! The directories of the program, made before anything else. -/

namespace Themer

namespace Layout

/-- The layout that an environment asks for. -/
def ofEnvironment (environment : List (String × String)) : Except SetupError Layout :=
  match ofEnvironment? environment with
  | some layout => .ok layout
  | none => .error .noHome

/-- Makes some directories, with the directories they lie in, as far as there are levels left. -/
def makeEach (levels : Nat) : List Path → Work Unit
  | [] => pure ()
  | directory :: rest => do
    -- What was made before a refusal stays, so the disk is put in place before the answer counts.
    let (made, disk) := (← Work.disk).ensurePath levels directory
    Work.setDisk disk
    Work.grantedOr (fun e => .setup (.directoryNotMade directory e)) made
    makeEach levels rest

/-- Makes every directory that is read from or written to. -/
def makeDirectories (layout : Layout) (levels : Nat) : Work Unit :=
  makeEach levels layout.directories

end Layout

end Themer
