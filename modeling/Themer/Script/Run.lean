import Themer.Environment
import Themer.Session

/-! The script that runs once after a batch. -/

namespace Themer

namespace Script

/-- Runs the script at a path, if one is given and something is there. -/
def runAfter (environment : Environment) : Option Path → Work Unit
  | none => pure ()
  | some script => do
    if ← Work.seen ((← Work.disk).isThere script) then
      Work.tell .debug s!"Running {script.text}"
      match environment.launch (← Work.disk) script with
      | .error cause => Work.report (.script (.notLaunched script ⟨cause, script.text⟩))
      | .ok (.ended finished disk) =>
        Work.setDisk disk
        Work.ofExcept ((judge script finished).mapError (·.map .script))
      -- The script is waited for, however long that takes.
      | .ok .endless => Work.cutShort .endless
    else Work.tell .info s!"No post-render script at {script.text}, skipping"

end Script

end Themer
