import Themer.DocumentReader
import Themer.Script.System

/-! What a run of the program finds around it, and leaves to others. -/

namespace Themer

/--
What a run finds around it: the variables it is given, and whatever is no part of the program.

That is the reader of its settings, the system that runs its script, and the levels that are left
to its calls.
-/
structure Environment where
  bindings : Script.Variables
  reader : DocumentReader
  system : Script.System
  levels : Levels

/-- The run of the script at a path. -/
def Environment.launch (environment : Environment) (disk : Disk) (script : Path) :
    Except OsCause Script.Ran :=
  environment.system.launch disk environment.bindings script

end Themer
