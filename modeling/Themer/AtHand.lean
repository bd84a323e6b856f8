import Themer.Environment
import Themer.Proofs.Yaml.Values
import Themer.Script.Launch

/-! What the program is run with: a reader of YAML, a system of a shell and levels to call in. -/

namespace Themer

/-- The words for whatever is wrong with a YAML document. -/
def Yaml.complaint : Complaint := ⟨"<yaml error>"⟩

/-- The reader of YAML at hand. -/
def DocumentReader.yaml : DocumentReader where
  read bytes := (Yaml.readBytes bytes).mapError (·.map fun _ => Yaml.complaint)
  isProper given := Yaml.isProper_of_readBytes (mapError_eq_ok_iff.mp given)

/--
The levels that are left where a run of the program needs them, out of a thousand.

The files of a listing are read by two calls more than one that is loaded.
-/
def Levels.atHand : Levels where
  load := 989
  list := 987
  make := 989
  tell := 994
  list_le_load := by decide

/-- What a run with some variables finds around it. -/
def Environment.atHand (bindings : Script.Variables) : Environment :=
  ⟨bindings, .yaml, .atHand, .atHand⟩

end Themer
