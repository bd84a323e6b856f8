import Themer.Script.Editing
import Themer.Script.Filters
import Themer.Script.Formula
import Themer.Script.Search

/-! The programs by name. -/

namespace Themer.Script

/-- The programs that need nothing but their words. -/
def programs : List (String × Program) :=
  [("true", fun _ => return 0), ("false", fun _ => return 1), ("sleep", fun _ => return 0),
    ("touch", touch), ("mkdir", makeDirectories), ("rmdir", removeDirectories),
    ("rm", removeFiles), ("chmod", changeModes), ("mv", moveFiles), ("cp", copyFiles),
    ("ls", listNames), ("cat", concatenate), ("head", writePortions "head" '-' Portion.ofStart),
    ("tail", writePortions "tail" '+' Portion.ofEnd), ("wc", countAll), ("sort", sortLines),
    ("uniq", uniqueLines), ("cut", cutLines), ("tr", exchangeCharacters), ("tee", copyInput),
    ("tac", writeBackwards), ("rev", reverseLines),
    ("seq", countUp), ("yes", repeatLine), ("basename", baseNames), ("dirname", directoryNames),
    ("cmp", compareFiles), ("echo", echoWords), ("grep", searchLines []),
    ("egrep", searchLines ['E']), ("fgrep", searchLines ['F']), ("sed", editLines),
    ("expr", workOut),
    ("pwd", fun _ => do writeLines [(← get).directory]; return 0),
    ("uname", fun _ => do writeLines ["Linux".toList]; return 0)]

end Themer.Script
