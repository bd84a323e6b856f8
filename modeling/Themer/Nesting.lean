/-! The limit on how deep calls, and values within values, may lie in one another. -/

namespace Themer

/--
What takes a level.

That is a function that is called or runs, a JSON value that holds others, or a value that is
shown or put into a sentence.
-/
inductive Level
  | call
  | body
  | array
  | object
  | shown
  | plain
deriving DecidableEq, Repr

/-- Something that no level is left for. -/
structure TooDeep where
  level : Level
deriving DecidableEq, Repr

/-- The message names what would have taken the level, unless it is a function that runs. -/
def TooDeep.message (e : TooDeep) : String :=
  "maximum recursion depth exceeded" ++ match e.level with
    | .call => " while calling a Python object"
    | .body => ""
    | .array => " while decoding a JSON array from a unicode string"
    | .object => " while decoding a JSON object from a unicode string"
    | .shown => " while getting the repr of an object"
    | .plain => " while getting the str of an object"

/-- How many levels are left in the places where they may run out. -/
structure Levels where
  /-- Where a colorscheme is loaded. -/
  load : Nat
  /-- Where the colorschemes of a directory are listed. -/
  list : Nat
  /-- Where a directory is made with those it lies in. -/
  make : Nat
  /-- Where it is told what is wrong with the settings. -/
  tell : Nat
  /-- When a listing reads a file, it has called at least as many functions as a load has. -/
  list_le_load : list ≤ load
deriving DecidableEq, Repr

end Themer
