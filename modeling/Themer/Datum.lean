import Themer.Nesting
import Themer.Number.Numeral
import Themer.Number.Shortest
import Themer.Text.Quoted

/-! Values that a document holds, whatever format it is written in, and how messages show them. -/

namespace Themer

/--
A value of a kind that only some formats have, such as a date, or one that holds itself.

Whatever else it is, this is all that anybody asks of it here.
-/
structure Foreign where
  /-- The word for its kind. -/
  kind : String
  /-- How messages show it. -/
  shown : String
  /-- How it stands in a sentence. -/
  plain : String
  /-- What it is told apart by as a key. -/
  identity : String
  /-- Whether it counts as something. -/
  isTruthy : Bool
  /-- Whether it holds a number that is too long to be shown. -/
  isTooLong : Bool
  /-- The levels it takes to show what lies within it, up to such a number if it holds one. -/
  levels : Nat
  /-- It is written in one line either way. -/
  inLine : '\n' ∉ shown.toList ∧ '\n' ∉ plain.toList
deriving Repr

/-- A value of a document. -/
inductive Datum
  | null
  | flag (value : Bool)
  | whole (value : Int)
  | real (value : Binary64)
  | text (value : String)
  | foreign (value : Foreign)
  | list (items : List Datum)
  | map (entries : List (Datum × Datum))
deriving Repr

namespace Datum

mutual

/-- A value as messages show it: texts quoted, lists in brackets and maps in braces. -/
def shown : Datum → String
  | .null => "None"
  | .flag true => "True"
  | .flag false => "False"
  | .whole value => toString value
  | .real value => value.text
  | .text value => Text.quoted value
  | .foreign value => value.shown
  -- A list or a map is recursed into by a function of its own, as it holds values in a list.
  | .list items => "[" ++ ", ".intercalate (shownItems items) ++ "]"
  | .map entries => "\x7b" ++ ", ".intercalate (shownEntries entries) ++ "\x7d"

/-- The items of a list, each as messages show it. -/
def shownItems : List Datum → List String
  | [] => []
  | item :: rest => shown item :: shownItems rest

/-- The entries of a map, each as messages show it. -/
def shownEntries : List (Datum × Datum) → List String
  | [] => []
  | entry :: rest => (shown entry.1 ++ ": " ++ shown entry.2) :: shownEntries rest

end

end Datum

/-- Why a value cannot be shown: a number in it is too long, or something lies too deep in it. -/
inductive Unshown
  | tooLong
  | tooDeep (e : TooDeep)
deriving DecidableEq, Repr

/-- What keeps such a value from being shown, where so many levels are left within it. -/
def Foreign.unshown? (levels : Nat) (value : Foreign) : Option Unshown :=
  if levels < value.levels then some (.tooDeep ⟨.shown⟩)
  else if value.isTooLong then some .tooLong else none

namespace Datum

mutual

/-- What comes first to keep a value from being shown, where so many levels are left within it. -/
def unshownWithin? (levels : Nat) : Datum → Option Unshown
  | .whole value => if isTooLongToWrite value then some .tooLong else none
  | .foreign value => value.unshown? levels
  | .list items => unshownItems? levels items
  | .map entries => unshownEntries? levels entries
  | _ => none

/-- What comes first to keep items from being shown, each of which takes a level. -/
def unshownItems? : Nat → List Datum → Option Unshown
  | _, [] => none
  | 0, _ :: _ => some (.tooDeep ⟨.shown⟩)
  | levels + 1, item :: rest =>
    (unshownWithin? levels item).or (unshownItems? (levels + 1) rest)

/-- What comes first to keep entries from being shown, whose keys and values take a level each. -/
def unshownEntries? : Nat → List (Datum × Datum) → Option Unshown
  | _, [] => none
  | 0, _ :: _ => some (.tooDeep ⟨.shown⟩)
  | levels + 1, entry :: rest =>
    ((unshownWithin? levels entry.1).or (unshownWithin? levels entry.2)).or
      (unshownEntries? (levels + 1) rest)

end

/-- What keeps a value from being shown, where so many levels are left. -/
def unshown? : Nat → Datum → Option Unshown
  | 0, _ => some (.tooDeep ⟨.shown⟩)
  | levels + 1, value => value.unshownWithin? levels

/-- What keeps a value from being part of a sentence, where so many levels are left. -/
def unplain? : Nat → Datum → Option Unshown
  -- A text stands as it is, and a whole number is written at once; all else is asked for its form.
  | _, .text _ => none
  | 0, .whole _ => some (.tooDeep ⟨.plain⟩)
  | levels + 1, .whole value => (Datum.whole value).unshownWithin? levels
  | 0, _ => some (.tooDeep ⟨.call⟩)
  | 1, _ => some (.tooDeep ⟨.plain⟩)
  | levels + 2, value => value.unshownWithin? levels

/-- The word for the kind of a value. -/
def kind : Datum → String
  | .null => "NoneType"
  | .flag _ => "bool"
  | .whole _ => "int"
  | .real _ => "float"
  | .text _ => "str"
  | .foreign value => value.kind
  | .list _ => "list"
  | .map _ => "dict"

/-- A value as part of a sentence: a text stands as it is, almost anything else as it is shown. -/
def plain : Datum → String
  | .text value => value
  | .foreign value => value.plain
  | other => other.shown

/-- Whether a value counts as something: not zero, empty, false or null. -/
def isTruthy : Datum → Bool
  | .null => false
  | .flag value => value
  | .whole value => value != 0
  | .real value => value.magnitude != 0
  | .text value => value != ""
  | .foreign value => value.isTruthy
  | .list items => !items.isEmpty
  | .map entries => !entries.isEmpty

/-- Whether two reals are the same number: equal, or both of them no number. -/
def sameReal (x y : Binary64) : Bool :=
  (x.isNaN && y.isNaN) || (!x.isNaN && !y.isNaN && x.rank == y.rank)

/-- Whether a real is exactly a whole number. -/
def isWholeReal (n : Int) (x : Binary64) : Bool :=
  !x.isNaN && !x.isInfinite && x.steps == n * twoTo 1074

/-- The number a value stands for as a key, true and false being one and zero. -/
def keyNumber? : Datum → Option Int
  -- So true is the same key as one, and is found under it.
  | .flag value => some (if value then 1 else 0)
  | .whole value => some value
  | _ => none

/--
Whether two values are the same key.

Numbers are compared by value, whatever they are written as; lists and maps are no keys.
-/
def sameKey : Datum → Datum → Bool
  | .null, .null => true
  | .text a, .text b => a == b
  | .foreign a, .foreign b => a.identity == b.identity
  -- Two reals are compared by themselves, since one of them may be no number or infinite.
  | .real x, .real y => sameReal x y
  | .real x, other => other.keyNumber?.any (isWholeReal · x)
  | other, .real x => other.keyNumber?.any (isWholeReal · x)
  -- Of what is left, only flags and whole numbers are numbers, and the rest is never the same.
  | a, b => match a.keyNumber?, b.keyNumber? with
    | some m, some n => m == n
    | _, _ => false

/-- The value of a key. -/
def find? (entries : List (Datum × Datum)) (key : Datum) : Option Datum :=
  (entries.find? fun entry => entry.1.sameKey key).map Prod.snd

/-- The entries with one set: a key already there keeps its place, a new one comes last. -/
def put (entries : List (Datum × Datum)) (key value : Datum) : List (Datum × Datum) :=
  match entries with
  | [] => [(key, value)]
  | entry :: rest =>
    -- The key that was there stays, also where the new one is written in another way.
    if entry.1.sameKey key then (entry.1, value) :: rest else entry :: put rest key value

/-- Whether all of some entries have different keys. -/
def KeysDiffer (entries : List (Datum × Datum)) : Prop :=
  entries.Pairwise fun a b => a.1.sameKey b.1 = false

/-- Whether a value is as a reader builds it: no map, however deep, has one key twice. -/
inductive IsProper : Datum → Prop
  | null : IsProper .null
  | flag {value : Bool} : IsProper (.flag value)
  | whole {value : Int} : IsProper (.whole value)
  | real {value : Binary64} : IsProper (.real value)
  | text {value : String} : IsProper (.text value)
  | foreign {value : Foreign} : IsProper (.foreign value)
  | list {items : List Datum} (each : ∀ item ∈ items, IsProper item) : IsProper (.list items)
  | map {entries : List (Datum × Datum)} (differ : KeysDiffer entries)
      (each : ∀ entry ∈ entries, IsProper entry.2) : IsProper (.map entries)

end Datum

/-- A value of some kind that stands where a map belongs. -/
structure NotMap where
  kind : String
deriving DecidableEq, Repr

/-- The message names the kind. -/
def NotMap.message (e : NotMap) : String := s!"'{e.kind}' object has no attribute 'get'"

end Themer
