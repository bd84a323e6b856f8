import Themer.Yaml.Node
import Themer.Yaml.Plain

/-! YAML documents read into values. -/

namespace Themer.Yaml

/-- The key that takes in the entries of other maps. -/
def mergeKey : String := "<<"

/-- The plain scalar that stands for a value of its own and so for none that is known here. -/
def valueKey : String := "="

/-- Whether a node is the key that takes in the entries of other maps. -/
def isMergeKey : Node → Bool
  | .scalar text true => text == mergeKey
  | _ => false

/-- Whether a value can be a key. -/
def isKey : Datum → Bool
  | .list _ | .map _ => false
  | _ => true

/-- The value of a scalar. -/
def scalarValue (text : String) (plain : Bool) : Except Stop Datum :=
  if !plain then .ok (.text text)
  else if text == mergeKey || text == valueKey then .error Fault.indicatorAsValue.stop
  else (plainValue text).mapError .cutShort

/-- The entries of some maps, in the order in which later ones count more. -/
def joined (maps : List (List (Node × Node))) : List (Node × Node) := maps.reverse.flatten

mutual

/-- The entries of a map with those it takes in put in front, for at most so many steps. -/
def flatten : Nat → List (Node × Node) → Except Stop (List (Node × Node))
  | 0, entries => .ok entries
  | steps + 1, entries => do
    let taken ← takenIn steps entries
    -- In front, so that the map's own entries come later and count.
    return taken ++ entries.filter fun entry => !isMergeKey entry.1

/-- The entries that a map takes in. -/
def takenIn : Nat → List (Node × Node) → Except Stop (List (Node × Node))
  | 0, _ => .ok []
  | _ + 1, [] => .ok []
  | steps + 1, (key, value) :: rest =>
    if isMergeKey key then do
      let first ← match value with
        | .map entries => flatten steps entries
        -- The first of several maps counts most, so it comes last.
        | .list items => joined <$> flattenEach steps items
        | .scalar _ _ => throw Fault.indicatorAsValue.stop
      return first ++ (← takenIn steps rest)
    else takenIn steps rest

/-- The entries of each of some maps. -/
def flattenEach : Nat → List Node → Except Stop (List (List (Node × Node)))
  | 0, _ => .ok []
  | _ + 1, [] => .ok []
  | steps + 1, node :: rest =>
    match node with
    | .map entries => do return (← flatten steps entries) :: (← flattenEach steps rest)
    | _ => .error Fault.indicatorAsValue.stop

end

mutual

/-- The value of a node, for at most so many steps. -/
def valueOf : Nat → Node → Except Stop Datum
  | 0, _ => .error Fault.unexpectedToken.stop
  | _ + 1, .scalar text plain => scalarValue text plain
  | steps + 1, .list items => .list <$> itemValues steps items
  | steps + 1, .map entries => do
    return .map (← entryValues steps [] (← flatten steps entries))

/-- The values of some items. -/
def itemValues : Nat → List Node → Except Stop (List Datum)
  | 0, _ => .error Fault.unexpectedToken.stop
  | _ + 1, [] => .ok []
  | steps + 1, item :: rest => do
    let value ← valueOf steps item
    return value :: (← itemValues steps rest)

/-- The values of some entries after others; the last value of a key counts. -/
def entryValues : Nat → List (Datum × Datum) → List (Node × Node) →
    Except Stop (List (Datum × Datum))
  | 0, _, _ => .error Fault.unexpectedToken.stop
  | _ + 1, done, [] => .ok done
  | steps + 1, done, (keyNode, valueNode) :: rest => do
    let key ← match keyNode with
      -- As a key this scalar is a text, and only as a value is it none that is known.
      | .scalar "=" true => pure (Datum.text valueKey)
      | _ => valueOf steps keyNode
    -- Told before the value is looked at.
    if !isKey key then throw Fault.collectionAsKey.stop
    let value ← valueOf steps valueNode
    entryValues steps (Datum.put done key value) rest

end

/--
The nodes of a collection that hold others, if all of the scalars in it have a value.

A key must be a scalar. What the other nodes hold is looked at later.
-/
def innerNodes (steps : Nat) : Node → Except Stop (List Node)
  | .scalar text plain => do
    let _ ← scalarValue text plain
    return []
  | .list items => do return (← items.mapM fun item => outer item).flatten
  | .map entries => do
    let entries ← flatten steps entries
    return (← entries.mapM fun (key, value) => do
      match key with
      | .scalar "=" true => pure ()
      | .scalar text plain => let _ ← scalarValue text plain
      | _ => throw Fault.collectionAsKey.stop
      outer value).flatten
where
  /-- The node itself if it holds others; a scalar must have a value. -/
  outer (node : Node) : Except Stop (List Node) :=
    match node with
    | .scalar text plain => do
      let _ ← scalarValue text plain
      return []
    | other => .ok [other]

/-- Checks some nodes and all they hold, level by level, for at most so many of them. -/
def checkLevels (steps : Nat) : Nat → List Node → Except Stop Unit
  | 0, _ => .ok ()
  | _ + 1, [] => .ok ()
  | count + 1, node :: rest => do
    let inner ← innerNodes steps node
    checkLevels steps count (rest ++ inner)

/-- The value of a source's only document; without a document it is null. -/
def read (source : Source) : Except Stop Datum := do
  let tokens := tokensOf source
  match ← Node.ofTokens tokens with
  | some node =>
    let steps := 4 * tokens.length + 4
    -- The first fault is looked for level by level, not in the order in which values are made.
    checkLevels steps steps [node]
    valueOf steps node
  | none => return .null

/-- The value of the bytes of a file. -/
def readBytes (bytes : Text.Bytes) : Except Stop Datum := read (Source.ofBytes bytes)

end Themer.Yaml
