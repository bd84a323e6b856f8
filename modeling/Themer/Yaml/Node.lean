import Themer.Yaml.Token

/-! The tree of scalars, lists and maps that the tokens of a YAML document spell. -/

namespace Themer.Yaml

/-- A node: a scalar as it is written, a list or a map. -/
inductive Node
  | scalar (text : String) (plain : Bool)
  | list (items : List Node)
  | map (entries : List (Node × Node))
deriving Repr

namespace Node

/-- The node where nothing is written. -/
def empty : Node := .scalar "" true

/-- What is wrong with tokens that do not go on as they should. -/
def unexpected (tokens : List Token) : Stop :=
  match tokens with
  | .stopped stop :: _ => stop
  | _ => Fault.unexpectedToken.stop

/-- Whether nothing is written for a value of a block, given the tokens after it. -/
def isOmitted (tokens : List Token) : Bool :=
  match tokens with
  | .key :: _ | .value :: _ | .blockEnd :: _ => true
  | _ => false

/-- Whether nothing is written for an item of a block, given the tokens after it. -/
def isOmittedItem (tokens : List Token) : Bool :=
  match tokens with
  | .entry :: _ | .blockEnd :: _ => true
  | _ => false

/-- Whether nothing is written for a value in brackets, given the tokens after it. -/
def isOmittedInFlow (closing : Token) (tokens : List Token) : Bool :=
  match tokens with
  | token :: _ => token == .value || token == .comma || token == closing
  | [] => false

mutual

/--
A node, for at most so many steps, and the tokens after it.

A block starts only where one may.
The value of a key in a block may also be a list whose items are not indented.
-/
def read (block flat : Bool) : Nat → List Token → Except Stop (Node × List Token)
  | 0, tokens => .error (unexpected tokens)
  | steps + 1, tokens =>
    match tokens with
    | .entry :: _ =>
      -- Without a block around it, a list ends at the first thing that is no item.
      if flat then do
        let (items, after) ← readFlatItems steps tokens
        return (.list items, after)
      else .error (unexpected tokens)
    | .scalar text plain :: rest => .ok (.scalar text plain, rest)
    | .openList :: rest => do
      let (items, after) ← readFlowItems true steps rest
      return (.list items, after)
    | .openMap :: rest => do
      let (entries, after) ← readFlowEntries true steps rest
      return (.map entries, after)
    | .blockList :: rest =>
      if block then do
        let (items, after) ← readItems steps rest
        return (.list items, after)
      else .error (unexpected tokens)
    | .blockMap :: rest =>
      if block then do
        let (entries, after) ← readEntries steps rest
        return (.map entries, after)
      else .error (unexpected tokens)
    | _ => .error (unexpected tokens)

/-- The items of a block. -/
def readItems : Nat → List Token → Except Stop (List Node × List Token)
  | 0, tokens => .error (unexpected tokens)
  | steps + 1, tokens =>
    match tokens with
    | .blockEnd :: rest => .ok ([], rest)
    | .entry :: rest => do
      let (item, after) ←
        if isOmittedItem rest then pure (empty, rest) else read true false steps rest
      let (items, after) ← readItems steps after
      return (item :: items, after)
    | _ => .error (unexpected tokens)

/-- The items of a list that is not indented; whatever is no item ends it. -/
def readFlatItems : Nat → List Token → Except Stop (List Node × List Token)
  | 0, tokens => .error (unexpected tokens)
  | steps + 1, tokens =>
    match tokens with
    | .entry :: rest => do
      let (item, after) ←
        -- The map around it may go on right away, since nothing marks the end of the list.
        if isOmittedItem rest || isOmitted rest then pure (empty, rest)
        else read true false steps rest
      let (items, after) ← readFlatItems steps after
      return (item :: items, after)
    | _ => .ok ([], tokens)

/-- The value after a key of a block, if one is written. -/
def readValue : Nat → List Token → Except Stop (Node × List Token)
  | 0, tokens => .error (unexpected tokens)
  | steps + 1, tokens =>
    match tokens with
    | .value :: rest => if isOmitted rest then .ok (empty, rest) else read true true steps rest
    -- Where the tokens stop early nobody knows whether a value is written.
    | .stopped stop :: _ => .error stop
    | _ => .ok (empty, tokens)

/-- The entries of a block. -/
def readEntries : Nat → List Token → Except Stop (List (Node × Node) × List Token)
  | 0, tokens => .error (unexpected tokens)
  | steps + 1, tokens =>
    match tokens with
    | .blockEnd :: rest => .ok ([], rest)
    | .key :: rest => do
      let (key, after) ← if isOmitted rest then pure (empty, rest) else read true true steps rest
      let (value, after) ← readValue steps after
      let (entries, after) ← readEntries steps after
      return ((key, value) :: entries, after)
    | _ => .error (unexpected tokens)

/-- The value after a key in brackets, if one is written. -/
def readFlowValue (closing : Token) : Nat → List Token → Except Stop (Node × List Token)
  | 0, tokens => .error (unexpected tokens)
  | steps + 1, tokens =>
    match tokens with
    | .value :: rest =>
      match rest with
      | token :: _ =>
        if token == .comma || token == closing then .ok (empty, rest)
        else read false false steps rest
      | [] => .error (unexpected rest)
    | .stopped stop :: _ => .error stop
    | _ => .ok (empty, tokens)

/-- The items of a list in brackets, after a comma if some came before. -/
def readFlowItems (first : Bool) : Nat → List Token → Except Stop (List Node × List Token)
  | 0, tokens => .error (unexpected tokens)
  | steps + 1, tokens => do
    match tokens with
    | .closeList :: rest => return ([], rest)
    | _ =>
      let tokens ← match first, tokens with
        | true, _ => pure tokens
        | false, .comma :: rest => pure rest
        | false, _ => throw (unexpected tokens)
      match tokens with
      -- A comma may also stand in front of the end.
      | .closeList :: rest => return ([], rest)
      | .key :: rest =>
        let (key, after) ←
          if isOmittedInFlow .closeList rest then pure (empty, rest)
          else read false false steps rest
        let (value, after) ← readFlowValue .closeList steps after
        let (items, after) ← readFlowItems false steps after
        -- A key in a list is a map of its own with this one entry.
        return (.map [(key, value)] :: items, after)
      | _ =>
        let (item, after) ← read false false steps tokens
        let (items, after) ← readFlowItems false steps after
        return (item :: items, after)

/-- The entries of a map in brackets, after a comma if some came before. -/
def readFlowEntries (first : Bool) : Nat → List Token →
    Except Stop (List (Node × Node) × List Token)
  | 0, tokens => .error (unexpected tokens)
  | steps + 1, tokens => do
    match tokens with
    | .closeMap :: rest => return ([], rest)
    | _ =>
      let tokens ← match first, tokens with
        | true, _ => pure tokens
        | false, .comma :: rest => pure rest
        | false, _ => throw (unexpected tokens)
      match tokens with
      | .closeMap :: rest => return ([], rest)
      | .key :: rest =>
        let (key, after) ←
          if isOmittedInFlow .closeMap rest then pure (empty, rest)
          else read false false steps rest
        let (value, after) ← readFlowValue .closeMap steps after
        let (entries, after) ← readFlowEntries false steps after
        return ((key, value) :: entries, after)
      | _ =>
        let (key, after) ← read false false steps tokens
        let (entries, after) ← readFlowEntries false steps after
        -- A node without a colon is a key that nothing is written for.
        return ((key, empty) :: entries, after)

end

/-- The end of the only document: marks for its end may follow it, and nothing else. -/
def readEnd (node : Option Node) (tokens : List Token) : Except Stop (Option Node) :=
  match tokens.dropWhile (· == .documentEnd) with
  | .textEnd :: _ => .ok node
  | .documentStart :: _ => .error Fault.secondDocument.stop
  | rest => .error (unexpected rest)

/-- The node of a document after the mark for its start; there may be none. -/
def readMarked (steps : Nat) (tokens : List Token) : Except Stop (Option Node) :=
  match tokens with
  | .documentStart :: _ => .error Fault.secondDocument.stop
  | .documentEnd :: _ | .textEnd :: _ => readEnd (some empty) tokens
  | _ => do
    let (node, after) ← read true false steps tokens
    readEnd (some node) after

/-- How many lists and maps may lie within one another. -/
def levelLimit : Nat := 491

/-- The tokens up to the first one that opens a list or a map below so many levels. -/
def limitLevels : Nat → List Token → List Token
  | _, [] => []
  | levels, token :: rest =>
    match token, levels with
    | .blockList, 0 | .blockMap, 0 | .openList, 0 | .openMap, 0 =>
      [.stopped (.cutShort (.tooDeep ⟨.body⟩))]
    | .blockList, levels + 1 | .blockMap, levels + 1 | .openList, levels + 1
    | .openMap, levels + 1 => token :: limitLevels levels rest
    -- What is closed gives its level back.
    | .blockEnd, levels | .closeList, levels | .closeMap, levels =>
      token :: limitLevels (levels + 1) rest
    | _, levels => token :: limitLevels levels rest

/-- The node of the only document, if there is one. -/
def ofTokens (tokens : List Token) : Except Stop (Option Node) :=
  let tokens := limitLevels levelLimit tokens
  -- A node inside of another takes at most two steps for a token of its own.
  let steps := 2 * tokens.length + 2
  match tokens with
  | .textEnd :: _ => .ok none
  -- After a mark a document is there even if nothing is written in it.
  | .documentStart :: rest => readMarked steps rest
  | _ => do
    let (node, after) ← read true false steps tokens
    readEnd (some node) after

end Node

end Themer.Yaml
