import Themer.Command.Grammar

/-!
The options and words of a command line, told apart.

A name of two dashes may be cut short where only one option goes on like it.
Names of one dash may share a single dash, and a value may follow its option without a gap.
-/

namespace Themer.Command

/-- The mark after which nothing is an option. -/
def terminator : String := "--"

/--
An argument that is taken for an option, and the value that stands in it.

The value follows after an equals sign, or directly after a name of one dash.
-/
structure Reading where
  option : Option Opt
  short : Bool
  value : Option (List Char)
deriving DecidableEq, Repr

/-- What an argument is taken for before its turn has come. -/
inductive Role
  | word
  | terminator
  | option (reading : Reading)
deriving DecidableEq, Repr

namespace Grammar

/-- Every name of an option, with the option. -/
def names (grammar : Grammar) : List (String × Opt) :=
  grammar.options.flatMap fun option => option.names.map (·, option)

/-- The option of a name. -/
def find? (grammar : Grammar) (name : String) : Option Opt := grammar.names.lookup name

end Grammar

/-- A text up to its first equals sign, and what comes after that. -/
def cut (text : String) : String × Option (List Char) :=
  (String.ofList (text.toList.takeWhile (· != '=')), (text.toList.dropWhile (· != '=')).tail?)

/-- Whether a name of an option has one dash only. -/
def isShort (name : String) : Bool := name.toList[1]? != some '-'

/-- Whether one text begins another. -/
def begins (start text : String) : Bool := start.toList.isPrefixOf text.toList

/-- All that an argument with dashes may be short for. -/
def readings (grammar : Grammar) (argument : String) : List (String × Reading) :=
  match argument.toList with
  | '-' :: '-' :: _ =>
    let (start, value) := cut argument
    -- What comes after the equals sign does not count for the choice.
    (grammar.names.filter fun entry => begins start entry.1).map fun (name, option) =>
      (name, ⟨some option, isShort name, value⟩)
  | '-' :: c :: tail =>
    let short := String.ofList ['-', c]
    grammar.names.filterMap fun (name, option) =>
      -- A letter with text behind it may be an option with its value or with more letters.
      if name = short then some (name, ⟨some option, true, some tail⟩)
      -- A name of one dash and several letters may be cut short like one of two dashes.
      else if begins argument name then some (name, ⟨some option, isShort name, none⟩)
      else none
  | _ => []

/-- Whether the text after a dash is a number: digits, perhaps with a point before the last ones. -/
def isNumber (text : List Char) : Bool :=
  -- A line break at the end does not count.
  let text := if text.getLast? = some '\n' then text.dropLast else text
  match text.dropWhile Text.isDigit with
  | [] => !text.isEmpty
  | '.' :: places => !places.isEmpty && places.all Text.isDigit
  | _ => false

/-- What an argument is taken for. -/
def roleOf (grammar : Grammar) (argument : String) : Except Stop Role :=
  match argument.toList with
  | '-' :: second :: rest =>
    let (name, value) := cut argument
    match grammar.find? argument, grammar.find? name with
    -- A full name goes before all that it may be short for.
    | some option, _ => .ok (.option ⟨some option, isShort argument, none⟩)
    | none, some option => .ok (.option ⟨some option, isShort name, value⟩)
    | none, none => match readings grammar argument with
      | [(_, reading)] => .ok (.option reading)
      | [] =>
        -- Not everything with a dash in front is an option: numbers are words, and so are phrases.
        if isNumber (second :: rest) || second == ' ' || rest.contains ' ' then .ok .word
        else .ok (.option ⟨none, isShort argument, none⟩)
      | several => .error (.mistaken grammar (.ambiguous argument (several.map Prod.fst)))
  | _ => .ok .word

/-- What each argument is taken for; after the terminator all of them are words. -/
def rolesOf (grammar : Grammar) : List String → Except Stop (List (String × Role))
  | [] => .ok []
  | argument :: rest =>
    if argument = terminator then
      .ok ((argument, .terminator) :: rest.map fun word => (word, .word))
    else do
      let role ← roleOf grammar argument
      return (argument, role) :: (← rolesOf grammar rest)

/-- What is given as the value of an option: the terminator in its place gives nothing. -/
inductive Value
  | given (text : String)
  | nothing
deriving DecidableEq, Repr

/-- The value that a text gives. -/
def Value.ofText (text : String) : Value :=
  if text = terminator then .nothing else .given text

/-- What a command line holds: its options in order, its words, and what belongs to nothing. -/
structure Found where
  options : List (Key × Value)
  operand : Option (List String)
  extras : List String
deriving DecidableEq, Repr

/-- What a command line without arguments holds. -/
def Found.empty : Found := ⟨[], none, []⟩

/-- The option among those found that does not go together with another. -/
def excludedBy? (grammar : Grammar) (found : Found) (option : Opt) : Option Opt :=
  if grammar.exclusive.contains option.key then
    grammar.options.find? fun other =>
      other.key != option.key && grammar.exclusive.contains other.key &&
        found.options.any (·.1 == other.key)
  else none

/-- What is found after one more option with its value; a flag has none. -/
def record (grammar : Grammar) (found : Found) (option : Opt) (value : Value) :
    Except Stop Found :=
  match option.choices, value with
  | some choices, .given text =>
    if choices.contains text then
      .ok { found with options := found.options ++ [(option.key, value)] }
    else .error (.mistaken grammar (.unknownChoice option.title text choices))
  -- An option with choices excludes no other, so only here is that looked at.
  | _, _ => match excludedBy? grammar found option with
    | some other => .error (.mistaken grammar (.excluded option other))
    | none =>
      -- With help asked for, the values and words behind it no longer matter.
      if option.key = .help then .error (.help grammar)
      else .ok { found with options := found.options ++ [(option.key, value)] }

/-- The flags that share one dash, the option that comes last, and its value if it is there. -/
structure Bundle where
  flags : List Opt
  last : Opt
  value : Option (List Char)
deriving DecidableEq, Repr

/--
The options that share the dash of an argument, from one on, with the text after its name.

The text after a flag must begin with the letter of a further option.
-/
def bundle (grammar : Grammar) (option : Opt) : List Char → Except Stop Bundle
  | [] => .ok ⟨[], option, none⟩
  | letter :: rest =>
    -- All that is left is the value, even where it spells further options.
    if option.takesValue then .ok ⟨[], option, some (letter :: rest)⟩
    else match grammar.find? (String.ofList ['-', letter]) with
      | none =>
        .error (.mistaken grammar (.unusedValue option (String.ofList (letter :: rest))))
      | some further => do
        let after ← bundle grammar further rest
        return { after with flags := option :: after.flags }

/-- The options that an argument stands for. -/
def Reading.bundle (grammar : Grammar) (reading : Reading) (option : Opt) : Except Stop Bundle :=
  match reading.value with
  | none => .ok ⟨[], option, none⟩
  | some value =>
    if option.takesValue then .ok ⟨[], option, some value⟩
    -- Behind a name of two dashes nothing else can share them.
    else if reading.short && !value.isEmpty then Command.bundle grammar option value
    else .error (.mistaken grammar (.unusedValue option (String.ofList value)))

/-- What is found after some flags, one after the other. -/
def recordFlags (grammar : Grammar) (found : Found) : List Opt → Except Stop Found
  | [] => .ok found
  | flag :: rest => do recordFlags grammar (← record grammar found flag .nothing) rest

/-- What is found after an argument taken for an option, and the arguments that are left. -/
def takeOption (grammar : Grammar) (found : Found) (argument : String) (reading : Reading)
    (rest : List (String × Role)) : Except Stop (Found × List (String × Role)) :=
  match reading.option with
  -- It is told only in the end, when it is known that nothing else is wrong.
  | none => .ok ({ found with extras := found.extras ++ [argument] }, rest)
  | some option => do
    let bundle ← reading.bundle grammar option
    -- All of the argument is understood before any of it has an effect.
    let (value, rest) ← match bundle.value, bundle.last.takesValue, rest with
      | some value, _, _ => pure (Value.ofText (String.ofList value), rest)
      | none, false, _ => pure (.nothing, rest)
      -- Of the arguments behind it only a word can be a value.
      | none, true, (word, .word) :: after => pure (Value.ofText word, after)
      | none, true, _ => throw (.mistaken grammar (.missingValue bundle.last))
    let found ← recordFlags grammar found bundle.flags
    return (← record grammar found bundle.last value, rest)

/-- Whether an argument is the terminator. -/
def isTerminator (entry : String × Role) : Bool := entry.2 == .terminator

/-- The words that an operand takes from some arguments, and those that are left. -/
def takeWords? (operand : Operand) (arguments : List (String × Role)) :
    Option (List String × List (String × Role)) :=
  let marks := arguments.takeWhile isTerminator
  match arguments.dropWhile isTerminator with
  | (word, .word) :: rest => match operand.reach with
    | .one =>
      -- The terminator before or after a word is no word; a second one would be.
      let after := rest.dropWhile isTerminator
      some ([word], after)
    -- What is for the command itself is left as it was written, terminators included.
    | .rest => some (marks.map Prod.fst ++ word :: rest.map Prod.fst, [])
  | _ => none

/-- What is found after the operand, if it is still wanted and some words stand here. -/
def takeOperand (grammar : Grammar) (found : Found) (arguments : List (String × Role)) :
    Except Stop (Found × List (String × Role)) :=
  match grammar.operand, found.operand with
  | some operand, none => match takeWords? operand arguments with
    | some (words, rest) => match operand.choices, words with
      | some choices, first :: _ =>
        if choices.contains first then .ok ({ found with operand := some words }, rest)
        else .error (.mistaken grammar (.unknownChoice operand.name first choices))
      | _, _ => .ok ({ found with operand := some words }, rest)
    | none => .ok (found, arguments)
  | _, _ => .ok (found, arguments)

/-- Whether an argument is taken for an option. -/
def isOption (entry : String × Role) : Bool :=
  match entry.2 with
  | .option _ => true
  | _ => false

/--
What some arguments hold, for at most so many steps.

Words before an option go to the operand as far as it takes them, and are left over else.
-/
def collect (grammar : Grammar) : Nat → Found → List (String × Role) → Except Stop Found
  | 0, found, _ => .ok found
  | steps + 1, found, arguments =>
    -- Without any option ahead, whatever the operand does not take belongs to nothing.
    if !arguments.any isOption then do
      let (found, rest) ← takeOperand grammar found arguments
      return { found with extras := found.extras ++ rest.map Prod.fst }
    else match arguments with
      | (argument, .option reading) :: rest => do
        let (found, rest) ← takeOption grammar found argument reading rest
        collect grammar steps found rest
      | _ => do
        let (found, rest) ← takeOperand grammar found arguments
        -- Each step takes at least one argument, here or in the words left over below.
        if rest.length < arguments.length then collect grammar steps found rest
        else
          let words := arguments.takeWhile fun entry => !isOption entry
          let found := { found with extras := found.extras ++ words.map Prod.fst }
          collect grammar steps found (arguments.drop words.length)

/-- What some arguments hold, their operand included. -/
def Grammar.read (grammar : Grammar) (arguments : List String) : Except Stop Found := do
  let roles ← rolesOf grammar arguments
  let found ← collect grammar (2 * arguments.length + 2) Found.empty roles
  match grammar.operand, found.operand with
  | some operand, none => throw (.mistaken grammar (.missing operand.name))
  | _, _ => return found

/-- How much is told on the terminal. -/
inductive Loudness
  | quiet
  | usual
  | verbose
deriving DecidableEq, Repr

/-- What a command is to do. -/
inductive Action
  | load (scheme : String)
  | reload (blueprints : List Value) (withScript : Bool)
  | list (dark light : Bool) (order : Value)
deriving DecidableEq, Repr

/-- What a command line asks for. -/
structure Request where
  loudness : Loudness
  config : Option Value
  action : Action
deriving DecidableEq, Repr

namespace Found

/-- Whether an option was given. -/
def has (found : Found) (key : Key) : Bool := found.options.any (·.1 == key)

/-- The values of an option, in order. -/
def values (found : Found) (key : Key) : List Value :=
  found.options.filterMap fun option => if option.1 = key then some option.2 else none

/-- How much is to be told. -/
def loudness (found : Found) : Loudness :=
  if found.has .quiet then .quiet else if found.has .verbose then .verbose else .usual

/-- What a command is to do with what was found after its name. -/
def action (found : Found) : Name → Action
  | .load => .load ((found.operand.bind List.head?).getD "")
  | .reload => .reload (found.values .blueprint) (!found.has .noScript)
  | .list => .list (found.has .dark) (found.has .light)
      (((found.values .sortBy).getLast?).getD (.given "name"))

end Found

/-- What a command line asks for, unless help is asked for or there is a mistake in it. -/
def Request.read (arguments : List String) : Except Stop Request := do
  let found ← Grammar.top.read arguments
  let words := found.operand.getD []
  match Name.ofText? ((words.head?).getD "") with
  | none => throw (.mistaken .top (.missing "command"))
  | some name =>
    -- What is wrong behind the name of a command is told before what belongs to nothing.
    let inner ← name.grammar.read (words.drop 1)
    let extras := found.extras ++ inner.extras
    if !extras.isEmpty then throw (.mistaken .top (.unknown extras))
    return ⟨found.loudness, (found.values .config).getLast?, inner.action name⟩

end Themer.Command
