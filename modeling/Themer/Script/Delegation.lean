import Themer.Script.Options
import Themer.Script.Pieces

/-! The programs that have other programs run: under other variables, or for the items read. -/

namespace Themer.Script

open Act

/-- What runs a program that is named first among some words, and what it names if nothing. -/
structure Starter where
  start : Chars → List Chars → Act Nat
  fault? : Shell → Chars → Option (Nat × String)

/-- Does something as a child does, whose last status is told. -/
def asChild (act : Act Nat) : Act Nat := do
  match ← apart (do setStatus (← act)) with
  -- What never ends cannot have a status.
  | some .stalled => throw .stalled
  | some (.killed signal) => return 128 + signal
  | _ => return (← get).status

/-- The name and the value that a word with an equals sign sets. -/
def settingOf (word : Chars) : Chars × Chars :=
  (word.takeWhile (· != '='), (word.dropWhile (· != '=')).drop 1)

/-- Changes the variables that a child has: only exported ones are left, without some names. -/
def keepVariables (keeps : Chars → Bool) : Act Unit :=
  modify fun shell =>
    { shell with
      parameters := shell.parameters.filter fun (name, var) => var.isExported && keeps name }

/-- Sets a variable that a child has. -/
def giveVariable (setting : Chars × Chars) : Act Unit :=
  modify (·.putVariable setting.1 (some ⟨some setting.2, true, false⟩))

/-- Runs a program in a changed environment, or writes that if no program is named. -/
def runInEnvironment (starter : Starter) : Program := fun words => do
  let options := Options.read ['u'] false words
  let isEmpty := options.has 'i' || options.words.head? == some ['-']
  let words := if options.words.head? = some ['-'] then options.words.drop 1 else options.words
  if let some option := options.letters.find? fun (letter, _) => letter != 'i' && letter != 'u' then
    return ← refuseOption "env" 125 option
  let settings := (words.takeWhile (·.contains '=')).map settingOf
  let dropped := options.letters.filterMap fun (letter, name) =>
    if letter = 'u' then some name else none
  asChild do
    keepVariables fun name => !isEmpty && !dropped.contains name
    -- They come after the names that are dropped, so a name may be set again.
    settings.forM giveVariable
    -- Without a search path, the usual places are searched.
    if ((← get).value? "PATH".toList).isNone then
      modify (·.putVariable "PATH".toList (some ⟨some "/bin:/usr/bin".toList, false, false⟩))
    match words.drop settings.length with
    | [] =>
      for (name, value) in (← get).exported do
        write 1 (name ++ '=' :: value ++ ['\n'])
      return 0
    | name :: rest =>
      match starter.fault? (← get) name with
      | some (status, text) =>
        report "env" (bentQuotes name ++ ": ".toList ++ text.toList)
        return status
      | none => starter.start name rest

/--
The items of a text, where a quote may be open and an item begun, its last character first.

Quotes and backslashes keep blanks in an item, and a quote has to end on its line.
-/
def itemsFrom (byLines : Bool) : Option Char → Option Chars → Chars → Except Char (List Chars)
  -- A quote that is open at the end is at fault, however much was read before.
  | some quote, _, [] => .error quote
  | none, begun, [] => .ok (begun.map List.reverse).toList
  | some quote, begun, c :: rest =>
    if c = quote then itemsFrom byLines none begun rest
    else if c = '\n' then .error quote
    else itemsFrom byLines (some quote) (some (c :: begun.getD [])) rest
  -- Behind a backslash any character is one of the item, a line end as well.
  | none, begun, '\\' :: c :: rest => itemsFrom byLines none (some (c :: begun.getD [])) rest
  | none, begun, c :: rest =>
    if c = '\'' || c = '"' then itemsFrom byLines (some c) (some (begun.getD [])) rest
    else if c = '\n' || (!byLines && (c = ' ' || c = '\t')) then
      (itemsFrom byLines none none rest).map ((begun.map List.reverse).toList ++ ·)
    -- Where lines are items, only blanks in front of them are passed over.
    else if (c = ' ' || c = '\t') && begun.isNone then itemsFrom byLines none none rest
    else itemsFrom byLines none (some (c :: begun.getD [])) rest

/-- The items that a separator ends. -/
def itemsBefore (separator : Char) (text : Chars) : List Chars :=
  let items := splitAt separator text
  if items.getLast? = some [] then items.dropLast else items

/-- The items that some options say a text is made of. -/
def itemsFor (options : Options) (text : Chars) : Except Char (List Chars) :=
  match options.has '0', options.argument? 'd' with
  | true, _ => .ok (itemsBefore '\x00' text)
  | _, some ['\\', 'n'] => .ok (itemsBefore '\n' text)
  | _, some ['\\', 't'] => .ok (itemsBefore '\t' text)
  | _, some (separator :: _) => .ok (itemsBefore separator text)
  | _, _ => itemsFrom (options.has 'I') none none text

/-- The commands that some options say are run for some items. -/
def commandsFor (options : Options) (command items : List Chars) : List (List Chars) :=
  match options.argument? 'I', (options.argument? 'n').bind fun n => (String.ofList n).toNat? with
  | some mark, _ =>
    items.map fun item => command.map fun word => replaceAll mark item word.length word
  | none, size? =>
    let groups := chunks (size?.getD items.length) items.length items
    -- Without any item the command is run once, unless that is turned off.
    let groups := if groups.isEmpty && !options.has 'r' then [[]] else groups
    groups.map (command ++ ·)

/-- Runs some commands one after the other, up to one that cannot be run; the status of all. -/
def runInTurn (starter : Starter) : Nat → List (List Chars) → Act Nat
  | status, [] => return status
  | status, command :: rest => do
    let name := command.head?.getD []
    match starter.fault? (← get) name with
    | some (status, text) =>
      report "xargs" (name ++ ": ".toList ++ text.toList)
      return status
    | none =>
      let result ← asChild (starter.start name (command.drop 1))
      -- The status with which a command asks for an end to all of it.
      if result = 255 then
        report "xargs" (name ++ ": exited with status 255; aborting".toList)
        return 124
      else if result > 128 then
        report "xargs" (name ++ ": terminated by signal ".toList ++ decimal (result - 128))
        return 125
      -- One that fails does not stop the others, and it is remembered.
      else runInTurn starter (if result = 0 then status else 123) rest

/-- Runs a program for the items that are read. -/
def runForItems (starter : Starter) : Program := fun words => do
  let options := Options.read ['n', 'I', 'd', 'L', 'P', 's'] false words
  let command := if options.words.isEmpty then ["echo".toList] else options.words
  match itemsFor options (← readAll 0) with
  | .error quote =>
    let name := if quote = '"' then "double" else "single"
    report "xargs" (s!"unmatched {name} quote; by default quotes are special to xargs " ++
      "unless you use the -0 option").toList
    return 1
  | .ok items => runInTurn starter 0 (commandsFor options command items)

end Themer.Script
