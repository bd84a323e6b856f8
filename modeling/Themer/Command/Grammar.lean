import Themer.Command.Usage
import Themer.Listing

/-! What a command line may hold: the options of each command, and the words it takes. -/

namespace Themer.Command

/-- The options by what they are for. -/
inductive Key
  | help
  | quiet
  | verbose
  | config
  | blueprint
  | noScript
  | dark
  | light
  | sortBy
deriving DecidableEq, Repr

/-- An option: its names, whether a value belongs to it, and the values there are if not all. -/
structure Opt where
  key : Key
  names : List String
  takesValue : Bool
  choices : Option (List String)
deriving DecidableEq, Repr

/-- How many words a command takes: exactly one, or all that are left. -/
inductive Reach
  | one
  | rest
deriving DecidableEq, Repr

/-- The words that a command takes beside its options. -/
structure Operand where
  name : String
  reach : Reach
  choices : Option (List String)
deriving DecidableEq, Repr

/-- What one command takes, and how it explains itself. -/
structure Grammar where
  program : String
  usage : List String
  help : List String
  options : List Opt
  exclusive : List Key
  operand : Option Operand
deriving DecidableEq, Repr

/-- An option that stands for itself. -/
def Opt.flag (key : Key) (names : List String) : Opt := ⟨key, names, false, none⟩

/-- An option with a value of any kind. -/
def Opt.valued (key : Key) (names : List String) : Opt := ⟨key, names, true, none⟩

/-- The name of an option in messages. -/
def Opt.title (option : Opt) : String := "/".intercalate option.names

/-- The option that asks for help. -/
def Opt.help : Opt := .flag .help ["-h", "--help"]

/-- The commands by name. -/
inductive Name
  | load
  | reload
  | list
deriving DecidableEq, Repr

namespace Name

/-- The commands in the order messages list them. -/
def all : List Name := [.load, .reload, .list]

/-- The word for a command. -/
def text : Name → String
  | .load => "load"
  | .reload => "reload"
  | .list => "list"

/-- The command of a given word. -/
def ofText? (text : String) : Option Name := all.find? fun name => name.text == text

/-- What a command takes after its name. -/
def grammar : Name → Grammar
  | .load =>
    { program := appName ++ " load", usage := Usage.load, help := Usage.loadHelp
      options := [.help], exclusive := []
      operand := some ⟨"colorscheme", .one, none⟩ }
  | .reload =>
    { program := appName ++ " reload", usage := Usage.reload, help := Usage.reloadHelp
      options := [.help, .valued .blueprint ["--blueprint", "-b"],
        .flag .noScript ["--no-script"]]
      exclusive := [], operand := none }
  | .list =>
    { program := appName ++ " list", usage := Usage.list, help := Usage.listHelp
      options := [.help, .flag .dark ["--dark", "-d"], .flag .light ["--light", "-l"],
        ⟨.sortBy, ["--sort-by"], true, some (Order.choices.map Prod.fst)⟩]
      exclusive := [.dark, .light], operand := none }

end Name

/-- What the program takes before and after the name of a command. -/
def Grammar.top : Grammar :=
  { program := appName, usage := Usage.top, help := Usage.topHelp
    options := [.help, .flag .quiet ["--quiet", "-q"], .flag .verbose ["--verbose", "-v"],
      .valued .config ["--config"]]
    exclusive := [.quiet, .verbose]
    operand := some ⟨"command", .rest, some (Name.all.map Name.text)⟩ }

/-- What is wrong with a command line. -/
inductive Mistake
  | ambiguous (given : String) (names : List String)
  | unusedValue (option : Opt) (value : String)
  | missingValue (option : Opt)
  | excluded (option other : Opt)
  | unknownChoice (title given : String) (choices : List String)
  | missing (operand : String)
  | unknown (arguments : List String)
deriving DecidableEq, Repr

/-- The words for a mistake. -/
def Mistake.message : Mistake → String
  | .ambiguous given names =>
    s!"ambiguous option: {given} could match " ++ ", ".intercalate names
  | .unusedValue option value =>
    s!"argument {option.title}: ignored explicit argument {Text.quoted value}"
  | .missingValue option => s!"argument {option.title}: expected one argument"
  | .excluded option other =>
    s!"argument {option.title}: not allowed with argument {other.title}"
  | .unknownChoice title given choices =>
    s!"argument {title}: invalid choice: {Text.quoted given} (choose from " ++
      ", ".intercalate (choices.map Text.quoted) ++ ")"
  | .missing operand => s!"the following arguments are required: {operand}"
  | .unknown arguments => "unrecognized arguments: " ++ " ".intercalate arguments

/-- Why a command line is not carried out: help was asked for, or there is a mistake in it. -/
inductive Stop
  | help (grammar : Grammar)
  | mistaken (grammar : Grammar) (mistake : Mistake)
deriving DecidableEq, Repr

/-- What is printed for help. -/
def Grammar.helpText (grammar : Grammar) : String :=
  Usage.lines (grammar.usage ++ grammar.help)

/-- What is printed for a mistake. -/
def Grammar.mistakeText (grammar : Grammar) (mistake : Mistake) : String :=
  Usage.lines (grammar.usage ++ [s!"{grammar.program}: error: {mistake.message}"])

end Themer.Command
