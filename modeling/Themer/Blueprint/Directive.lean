import Themer.Color.Basic
import Themer.Datum
import Themer.Disk.Basic
import Themer.Layout

/-! Directives at the head of a blueprint: how a line spells one, and what they settle. -/

namespace Themer

/-- A setting that a line asks for: its name and its value. -/
structure Directive where
  name : String
  value : String
deriving DecidableEq, Repr

namespace Directive

/-- The mark that a line with a directive starts with. -/
def mark : Char := '%'

/-- Whether a line is meant as a directive. -/
def isMarked (line : List Char) : Bool :=
  line.head? == some mark

/-- Whether a character may stand in the name of a directive. -/
def isNameChar (c : Char) : Bool :=
  Text.isWord c || c == '-'

/--
The value that follows the space after a name.

Blanks in front of it do not count, and it has no line break in it.
Where nothing but blanks follows, the last of them is the value.
-/
def value? (text : List Char) : Option (List Char) :=
  -- All blanks are skipped, but the last is given back where nothing else is left for a value.
  let blanks := text.takeWhile Text.isBlank
  match text.dropWhile Text.isBlank with
  | [] => match blanks.getLast? with
    | some '\n' => none
    | some last => some [last]
    | none => none
  -- Blanks at the end belong to the value, a break anywhere in it spoils the line.
  | value => if value.contains '\n' then none else some value

/-- The directive that a line spells: the mark, a name, a space and a value. -/
def read? (line : List Char) : Option Directive :=
  match line with
  | c :: rest =>
    if c = mark then
      match rest.takeWhile isNameChar, rest.dropWhile isNameChar with
      | [], _ => none
      -- One space ends the name, and no other blank does.
      | name, ' ' :: text => (value? text).map fun value =>
          ⟨String.ofList name, String.ofList value⟩
      | _, _ => none
    else none
  | [] => none

/-- The directive that names a format. -/
def formatName : String := "color-format"

/-- The directive that names a directory for the output. -/
def directoryName : String := "output-directory"

end Directive

/-- Why a line settles nothing. -/
inductive DirectiveError
  | malformed (line : String)
  | unknownName (name line : String)
  | unknownFormat (value line : String)
  | missingDirectory (path : Path) (line : String)
  | notDirectory (path : Path) (line : String)
  | closed
  | os (e : OsError)
deriving DecidableEq, Repr

/-- The message for a line that settles nothing. -/
def DirectiveError.message : DirectiveError → String
  | .malformed line => s!"Ill formed directive `{line}`."
  | .unknownName name _ =>
    s!"Invalid directive `{name}`. Valid directives are `{Directive.formatName}`, " ++
      s!"`{Directive.directoryName}`."
  | .unknownFormat value _ =>
    s!"Invalid color format `{value}`. Valid color formats are {Format.listed}."
  | .missingDirectory path _ => s!"Output directory `{path.text}` doesn't exist."
  | .notDirectory path _ => s!"Output directory `{path.text}` is not a directory."
  | .closed => "Directives can't change once the blueprint body has started"
  | .os e => e.message

/-- What the head of a blueprint has settled so far, and whether its body has started. -/
structure Head where
  format : Format
  directory : Path
  closed : Bool
deriving DecidableEq, Repr

namespace Head

/-- The head as a message shows it. -/
def shown (head : Head) : String :=
  let format := Text.quoted head.format.name
  let directory := Text.quoted head.directory.text
  let closed := Datum.shown (.flag head.closed)
  s!"DirectiveState(color_format={format}, output_directory={directory}, sealed={closed})"

/-- The head once the body has started. -/
def close (head : Head) : Head :=
  { head with closed := true }

/-- The head with another format. -/
def setFormat (head : Head) (line value : String) : Except DirectiveError Head :=
  match Format.ofName? value with
  | some format => .ok { head with format }
  | none => .error (.unknownFormat value line)

/-- The head with another directory, which has to be there. -/
def setDirectory (home : Path) (disk : Disk) (head : Head) (line value : String) :
    Except DirectiveError Head :=
  let path := Path.expandHome home value
  match disk.look path with
  | .error e => .error (.os e)
  -- What is not there is told apart from what is there and is no directory.
  | .ok none => .error (.missingDirectory path line)
  | .ok (some .directory) => .ok { head with directory := path }
  | .ok (some _) => .error (.notDirectory path line)

/-- The directive of a line, and the head with what it settles. -/
def apply (home : Path) (disk : Disk) (head : Head) (line : String) :
    Except DirectiveError (Directive × Head) :=
  -- Once closed, no line is even read.
  if head.closed then .error .closed
  else match Directive.read? line.toList with
    | none => .error (.malformed line)
    | some directive =>
      if directive.name = Directive.formatName then
        (head.setFormat line directive.value).map fun head => (directive, head)
      else if directive.name = Directive.directoryName then
        (head.setDirectory home disk line directive.value).map fun head => (directive, head)
      -- The name is judged before the value, which may be anything for a name nobody knows.
      else .error (.unknownName directive.name line)

end Head

end Themer
