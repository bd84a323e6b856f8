import Themer.Blueprint.Directive
import Themer.Blueprint.Placeholder
import Themer.Failure
import Themer.Notice
import Themer.Text.Lines

/-! One blueprint rendered: its head settles where and how, and its body gets its colors. -/

namespace Themer

/-- What is wrong with a blueprint. -/
inductive BlueprintFault
  | directive (e : DirectiveError)
  | notUtf8 (e : Text.Utf8.Failure)
  | unreadable (e : OsError)
  | unwritable (output : Path) (e : OsError)
deriving DecidableEq, Repr

/-- A blueprint that cannot be built, and what is wrong with it. -/
structure BlueprintError where
  source : Path
  fault : BlueprintFault
deriving DecidableEq, Repr

/-- The line that a directive fails on, if a line is at fault. -/
def DirectiveError.line? : DirectiveError → Option String
  | .malformed line | .unknownName _ line | .unknownFormat _ line | .missingDirectory _ line
  | .notDirectory _ line => some line
  | .closed | .os _ => none

/-- The message for a fault. -/
def BlueprintFault.message : BlueprintFault → String
  | .directive e => e.message
  | .notUtf8 e => e.message
  | .unreadable e => e.message
  | .unwritable output e => s!"Can't write `{output.text}`: {e.message}"

/-- The line at fault, if a line is. -/
def BlueprintFault.line? : BlueprintFault → Option String
  | .directive e => e.line?
  | _ => none

/-- The message names the blueprint. -/
def BlueprintError.message (e : BlueprintError) : String :=
  s!"While parsing blueprint `{e.source.text}`. {e.fault.message}"

/-- The message for a placeholder of a given blueprint that stays empty. -/
def Warning.message (blueprint : String) : Warning → String
  | .noColor expression =>
    s!"While parsing blueprint `{blueprint}`. An error occurred while retrieving color " ++
      s!"`{expression}`. Can't replace it in the blueprint."
  | .noFormat expression format =>
    s!"While parsing blueprint `{blueprint}`. An error occurred while formatting color " ++
      s!"`{expression}` as `{format}`. Can't replace it in the blueprint."

/-- The notice for a placeholder of a given blueprint that stays empty. -/
def Warning.notice (blueprint : String) (warning : Warning) : Notice :=
  ⟨.warning, warning.message blueprint⟩

/-- What every rendering starts from: the home directory, and what a head may settle anew. -/
structure Defaults where
  home : Path
  format : Format
  directory : Path
deriving DecidableEq, Repr

/-- The head of a blueprint before its first line. -/
def Defaults.head (defaults : Defaults) : Head :=
  ⟨defaults.format, defaults.directory, false⟩

/-- A blueprint with its colors in place, ready to be written. -/
structure Rendered where
  source : Path
  directory : Path
  format : Format
  text : List Char
deriving DecidableEq, Repr

/-- Where a rendered blueprint goes: under its own name into the directory it settled on. -/
def Rendered.output (rendered : Rendered) : Path :=
  rendered.directory.child rendered.source.name

/-- What some lines come to: a head or the directive that failed, and all that happened so far. -/
structure Progress where
  head : Except DirectiveError Head
  text : List Char
  palette : Palette
  warnings : List Warning

/--
What some lines come to from a given head on.

As long as the head is open, marked lines are directives.
The first line that is not marked closes it, and from there on every line is part of the body.
-/
def renderFrom (home : Path) (disk : Disk) (head : Head) (palette : Palette) :
    List (List Char) → Progress
  | [] => ⟨.ok head, [], palette, []⟩
  | raw :: rest =>
    let line := Text.stripBreaks raw
    -- After the first line of the body a mark is a character like any other.
    if !head.closed && Directive.isMarked line then
      match head.apply home disk (String.ofList line) with
      -- The lines after it are not even looked at.
      | .error e => ⟨.error e, [], palette, []⟩
      | .ok (_, head) => renderFrom home disk head palette rest
    else
      let first := resolveLine head.format.name palette line
      -- A color that one line asks for is known to the lines below it.
      let after := renderFrom home disk head.close first.palette rest
      -- Whether all of it succeeds is up to the lines below.
      { after with
        text := first.text ++ '\n' :: after.text
        warnings := first.warnings ++ after.warnings }

/-- What became of a blueprint, the palette after it, and the notices on the way. -/
structure Rendering where
  outcome : Except (Failure BlueprintError) Rendered
  palette : Palette
  notices : List Notice

/-- The rendering that some progress amounts to, if nothing else is in its way. -/
def Progress.rendering (source : Path) (progress : Progress) : Rendering where
  -- A directive fails in front of the body, so no text is lost where there is no head.
  outcome := match progress.head with
    | .ok head => .ok ⟨source, head.directory, head.format, progress.text⟩
    | .error e => .error (.reported ⟨source, .directive e⟩)
  palette := progress.palette
  notices := progress.warnings.map (Warning.notice source.text)

namespace Defaults

/-- What some lines come to. -/
def progress (defaults : Defaults) (disk : Disk) (palette : Palette) (lines : List (List Char)) :
    Progress :=
  renderFrom defaults.home disk defaults.head palette lines

/--
The rendering of a blueprint given by its lines, with or without the breaks at their ends.

Here nobody is reading a file, so an error of the system is not one of the blueprint.
-/
def renderLines (defaults : Defaults) (disk : Disk) (palette : Palette) (source : Path)
    (lines : List (List Char)) : Rendering :=
  let progress := defaults.progress disk palette lines
  match progress.head with
  | .error (.os e) =>
    { progress.rendering source with outcome := .error (.cutShort (.denied (.os e))) }
  | _ => progress.rendering source

/-- The lines of a text, whatever breaks they end in. -/
def linesOf (text : List Char) : List (List Char) :=
  Text.splitLines (Text.unifyBreaks text)

/-- The rendering of a blueprint given by its text. -/
def renderText (defaults : Defaults) (disk : Disk) (palette : Palette) (source : Path)
    (text : List Char) : Rendering :=
  defaults.renderLines disk palette source (linesOf text)

/--
The lines that are complete where a file cannot be read on.

A carriage return at the very end may still be half of a break.
-/
def completeLines (text : List Char) : List (List Char) :=
  let settled := match text.getLast? with
    | some '\r' => text.dropLast
    | _ => text
  Text.endedLines (Text.unifyBreaks settled)

/--
The rendering of a blueprint given by the bytes of its file.

Bytes that cannot be read are reported unless a line before them fails.
-/
def renderBytes (defaults : Defaults) (disk : Disk) (palette : Palette) (source : Path)
    (bytes : Text.Bytes) : Rendering :=
  match Text.Utf8.decodeFile bytes with
  | (text, none) => (defaults.progress disk palette (linesOf text)).rendering source
  | (text, some failure) =>
    let rendering := (defaults.progress disk palette (completeLines text)).rendering source
    -- What failed first in the file is what is told.
    match rendering.outcome with
    | .ok _ => { rendering with outcome := .error (.reported ⟨source, .notUtf8 failure⟩) }
    | .error _ => rendering

/-- The rendering of the blueprint in a file. -/
def renderFile (defaults : Defaults) (disk : Disk) (palette : Palette) (source : Path) :
    Rendering :=
  let rendering := match disk.readFile source with
    | .ok bytes => defaults.renderBytes disk palette source bytes
    | .error (.os e) => ⟨.error (.reported ⟨source, .unreadable e⟩), palette, []⟩
    | .error other => ⟨.error (.cutShort (.denied other)), palette, []⟩
  { rendering with
    notices := ⟨.debug, s!"Rendering blueprint {source.text}"⟩ :: rendering.notices }

end Defaults

end Themer
