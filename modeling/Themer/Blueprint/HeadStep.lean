import Themer.Blueprint.Directive

/-! The head of a blueprint settled step by step, with what is left of it where a step fails. -/

namespace Themer

/-- Work on a head changes it, and ends with a value or fails; what was changed by then stays. -/
abbrev HeadWork (α : Type) : Type := ExceptT DirectiveError (StateM Head) α

namespace HeadWork

/-- Settles on the format of a given name. -/
def setFormat (line value : String) : HeadWork Unit :=
  match Format.ofName? value with
  | some format => modify fun head => { head with format }
  | none => throw (.unknownFormat value line)

/-- The answer of a look at the disk. -/
def seen {α : Type} : Except OsError α → HeadWork α
  | .ok answer => pure answer
  | .error e => throw (.os e)

/-- Settles on a directory, which has to be there. -/
def setDirectory (home : Path) (disk : Disk) (line value : String) : HeadWork Unit := do
  -- What is missing is no directory either, and that it is missing is what is told.
  let path := Path.expandHome home value
  if !(← seen (disk.isThere path)) then throw (.missingDirectory path line)
  if !(← seen (disk.isDirectory path)) then throw (.notDirectory path line)
  modify fun head => { head with directory := path }

/-- Settles on what the directive of a line asks for, as long as the body has not started. -/
def apply (home : Path) (disk : Disk) (line : String) : HeadWork Directive := do
  -- Nothing of the line is looked at any more once the body has started.
  if (← get).closed then throw .closed
  match Directive.read? line.toList with
  | none => throw (.malformed line)
  | some directive =>
    if directive.name = Directive.formatName then setFormat line directive.value
    else if directive.name = Directive.directoryName then
      setDirectory home disk line directive.value
    -- A name that is none of the two is not passed over.
    else throw (.unknownName directive.name line)
    return directive

end HeadWork

/-- A step in the making of a head: the body starts, or a line is applied with the disk as it is. -/
inductive HeadStep
  | close
  | apply (disk : Disk) (line : String)

namespace HeadStep

/-- How a step ends; only a line that is applied has a directive. -/
abbrev Outcome : Type := Except DirectiveError (Option Directive)

/-- What a step does. -/
def work (home : Path) : HeadStep → HeadWork (Option Directive)
  | .close => do
    modify Head.close
    return none
  | .apply disk line => some <$> HeadWork.apply home disk line

/-- How a step ends from a given head, and the head after it. -/
def run (home : Path) (head : Head) (step : HeadStep) : Outcome × Head :=
  (step.work home).run.run head

/-- How each of some steps ends, whether those before it failed or not. -/
def takeAll (home : Path) (steps : List HeadStep) : StateM Head (List (HeadStep × Outcome)) :=
  steps.mapM fun step => do
    let outcome ← (step.work home).run
    return (step, outcome)

end HeadStep

end Themer
