import Themer.Script.Reader
import Themer.Script.Shell

/-! The course of a shell: its script line by line, the signals it heeds, and its end. -/

namespace Themer.Script

namespace Act

/-- Carries out the lines of a script from a place on, for at most so many steps. -/
def runLines (carry : Carry) (tested : Bool) : Nat → Cursor → Act Unit
  | 0, _ => pure ()
  | steps + 1, cursor =>
    match cursor.readLine with
    -- The lines before it have been carried out by now.
    | .error fault => do
      modify ({ · with line := fault.line })
      fail fault.error.text.toList
    | .ok (none, cursor) =>
      -- An empty line is no end: there may be more behind it.
      if cursor.rest.isEmpty then pure () else runLines carry tested steps cursor
    | .ok (some command, cursor) => do
      modify ({ · with lineAhead := cursor.line })
      carry tested command
      runLines carry tested steps cursor

/-- Carries out a script. -/
def runText (carry : Carry) (tested : Bool) (text : Chars) : Act Unit := do
  let lineAhead := (← get).lineAhead
  try
    runLines carry tested (text.length + 1) (Cursor.start text 1)
    modify ({ · with lineAhead })
  catch leap =>
    modify ({ · with lineAhead })
    throw leap

/-- Heeds the signals that have come: each ends the shell, or is trapped. -/
def heedSignals (carry : Carry) : Act Unit := do
  let shell ← get
  -- A shell within another one leaves its signals to that one.
  if shell.level = 0 then
    let (own, others) := shell.pending.partition (·.1 == shell.number)
    if !own.isEmpty then set { shell with pending := others }
    for (_, signal) in own do
      match (← get).traps.lookup signal with
      -- A signal without a trap ends the shell at once, and those after it are not looked at.
      | none => throw (.killed signal)
      | some action =>
        let status := (← get).status
        try runText carry false action
        catch
          -- An exit without a status in a trap has the one from before the trap.
          | .exited none => throw (.exited (some status))
          | leap => throw leap
        setStatus status

/-- Does something up to the end of its shell, where the trap for that end is carried out. -/
def toEnd (carry : Carry) (act : Act Unit) : Act Unit := do
  try act
  catch
    | .killed signal => throw (.killed signal)
    | .stalled => throw .stalled
    | .exited (some status) => setStatus status
    | _ => pure ()
  let shell ← get
  if let some action := shell.traps.lookup 0 then
    -- It is taken out first, or an exit inside of it would run it again.
    set { shell with traps := shell.traps.filter (·.1 != 0) }
    try
      runText carry false action
      setStatus shell.status
    catch
      | .killed signal => throw (.killed signal)
      | .stalled => throw .stalled
      | .exited (some status) => setStatus status
      | .failed => pure ()
      | _ => setStatus shell.status

/-- Does something as a shell within the shell does. -/
def within (carry : Carry) (act : Act Unit) : Act Unit := do
  match ← apart (toEnd carry act) with
  | some (.killed signal) => setStatus (128 + signal)
  | some .stalled => throw .stalled
  | _ => pure ()

/-- What some work writes to its output, as a shell within the shell; its status stays. -/
def outputOf (carry : Carry) (act : Act Unit) : Act Chars := do
  let number := (← get).streams.length
  connected do
    modify (·.openStream 1 (.text [] 0))
    within carry act
  match (← get).streams[number]? with
  -- What was written stands in a stream of its own that nobody else has.
  | some (.text content _) => return charsOf content
  | _ => return []

end Act

end Themer.Script
