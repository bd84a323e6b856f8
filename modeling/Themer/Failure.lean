import Themer.Datum
import Themer.Disk.Basic

/-! How an operation fails: with a problem of its own to report, or cut short from outside. -/

namespace Themer

/-- The uses of a value that was asked for and is not there. -/
inductive MissingValue
  | settingsPath
  | blueprintName
  | order
deriving DecidableEq, Repr

/-- The message for a use of a value that is not there. -/
def MissingValue.message : MissingValue → String
  | .settingsPath => "expected str, bytes or os.PathLike object, not list"
  | .blueprintName => "unsupported operand type(s) for /: 'PosixPath' and 'list'"
  -- The missing value is an empty list, and the words are those of whatever first trips over it.
  | .order => "unhashable type: 'list'"

/-- What cuts an operation short before it comes to a problem of its own. -/
inductive Interruption
  | denied (e : Denial)
  | tooManyDigits (e : TooManyDigits)
  | tooManyToWrite
  | badNumeral (e : EmptyNumeral)
  | tooDeep (e : TooDeep)
  | notMap (e : NotMap)
  | notUtf8 (e : Text.Utf8.Failure)
  | noCharacter
  | codeOutOfBounds
  | missingValue (use : MissingValue)
  /-- Whatever else comes from outside, by its message. -/
  | foreign (message : String)
  /-- Something that is waited for and does not come to an end. -/
  | endless
deriving DecidableEq, Repr

/-- The message of an interruption; what has no end has none, and this says only that. -/
def Interruption.message : Interruption → String
  | .denied e => e.message
  | .tooManyDigits e => e.message
  | .tooManyToWrite => tooLongToWriteText
  | .badNumeral e => e.message
  | .tooDeep e => e.message
  | .notMap e => e.message
  | .notUtf8 e => e.message
  | .noCharacter => "chr() arg not in range(0x110000)"
  | .codeOutOfBounds => "Python int too large to convert to C int"
  | .missingValue use => use.message
  | .foreign message => message
  | .endless => "no end has been seen"

/-- The interruption that comes of showing a value that cannot be shown. -/
def Unshown.interruption : Unshown → Interruption
  | .tooLong => .tooManyToWrite
  | .tooDeep e => .tooDeep e

/-- Why an operation gives nothing: a problem that it reports, or an interruption. -/
inductive Failure (ε : Type)
  | reported (problem : ε)
  | cutShort (cause : Interruption)
deriving DecidableEq, Repr

/-- The same failure with the problem seen as part of something greater. -/
def Failure.map {ε δ : Type} (f : ε → δ) : Failure ε → Failure δ
  | .reported problem => .reported (f problem)
  | .cutShort cause => .cutShort cause

end Themer
