import Themer.Failure

/-! What can be wrong with a YAML document. -/

namespace Themer.Yaml

/-- Why a text is no YAML document, or none whose values are known here. -/
inductive Fault
  | unreadableCharacter (c : Char)
  | noTokenStart (c : Char)
  | keyWithoutColon
  | entryOutOfPlace
  | keyOutOfPlace
  | valueOutOfPlace
  | unterminatedQuote
  | separatorInQuote
  | unknownEscape
  | unexpectedToken
  | secondDocument
  | collectionAsKey
  | indicatorAsValue
deriving DecidableEq, Repr

/-- Why a document gives no value. -/
abbrev Stop := Failure Fault

/-- The stop at a fault. -/
def Fault.stop (fault : Fault) : Stop := .reported fault

end Themer.Yaml
