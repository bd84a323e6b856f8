/-! What an operation tells on its way, beside its result. -/

namespace Themer

/-- How grave a notice is. -/
inductive Severity
  | debug
  | info
  | warning
  | error
deriving DecidableEq, Repr

/-- The word for a severity. -/
def Severity.name : Severity → String
  | .debug => "DEBUG"
  | .info => "INFO"
  | .warning => "WARNING"
  | .error => "ERROR"

/-- The rank of a severity, the gravest having the highest. -/
def Severity.rank : Severity → Nat
  | .debug => 10
  | .info => 20
  | .warning => 30
  | .error => 40

/-- One thing told. -/
structure Notice where
  severity : Severity
  text : String
deriving DecidableEq, Repr

end Themer
