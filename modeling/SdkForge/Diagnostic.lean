/-!
# Diagnostics

What a run has to say about a model: an error stops it, a warning may, and the rest is for
information.
-/

namespace SdkForge

/-- How grave a diagnostic is. -/
inductive Severity where
  | error | warning | info
  deriving DecidableEq, Inhabited, Repr

protected def Severity.toString : Severity → String
  | .error => "error"
  | .warning => "warning"
  | .info => "info"

instance : ToString Severity := ⟨Severity.toString⟩

/-- Something to say about a model. -/
structure Diagnostic where
  severity : Severity
  /-- The phase that says it. -/
  phase : String
  message : String
  /-- The shape that it is about. -/
  location : Option String := none
  deriving DecidableEq, Repr

namespace Diagnostic

def isError (d : Diagnostic) : Bool := d.severity = .error
def isWarning (d : Diagnostic) : Bool := d.severity = .warning

protected def toString (d : Diagnostic) : String :=
  s!"{d.severity}: {d.message}" ++ ((d.location.map fun l => s!" (at {l})").getD "")

instance : ToString Diagnostic := ⟨Diagnostic.toString⟩

end Diagnostic

end SdkForge
