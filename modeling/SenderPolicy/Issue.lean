/-
Issues: what a validation has to say about a domain.

An issue is an error, which makes the record unusable, or a warning, and carries its message.
-/
namespace SenderPolicy

/-- How much an issue matters. -/
inductive Severity where
  /-- The record is unusable. -/
  | error
  /-- The record works but should be looked at. -/
  | warning
  deriving DecidableEq, Repr

/-- The written form of a severity. -/
def Severity.name : Severity → String
  | .error => "error"
  | .warning => "warning"

/-- A finding about one domain. -/
structure Issue where
  severity : Severity
  message : String
  deriving DecidableEq, Repr

namespace Issue

/-- An issue of severity error. -/
def error (message : String) : Issue := ⟨.error, message⟩

/-- An issue of severity warning. -/
def warning (message : String) : Issue := ⟨.warning, message⟩

/-- Whether an issue is an error. -/
def isError (i : Issue) : Bool := i.severity == .error

/-- An issue as one line of text. -/
def display (i : Issue) : String := i.severity.name ++ ": " ++ i.message

@[simp] theorem isError_error (m : String) : (error m).isError = true := rfl

@[simp] theorem isError_warning (m : String) : (warning m).isError = false := rfl

end Issue

end SenderPolicy
