import FormLogic.Configuration.Policy
import FormLogic.Schema.Check
import FormLogic.Visibility

/-!
# Errors of fields

Errors as a form reports them: a code, a message and a severity by path.  A policy decides what
becomes of the errors of hidden fields.
-/

namespace FormLogic

/-- Whether an error keeps a form from being submitted. -/
inductive Severity where
  | error
  | warning
  deriving DecidableEq, Repr

namespace Severity

def name : Severity → String
  | error => "error"
  | warning => "warning"

def ofName? (name : String) : Option Severity :=
  match name with
  | "error" => some error
  | "warning" => some warning
  | _ => none

end Severity

/-- An error at a path. -/
structure FieldError where
  code : String
  message : String
  severity : Severity
  deriving DecidableEq, Repr

/-- Errors by path. -/
abbrev FieldErrors := Dictionary FieldError

namespace FieldError

/-- The error of a finding. -/
def ofFinding (catalog : Template.Catalog) (f : Finding) : FieldError where
  code := f.objection.code.name
  message := f.message catalog
  severity := .error

def isBlocking (e : FieldError) : Bool := e.severity == .error

def toJson (e : FieldError) : Json :=
  .ofEntries
    [("code", .text e.code), ("message", .text e.message), ("type", .text e.severity.name)]

end FieldError

namespace FieldErrors

/-- The errors of findings. -/
def ofFindings (catalog : Template.Catalog) (findings : Dictionary Finding) : FieldErrors :=
  Dictionary.mapValues (fun _ f => FieldError.ofFinding catalog f) findings

/-- Some error keeps the form from being submitted. -/
def blocks (errors : FieldErrors) : Bool := errors.any fun entry => entry.2.isBlocking

/-- The errors that a policy leaves, given which fields are visible. -/
def filter (policy : Policy) (visibility : Visibility) (errors : FieldErrors) : FieldErrors :=
  match policy with
  | .validate => errors
  | .skip => List.filter (fun entry => visibility.showsPath entry.1) errors
  | .warn =>
      Dictionary.mapValues
        (fun path e => if visibility.showsPath path then e else { e with severity := .warning })
        errors

def toJson (errors : FieldErrors) : Json :=
  .object (Dictionary.mapValues (fun _ e => e.toJson) errors)

end FieldErrors

end FormLogic
