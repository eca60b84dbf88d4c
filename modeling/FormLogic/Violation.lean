import FormLogic.Json.Printer

/-!
# Violations

What is wrong with a configuration, in words: where, with which field, and what could stand there
instead.
-/

namespace FormLogic

/-- A fault of a configuration. -/
structure Violation where
  /-- The position of the element at fault. -/
  path : String
  /-- The field at fault, where it has a name. -/
  field : Option String := none
  message : String
  /-- What would be valid, where something was looked up in vain. -/
  alternatives : List String := []
  deriving DecidableEq, Repr

namespace Violation

/-- The violation in one line. -/
def text (v : Violation) : String :=
  let field :=
    match v.field with
    | some name => " (" ++ name ++ ")"
    | none => ""
  let alternatives :=
    if v.alternatives.isEmpty then ""
    else " (expected one of: " ++ Json.separate ", " v.alternatives ++ ")"
  v.path ++ field ++ ": " ++ v.message ++ alternatives

/-- The violation as a record, without a field or alternatives that there are not. -/
def toJson (v : Violation) : Json :=
  .ofEntries
    ([("path", .text v.path), ("message", .text v.message)] ++
      (v.field.map fun name => ("field", Json.text name)).toList ++
      if v.alternatives.isEmpty then []
      else [("alternatives", .array (v.alternatives.map .text))])

end Violation

/-- Why a configuration is refused. -/
inductive ConfigError where
  /-- The document has none of the forms of a configuration. -/
  | malformed
  | invalid (violations : List Violation)
  deriving DecidableEq, Repr

namespace ConfigError

/-- The error in words. -/
def message : ConfigError → String
  | malformed =>
      "failed to parse form configuration: data did not match any variant of untagged enum " ++
        "ConfigDocument"
  | invalid violations =>
      "invalid form configuration:\n" ++
        Json.separate "\n" (violations.map fun v => "  - " ++ v.text)

/-- The violations that the error reports. -/
def violations : ConfigError → List Violation
  | malformed => []
  | invalid violations => violations

end ConfigError

end FormLogic
