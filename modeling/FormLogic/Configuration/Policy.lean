import FormLogic.Json.Basic

/-!
# Policies for hidden fields
-/

namespace FormLogic

/-- What becomes of the errors of hidden fields. -/
inductive Policy where
  /-- They are dropped. -/
  | skip
  /-- They are reported like all others. -/
  | validate
  /-- They are kept as warnings. -/
  | warn
  deriving DecidableEq, Repr, Inhabited

namespace Policy

def name : Policy → String
  | skip => "skip"
  | validate => "validate"
  | warn => "warn"

def ofName? (name : String) : Option Policy :=
  match name with
  | "skip" => some skip
  | "validate" => some validate
  | "warn" => some warn
  | _ => none

/-- Reads a policy: its name, or an object with its name as the only key and `null` under it. -/
def read? : Json → Option Policy
  | .text name => ofName? name
  | .object [(name, .null)] => ofName? name
  | _ => none

@[simp] theorem ofName?_name (p : Policy) : ofName? p.name = some p := by
  cases p <;> rfl

end Policy

end FormLogic
