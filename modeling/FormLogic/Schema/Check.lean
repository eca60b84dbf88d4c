import FormLogic.Message
import FormLogic.Rule.Evaluator
import FormLogic.Schema.Basic

/-!
# Checking data against a schema

The check finds what is wrong with the data of a form, path by path.  It goes through the leaves of
each object in the order of their keys, then through the conditions on that object.  Of several
findings at one path the first one counts.  Findings hold codes and bounds; their wording is left to
the catalog of messages.
-/

namespace FormLogic

/-- What is wrong with a value: a code, and the bound that it breaks. -/
structure Objection where
  code : Code
  least : Option Nat := none
  greatest : Option Nat := none
  deriving DecidableEq, Repr

/-- What is wrong at a path. -/
structure Finding where
  path : String
  objection : Objection
  label : String
  /-- The template of a message that takes the place of the usual one. -/
  template : Option String
  deriving DecidableEq, Repr

namespace Schema

/-! ### Single values -/

/-- The objection to a missing value. -/
def Rules.absent (r : Rules) : Option Objection :=
  if r.required then some { code := .required } else none

/-- The objection to a text: it is too short, too long, or does not match the pattern. -/
def Rules.text (r : Rules) (s : String) : Option Objection :=
  let length := s.length
  match r.minLength.filter (length < ·) with
  | some lo => some { code := .minLength, least := some lo }
  | none =>
      match r.maxLength.filter (· < length) with
      | some hi => some { code := .maxLength, greatest := some hi }
      | none =>
          match r.pattern with
          | some p => if p.pattern.matchesIn s then none else some { code := .pattern }
          | none => none

/-- The objection to a number of items: there are none, too few or too many. -/
def Rules.count (r : Rules) (minItems maxItems : Option Nat) (count : Nat) : Option Objection :=
  if count = 0 && r.required then some { code := .required }
  else
    match minItems.filter (count < ·) with
    | some lo => some { code := .minItems, least := some lo }
    | none =>
        match maxItems.filter (· < count) with
        | some hi => some { code := .maxItems, greatest := some hi }
        | none => none

/-- The value is among the allowed ones. -/
def isAllowed (allowed : Option (List Json)) (v : Json) : Bool :=
  match allowed with
  | none => true
  | some values => values.any fun option => Rule.strictEq option v

def mismatch : Option Objection := some { code := .typeMismatch }

/-- The objection to a value that is not among the allowed ones. -/
def notAllowed (allowed : Option (List Json)) (v : Json) : Option Objection :=
  if isAllowed allowed v then none else some { code := .invalidOption }

/-- The objection to a value of a leaf. -/
def Base.objection (r : Rules) (base : Base) (v : Json) : Option Objection :=
  match base with
  | .text =>
      match v with
      | .null => r.absent
      | .text s => if s = "" then r.absent else r.text s
      | _ => mismatch
  | .number =>
      match v with
      | .null => r.absent
      | .text s => if s = "" then r.absent else mismatch
      | .number _ => none
      | _ => mismatch
  | .boolean =>
      match v with
      | .null | .bool false => r.absent
      | .bool true => none
      | _ => mismatch
  | .choice allowed true =>
      match v with
      | .null | .array [] => r.absent
      | .array items =>
          if items.all (isAllowed allowed) then none else some { code := .invalidOption }
      | _ => mismatch
  | .choice allowed false =>
      match v with
      | .null => r.absent
      | .text s => if s = "" then r.absent else notAllowed allowed (.text s)
      | .array _ | .object _ => mismatch
      | scalar => notAllowed allowed scalar
  | .any =>
      match v with
      | .null => r.absent
      | .text s => if s = "" then r.absent else r.text s
      | _ => none

/-- The items of a list; a missing list has none. -/
def itemsOf : Json → Option (List Json)
  | .null => some []
  | .array items => some items
  | _ => none

/-- The finding at a leaf.  A text that does not match has the message that the field brings along.
-/
def Rules.finding (r : Rules) (path : String) (o : Objection) : Finding where
  path := path
  objection := o
  label := r.label
  template := if o.code = .pattern then r.message else none

/-! ### Objects and lists -/

/-- The findings of conditions that do not hold in a scope. -/
def checkConditions (operations : Rule.Operations) (scope : Json) (parent : String)
    (conditions : List Condition) : List Finding :=
  conditions.filterMap fun c =>
    if Rule.holds operations scope c.rule then none
    else
      some
        { path := Path.join parent c.path
          objection := { code := .condition }
          label := c.label
          template := c.message }

/-- The value under a key of an object, if there is one. -/
def valueUnder (key : String) : Option Json → Option Json
  | some (.object entries) => Dictionary.lookup key entries
  | _ => none

/-- The value can be checked as an object: it is one, or there is none. -/
def isObjectOrAbsent : Option Json → Bool
  | none | some .null | some (.object _) => true
  | _ => false

mutual

/-- The findings at a leaf and below it.  Each item of a list is checked in a scope where its own
entries come before those of the data around it. -/
def Leaf.check (operations : Rule.Operations) (scope : Json) (path : String) (value : Option Json) :
    Leaf → List Finding
  | .single rules base =>
      ((base.objection rules (Json.orNull value)).map (rules.finding path)).toList
  | .repeating rules minItems maxItems properties conditions =>
      match itemsOf (Json.orNull value) with
      | none => [rules.finding path { code := .typeMismatch }]
      | some items =>
          match rules.count minItems maxItems items.length with
          | some o => [rules.finding path o]
          | none =>
              items.zipIdx.flatMap fun (item, index) =>
                let itemPath := path ++ "." ++ Binary64.digitsText index
                match item with
                | .object entries =>
                    let itemScope := Path.merge scope (.object entries)
                    checkProperties operations itemScope itemPath (some (.object entries))
                        properties ++
                      checkConditions operations itemScope itemPath conditions
                | _ => [rules.finding itemPath { code := .typeMismatch }]

/-- The findings at the value under a key and below it. -/
def SchemaNode.check (operations : Rule.Operations) (scope : Json) (path key : String)
    (value : Option Json) : SchemaNode → List Finding
  | .leaf leaf => leaf.check operations scope path value
  | .object properties =>
      if isObjectOrAbsent value then checkProperties operations scope path value properties
      else [⟨path, { code := .typeMismatch }, key, none⟩]

/-- The findings at the values of an object and below them. -/
def checkProperties (operations : Rule.Operations) (scope : Json) (parent : String)
    (value : Option Json) : List (String × SchemaNode) → List Finding
  | [] => []
  | (key, node) :: rest =>
      node.check operations scope (Path.join parent key) key (valueUnder key value) ++
        checkProperties operations scope parent value rest

end

/-- Everything that is wrong with the data of a form, in the order in which it is found. -/
def check (operations : Rule.Operations) (s : Schema) (data : Json) : List Finding :=
  checkProperties operations data "" (some data) s.properties ++
    checkConditions operations data "" s.conditions

/-- The first finding at each path. -/
def firstFindings (findings : List Finding) : Dictionary Finding :=
  findings.foldl (fun found f => Dictionary.insertNew f.path f found) []

/-- What is wrong with the data of a form, by path. -/
def findings (operations : Rule.Operations) (s : Schema) (data : Json) : Dictionary Finding :=
  firstFindings (s.check operations data)

end Schema

/-- The message for a finding. -/
def Finding.message (catalog : Template.Catalog) (f : Finding) : String :=
  let subject : Subject :=
    { label := f.label, name := f.path
      least := f.objection.least, greatest := f.objection.greatest }
  match f.template with
  | some template => Message.ofTemplate catalog template subject
  | none => Message.ofCode catalog f.objection.code.name subject

end FormLogic
