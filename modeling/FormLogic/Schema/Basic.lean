import FormLogic.Field
import FormLogic.Path
import FormLogic.Pattern.Parser

/-!
# Schemas of form data

A schema has the shape of the data that it describes.  A field whose name has dots stands at a leaf
below the objects that the parts of its name lead through.
-/

namespace FormLogic

/-- A pattern together with the text that it was read from. -/
structure NamedPattern where
  source : String
  pattern : Pattern

/-- The pattern of a text, if it is one. -/
def NamedPattern.read? (source : String) : Option NamedPattern :=
  (Pattern.parse? source).map fun pattern => { source, pattern }

namespace Schema

/-- The values that a leaf takes. -/
inductive Base where
  | text
  | number
  | boolean
  | any
  /-- Values among those given; any values where a provider supplies them. -/
  | choice (allowed : Option (List Json)) (multiple : Bool)

/-- What a leaf asks of a value beyond its base. -/
structure Rules where
  name : String
  label : String
  required : Bool
  minLength : Option Nat
  maxLength : Option Nat
  pattern : Option NamedPattern
  /-- The template of the message for a text that does not match the pattern. -/
  message : Option String

/-- A rule on the data as a whole, for whose failure the field at a path answers. -/
structure Condition where
  path : String
  label : String
  rule : Json
  message : Option String

mutual

/-- The schema of a field's value: one value, or a list of objects. -/
inductive Leaf where
  | single (rules : Rules) (base : Base)
  | repeating (rules : Rules) (minItems maxItems : Option Nat)
      (properties : List (String × SchemaNode)) (conditions : List Condition)

/-- The schema of a value under a key. -/
inductive SchemaNode where
  | leaf (leaf : Leaf)
  | object (properties : List (String × SchemaNode))

end

/-- The schemas of the values of an object, by key. -/
abbrev Properties := Dictionary SchemaNode

end Schema

/-- The schema of a whole form. -/
structure Schema where
  properties : Schema.Properties
  conditions : List Schema.Condition

namespace Schema

namespace Leaf

def rules : Leaf → Rules
  | single rules _ => rules
  | repeating rules _ _ _ _ => rules

end Leaf

/-! ### Leaves by name -/

/-- The properties of the object under a key; none where there is no object. -/
def inner (key : String) (properties : Properties) : Properties :=
  match Dictionary.lookup key properties with
  | some (.object inner) => inner
  | _ => []

/-- Puts a leaf where the parts of a name lead, in place of all that stands in its way. -/
def insertAt : List String → Leaf → Properties → Properties
  | [], _, properties => properties
  | [key], leaf, properties => Dictionary.insert key (.leaf leaf) properties
  | key :: rest, leaf, properties =>
      Dictionary.insert key (.object (insertAt rest leaf (inner key properties))) properties

/-- Puts a leaf under a name. -/
def insert (name : String) (leaf : Leaf) (properties : Properties) : Properties :=
  insertAt (Path.parts name) leaf properties

/-- The leaf that the parts of a name lead to. -/
def leafAt : List String → Properties → Option Leaf
  | [], _ => none
  | [key], properties =>
      match Dictionary.lookup key properties with
      | some (.leaf leaf) => some leaf
      | _ => none
  | key :: rest, properties =>
      match Dictionary.lookup key properties with
      | some (.object inner) => leafAt rest inner
      | _ => none

/-- The leaf under a name. -/
def leaf? (name : String) (properties : Properties) : Option Leaf :=
  leafAt (Path.parts name) properties

/-- The object under a key. -/
def object? (key : String) (properties : Properties) : Option Properties :=
  match Dictionary.lookup key properties with
  | some (.object inner) => some inner
  | _ => none

/-! ### Schemas of fields -/

/-- The rules of a field.  A text that is no pattern asks for nothing. -/
def rulesOf (f : Field) : Rules :=
  let c := f.constraints
  { name := f.name
    label := f.displayLabel
    required := c.required
    minLength := c.minLength
    maxLength := c.maxLength
    pattern := c.pattern.bind NamedPattern.read?
    message := c.message }

/-- The values that a field of a shape takes. -/
def baseOf (kind : ValueKind) : Shape → Base
  | .generic =>
      match kind with
      | .text => .text
      | .number => .number
      | .boolean => .boolean
      | .any => .any
  | .choice choices multiple none => .choice (some (choices.map (·.value))) multiple
  | .choice _ multiple (some _) => .choice none multiple
  | .delegate _ _ => .any

/-- The condition of a field, if it has one. -/
def conditionOf (f : Field) : Option Condition :=
  let c := f.constraints
  c.condition.map fun rule =>
    { path := f.name, label := f.displayLabel, rule, message := c.message }

mutual

/-- The schema of a field's value. -/
def leafOf : Field → Leaf
  | .single info shape =>
      .single (rulesOf (.single info shape)) (baseOf (.ofType info.kind) shape)
  | .repeating info items minItems maxItems =>
      .repeating (rulesOf (.repeating info items minItems maxItems)) minItems maxItems
        (insertAll items []) (items.filterMap conditionOf)

/-- The properties with the leaves of fields put in one after the other. -/
def insertAll : List Field → Properties → Properties
  | [], properties => properties
  | f :: fields, properties => insertAll fields (insert f.name (leafOf f) properties)

end

/-- The schema of a list of fields. -/
def ofFields (fields : List Field) : Schema :=
  ⟨insertAll fields [], fields.filterMap conditionOf⟩

/-- The schema of a form. -/
def ofTree (t : Tree) : Schema := ofFields t.fields

end Schema

end FormLogic
