import FormLogic.Configuration.Declaration

/-!
# Fields and containers

The elements of a form after its configuration has been checked: fields, which hold data, and
containers, which group other elements.  The name of a field is a path into the data of the form.
-/

namespace FormLogic

/-- What every field has. -/
structure FieldInfo where
  kind : String
  name : String
  label : Option String
  defaultValue : Option Json
  constraints : Option Constraints
  /-- The rule by which the field is visible. -/
  visible : Option Json
  dependsOn : Option String
  /-- The field is reset when the field that it depends on changes. -/
  resetsWithParent : Bool
  metadata : Option (Dictionary Json)
  /-- The entries of the declaration under unknown keys. -/
  extra : Dictionary Json

/-- The shape of a field without item fields. -/
inductive Shape where
  | generic
  /-- One of several values, or several of them, which the declaration lists or a provider supplies.
  -/
  | choice (choices : List Choice) (multiple : Bool) (provider : Option String)
  /-- A field that a component outside of the form takes care of. -/
  | delegate (component : String) (props : Option (Dictionary Json))

/-- A field: a single one, or one that repeats a group of fields. -/
inductive Field where
  | single (info : FieldInfo) (shape : Shape)
  | repeating (info : FieldInfo) (items : List Field) (minItems maxItems : Option Nat)

/-- An element of a form. -/
inductive Node where
  | field (field : Field)
  | container (variant : Option String) (visible : Option Json)
      (metadata : Option (Dictionary Json)) (children : List Node)

/-- The elements of a form. -/
structure Tree where
  roots : List Node

/-- The values that fields of a type take. -/
inductive ValueKind where
  | text
  | number
  | boolean
  | any
  deriving DecidableEq, Repr

namespace ValueKind

def textTypes : List String :=
  ["text", "textarea", "string", "email", "password", "tel", "url", "search", "date", "time",
    "datetime", "color"]

def numberTypes : List String := ["number", "integer", "range"]

def booleanTypes : List String := ["checkbox", "switch", "toggle", "boolean"]

/-- The values of fields of a type; an unknown type takes any value. -/
def ofType (type : String) : ValueKind :=
  if textTypes.contains type then text
  else if numberTypes.contains type then number
  else if booleanTypes.contains type then boolean
  else any

def name : ValueKind → String
  | text => "text"
  | number => "number"
  | boolean => "boolean"
  | any => "any"

end ValueKind

namespace Field

def info : Field → FieldInfo
  | single info _ => info
  | repeating info _ _ _ => info

def name (f : Field) : String := f.info.name

def dependsOn (f : Field) : Option String := f.info.dependsOn

/-- What messages call the field: its label, or else its name. -/
def displayLabel (f : Field) : String := f.info.label.getD f.info.name

/-- The key of what displays the field: a component, or else the type. -/
def renderKey : Field → String
  | single _ (.delegate component _) => component
  | f => f.info.kind

def valueKind (f : Field) : ValueKind := .ofType f.info.kind

def shapeName : Field → String
  | single _ .generic => "generic"
  | single _ (.choice _ _ _) => "choice"
  | single _ (.delegate _ _) => "delegate"
  | repeating _ _ _ _ => "repeating"

def constraints (f : Field) : Constraints := f.info.constraints.getD {}

def isRequired (f : Field) : Bool := f.constraints.required

end Field

namespace Node

/-- The type of containers. -/
def containerType : String := "container"

/-- The key of what displays a container. -/
def containerKey (variant : Option String) : String := variant.getD containerType

mutual

/-- The fields of an element from top to bottom, without those that a repeating field repeats. -/
def fields : Node → List Field
  | field f => [f]
  | container _ _ _ children => fieldsOfAll children

def fieldsOfAll : List Node → List Field
  | [] => []
  | node :: nodes => node.fields ++ fieldsOfAll nodes

end

end Node

namespace Tree

/-- The fields of a form from top to bottom. -/
def fields (t : Tree) : List Field := Node.fieldsOfAll t.roots

/-- The first field of a name. -/
def field? (t : Tree) (name : String) : Option Field :=
  t.fields.find? fun f => f.name == name

end Tree

end FormLogic
