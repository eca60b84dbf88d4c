import FormLogic.Json.Record

/-!
# Declarations of form elements

A configuration declares the elements of a form, and this module reads such declarations as they are
written and writes them again.  Whether a declaration makes sense is not asked here.  Entries under
unknown keys are kept.
-/

namespace FormLogic

/-- A value that a choice field offers, and its label. -/
structure Choice where
  value : Json
  label : String

namespace Choice

/-- Reads a choice; the label may be left out. -/
def read? (source : Json) : Option Choice := do
  let entries ← source.recordEntries ["value", "label"]
  let value ← Dictionary.lookup "value" entries
  let label ← Json.entryOr "" Json.asText "label" entries
  return { value, label }

def toJson (c : Choice) : Json :=
  .ofEntries [("value", c.value), ("label", .text c.label)]

end Choice

/-- What the value of a field has to satisfy beyond its kind. -/
structure Constraints where
  required : Bool := false
  minLength : Option Nat := none
  maxLength : Option Nat := none
  pattern : Option String := none
  /-- The template of the message for a value that does not match the pattern or the condition. -/
  message : Option String := none
  /-- A rule that has to hold of the data of the form. -/
  condition : Option Json := none

namespace Constraints

/-- The keys of constraints, in order. -/
def keys : List String :=
  ["required", "minLength", "maxLength", "pattern", "message", "condition"]

def read? (source : Json) : Option Constraints := do
  let entries ← source.recordEntries keys
  return {
    required := ← Json.entryOr false Json.asBool "required" entries
    minLength := ← Json.optionalEntry Json.asNat "minLength" entries
    maxLength := ← Json.optionalEntry Json.asNat "maxLength" entries
    pattern := ← Json.optionalEntry Json.asText "pattern" entries
    message := ← Json.optionalEntry Json.asText "message" entries
    condition := ← Json.optionalEntry some "condition" entries }

def toJson (c : Constraints) : Json :=
  .object (Json.withAttributes
    [("required", some (.bool c.required)), ("minLength", c.minLength.map .ofNat),
      ("maxLength", c.maxLength.map .ofNat), ("pattern", c.pattern.map .text),
      ("message", c.message.map .text), ("condition", c.condition)]
    [])

end Constraints

/-- What a declaration says of an element itself, its nested elements apart. -/
structure Attributes where
  kind : Option String := none
  name : Option String := none
  label : Option String := none
  /-- The value of a fresh field; `null` is one, too. -/
  defaultValue : Option Json := none
  constraints : Option Constraints := none
  /-- The rule by which the element is visible. -/
  visible : Option Json := none
  dependsOn : Option String := none
  resetOnParentChange : Option Bool := none
  metadata : Option (Dictionary Json) := none
  choices : Option (List Choice) := none
  choicesProvider : Option String := none
  multiple : Option Bool := none
  minItems : Option Nat := none
  maxItems : Option Nat := none
  component : Option String := none
  componentProps : Option (Dictionary Json) := none
  variant : Option String := none
  /-- The entries under other keys. -/
  extra : Dictionary Json := []

namespace Attributes

/-- The keys that have a meaning in a declaration. -/
def keys : List String :=
  ["type", "name", "label", "defaultValue", "validation", "visible", "dependsOn",
    "resetOnParentChange", "meta", "options", "optionsProvider", "multiple", "itemFields",
    "minItems", "maxItems", "component", "componentProps", "variant", "children"]

def read? (entries : Dictionary Json) : Option Attributes := do
  return {
    kind := ← Json.optionalEntry Json.asText "type" entries
    name := ← Json.optionalEntry Json.asText "name" entries
    label := ← Json.optionalEntry Json.asText "label" entries
    defaultValue := Dictionary.lookup "defaultValue" entries
    constraints := ← Json.optionalEntry Constraints.read? "validation" entries
    visible := ← Json.optionalEntry some "visible" entries
    dependsOn := ← Json.optionalEntry Json.asText "dependsOn" entries
    resetOnParentChange := ← Json.optionalEntry Json.asBool "resetOnParentChange" entries
    metadata := ← Json.optionalEntry Json.asEntries "meta" entries
    choices := ← Json.optionalEntry (Json.asListOf Choice.read?) "options" entries
    choicesProvider := ← Json.optionalEntry Json.asText "optionsProvider" entries
    multiple := ← Json.optionalEntry Json.asBool "multiple" entries
    minItems := ← Json.optionalEntry Json.asNat "minItems" entries
    maxItems := ← Json.optionalEntry Json.asNat "maxItems" entries
    component := ← Json.optionalEntry Json.asText "component" entries
    componentProps := ← Json.optionalEntry Json.asEntries "componentProps" entries
    variant := ← Json.optionalEntry Json.asText "variant" entries
    extra := entries.filter fun entry => !keys.contains entry.1 }

/-- The attributes by key; those that are absent have no value. -/
def entries (a : Attributes) : List (String × Option Json) :=
  [("type", a.kind.map .text), ("name", a.name.map .text), ("label", a.label.map .text),
    ("defaultValue", a.defaultValue), ("validation", a.constraints.map Constraints.toJson),
    ("visible", a.visible), ("dependsOn", a.dependsOn.map .text),
    ("resetOnParentChange", a.resetOnParentChange.map .bool),
    ("meta", a.metadata.map .object),
    ("options", a.choices.map fun choices => .array (choices.map Choice.toJson)),
    ("optionsProvider", a.choicesProvider.map .text), ("multiple", a.multiple.map .bool),
    ("minItems", a.minItems.map .ofNat), ("maxItems", a.maxItems.map .ofNat),
    ("component", a.component.map .text), ("componentProps", a.componentProps.map .object),
    ("variant", a.variant.map .text)]

end Attributes

/-- A declared element: its attributes, the fields of each item of a repeating field, and the
elements in a container. -/
inductive Declaration where
  | element (attributes : Attributes) (itemFields children : Option (List Declaration))

namespace Declaration

def attributes : Declaration → Attributes
  | element a _ _ => a

def itemFields : Declaration → Option (List Declaration)
  | element _ items _ => items

def children : Declaration → Option (List Declaration)
  | element _ _ children => children

mutual

/-- Reads a declaration. -/
def read? : Json → Option Declaration
  | .object entries => do
      let attributes ← Attributes.read? entries
      let itemFields ← readNested "itemFields" entries
      let children ← readNested "children" entries
      return .element attributes itemFields children
  | _ => none

/-- Reads the declarations that stand in a list under a key, if the key is there. -/
def readNested (key : String) : List (String × Json) → Option (Option (List Declaration))
  | [] => some none
  | (k, v) :: rest => if key = k then readOptional v else readNested key rest

/-- Reads a list of declarations, or none from `null`. -/
def readOptional : Json → Option (Option (List Declaration))
  | .null => some none
  | .array items => (readAll items).map some
  | _ => none

def readAll : List Json → Option (List Declaration)
  | [] => some []
  | item :: items => do
      let declaration ← read? item
      let declarations ← readAll items
      return declaration :: declarations

end

mutual

/-- Writes a declaration. -/
def toJson : Declaration → Json
  | .element a itemFields children =>
      .object (Json.withAttributes
        (a.entries ++ [("itemFields", toJsonOptional itemFields),
          ("children", toJsonOptional children)])
        a.extra)

def toJsonOptional : Option (List Declaration) → Option Json
  | none => none
  | some declarations => some (.array (toJsonAll declarations))

def toJsonAll : List Declaration → List Json
  | [] => []
  | declaration :: declarations => declaration.toJson :: toJsonAll declarations

end

end Declaration

end FormLogic
