import FormLogic.Field
import FormLogic.Path

/-!
# Resets of dependent fields

When a field changes, the fields that depend on it fall back to their defaults.  A change is carried
on one step at a time: a field that depends on a reset field is reset once that reset has become a
change of its own.
-/

namespace FormLogic

/-- The names of the fields that depend on a field, by its name, in the order of the form. -/
abbrev Dependencies := Dictionary (List String)

/-- An instruction to set a field back. -/
structure Reset where
  field : String
  value : Json

namespace Dependencies

/-- Adds a field and the field that it depends on. -/
def add (d : Dependencies) (f : Field) : Dependencies :=
  match f.dependsOn with
  | none => d
  | some parent =>
      Dictionary.insert parent ((Dictionary.lookup parent d).getD [] ++ [f.name]) d

def ofTree (t : Tree) : Dependencies := t.fields.foldl add []

def toJson (d : Dependencies) : Json :=
  .object (d.map fun (parent, names) => (parent, .array (names.map .text)))

end Dependencies

namespace Field

/-- The value of a field that nothing was entered into.  It differs for a choice of one value, where
`null` tells that nothing is chosen. -/
def structuralDefault : Field → Json
  | repeating _ _ _ _ => .array []
  | single _ (.choice _ true _) => .array []
  | single _ (.choice _ false _) => .null
  | single _ (.delegate _ _) => .text ""
  | single info .generic =>
      if ValueKind.ofType info.kind = .boolean then .bool false else .text ""

/-- The value that a field falls back to: the declared one, or else the one of its shape. -/
def resetValue (f : Field) : Json :=
  f.info.defaultValue.getD f.structuralDefault

def reset (f : Field) : Reset := ⟨f.name, f.resetValue⟩

end Field

namespace Reset

/-- The resets that a change of a field calls for. -/
def owed (t : Tree) (dependencies : Dependencies) (changed : String) : List Reset :=
  (((Dictionary.lookup changed dependencies).getD []).filterMap t.field?).filterMap fun f =>
    if f.info.resetsWithParent then some f.reset else none

/-- The data with every reset carried out in turn. -/
def applyAll (data : Json) (resets : List Reset) : Json :=
  resets.foldl (fun data r => Path.set data r.field r.value) data

def toJson (r : Reset) : Json := .ofEntries [("field", .text r.field), ("value", r.value)]

end Reset

/-- The value at a path differs between two states of the data. -/
def valueChanged (previous current : Json) (path : String) : Bool :=
  !Json.sameOption (Path.get previous path) (Path.get current path)

end FormLogic
