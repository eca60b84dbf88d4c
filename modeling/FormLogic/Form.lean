import FormLogic.Configuration.Document
import FormLogic.FieldError
import FormLogic.Reset
import FormLogic.Tree.Check

/-!
# Forms

A form is made of a configuration that has been found to be in order.  It knows nothing of the data
that is entered; the operations below take the data as it is and answer what follows from it.
-/

namespace FormLogic

/-- A form: its elements, its options, and the operations that its rules may name. -/
structure Form where
  tree : Tree
  options : Options
  operations : Rule.Operations

/-- What follows from a change of the data. -/
structure DataChange where
  visibility : Visibility
  /-- The errors, if they were asked for. -/
  errors : Option FieldErrors

namespace Form

/-- The elements that a configuration declares. -/
def treeOf (catalog : Option (List String)) (declarations : List Declaration) :
    Except ConfigError Tree :=
  match Tree.build catalog declarations with
  | .ok t => .ok t
  | .error defects => .error (.invalid (defects.map Defect.violation))

/-- The form of a configuration, where components are looked up in a catalog if there is one. -/
def ofConfiguration (operations : Rule.Operations) (catalog : Option (List String))
    (configuration : Json) : Except ConfigError Form :=
  match Document.read? configuration with
  | none => .error .malformed
  | some document => do
      let tree ← treeOf catalog document.declarations
      return { tree, options := document.options, operations }

def policy (form : Form) : Policy := form.options.policy

def fields (form : Form) : List Field := form.tree.fields

/-- The schema of the data. -/
def schema (form : Form) : Schema := .ofTree form.tree

/-- The templates of the form's messages. -/
def messages (form : Form) : Template.Catalog := Message.catalog form.options.messages

/-- Which fields depend on which. -/
def dependencies (form : Form) : Dependencies := .ofTree form.tree

/-- Which fields are visible. -/
def visibility (form : Form) (data : Json) : Visibility :=
  .ofTree form.operations form.tree data

/-- What is wrong with the data, whatever is visible. -/
def findings (form : Form) (data : Json) : Dictionary Finding :=
  form.schema.findings form.operations data

/-- The errors of the data, whatever is visible. -/
def errors (form : Form) (data : Json) : FieldErrors :=
  .ofFindings form.messages (form.findings data)

/-- The data is without an error. -/
def isValid (form : Form) (data : Json) : Bool := (form.findings data).isEmpty

/-- The errors that a policy leaves, given which fields are visible. -/
def resolveWith (form : Form) (policy : Policy) (visibility : Visibility) (data : Json) :
    FieldErrors :=
  (form.errors data).filter policy visibility

/-- The errors that the form's own policy leaves. -/
def resolve (form : Form) (data : Json) : FieldErrors :=
  form.resolveWith form.policy (form.visibility data) data

/-- What follows from a change of the data; errors are looked for only if asked for. -/
def dataChanged (form : Form) (data : Json) (validate : Bool) : DataChange where
  visibility := form.visibility data
  errors := if validate then some (form.resolve data) else none

/-- The resets that a change of a field calls for; none if its value is the same before and after.
-/
def fieldChanged (form : Form) (field : String) (previous current : Json) : List Reset :=
  if valueChanged previous current field then Reset.owed form.tree form.dependencies field else []

/-- The resets of all fields. -/
def resets (form : Form) : List Reset := form.fields.map Field.reset

/-- The data of a fresh form, with overrides merged into it. -/
def initialData (form : Form) (overrides : Json) : Json :=
  let defaults := Reset.applyAll (.object []) form.resets
  match overrides with
  | .null => defaults
  | overrides => Path.merge defaults overrides

end Form

namespace DataChange

def toJson (change : DataChange) : Json :=
  .ofEntries
    (("visibility", change.visibility.toJson) ::
      (change.errors.map fun errors => ("errors", FieldErrors.toJson errors)).toList)

end DataChange

end FormLogic
