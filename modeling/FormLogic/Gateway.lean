import FormLogic.Configuration.Registration
import FormLogic.Form
import FormLogic.Json.Parser
import FormLogic.Text.Blank

/-!
# Forms behind JSON texts

A host that exchanges nothing but JSON texts reaches a form through the entry points below.  Each
takes the text of a configuration and the texts of its inputs, and answers a JSON text: the result,
or an object with a message under `error`.
-/

namespace FormLogic

/-- An input beside the configuration. -/
inductive Input where
  | data
  | previous
  | overrides
  deriving DecidableEq, Repr

def Input.name : Input → String
  | data => "data"
  | previous => "previous"
  | overrides => "overrides"

namespace Gateway

/-- Why an entry point has no result. -/
inductive Failure where
  | configurationSyntax (e : Json.SyntaxError)
  | configuration (e : ConfigError)
  | inputSyntax (input : Input) (e : Json.SyntaxError)
  deriving DecidableEq, Repr

/-- The failure in words. -/
def Failure.message : Failure → String
  | configurationSyntax e => "failed to parse form configuration: " ++ e.message
  | configuration e => e.message
  | inputSyntax input e => "failed to parse " ++ input.name ++ " json: " ++ e.message

/-- The result of an entry point. -/
abbrev Result := Except Failure Json

/-- The configuration that a text holds; a blank text stands for the registration form. -/
def readConfiguration (source : String) : Except Failure Json :=
  if Text.isBlank source then .ok Registration.configuration
  else
    match Json.parse source with
    | .ok configuration => .ok configuration
    | .error e => .error (.configurationSyntax e)

/-- The form of a configuration's text. -/
def openForm (source : String) : Except Failure Form := do
  let configuration ← readConfiguration source
  match Form.ofConfiguration Rule.defaultOperations none configuration with
  | .ok form => .ok form
  | .error e => .error (.configuration e)

/-- The value that the text of an input holds; a blank text stands for an empty object. -/
def readInput (input : Input) (source : String) : Except Failure Json :=
  if Text.isBlank source then .ok (.object [])
  else
    match Json.parse source with
    | .ok v => .ok v
    | .error e => .error (.inputSyntax input e)

/-- The value that answers a result. -/
def reply : Result → Json
  | .ok v => v
  | .error failure => .object [("error", .text failure.message)]

/-! ### Results -/

/-- What a host is told of a field. -/
def fieldJson (f : Field) : Json :=
  let dependency : List (String × Json) :=
    match f.dependsOn with
    | some parent =>
        [("dependsOn", .text parent), ("resetOnParentChange", .bool f.info.resetsWithParent)]
    | none => []
  .ofEntries
    ([("name", .text f.name), ("type", .text f.info.kind), ("shape", .text f.shapeName),
        ("renderKey", .text f.renderKey), ("label", .text f.displayLabel),
        ("required", .bool f.isRequired)] ++
      dependency ++ (f.info.metadata.map fun entries => ("meta", Json.object entries)).toList)

/-- The fields of a form, their dependencies, and the policy for hidden fields. -/
def description (form : Form) : Json :=
  .ofEntries
    [("fields", .array (form.fields.map fieldJson)), ("dependencies", form.dependencies.toJson),
      ("invisibleFieldValidation", .text form.policy.name)]

mutual

/-- What chooses the display of an element. -/
def renderTarget : Node → Json
  | .field f =>
      .ofEntries
        [("element", .text "field"), ("name", .text f.name), ("renderKey", .text f.renderKey)]
  | .container variant _ _ children =>
      .ofEntries
        [("element", .text Node.containerType), ("renderKey", .text (Node.containerKey variant)),
          ("children", .array (renderTargetsOf children))]

def renderTargetsOf : List Node → List Json
  | [] => []
  | node :: nodes => renderTarget node :: renderTargetsOf nodes

end

/-- Errors, and whether they leave the form valid. -/
def validation (errors : FieldErrors) : Json :=
  .ofEntries [("valid", .bool (!errors.blocks)), ("errors", errors.toJson)]

/-- Resets, and the data once they are carried out. -/
def cascaded (data : Json) (resets : List Reset) : Json :=
  .ofEntries
    [("resets", .array (resets.map Reset.toJson)), ("data", Reset.applyAll data resets)]

def describeResult (configuration : String) : Result := do
  return description (← openForm configuration)

def renderTargetsResult (configuration : String) : Result := do
  let form ← openForm configuration
  return .array (renderTargetsOf form.tree.roots)

def visibilityResult (configuration data : String) : Result := do
  let form ← openForm configuration
  let data ← readInput .data data
  return (form.visibility data).toJson

def validateResult (configuration data : String) : Result := do
  let form ← openForm configuration
  let data ← readInput .data data
  return validation (form.resolve data)

def cascadeResult (configuration field previous data : String) : Result := do
  let form ← openForm configuration
  let previous ← readInput .previous previous
  let data ← readInput .data data
  return cascaded data (form.fieldChanged field previous data)

def initialDataResult (configuration overrides : String) : Result := do
  let form ← openForm configuration
  return form.initialData (← readInput .overrides overrides)

def onChangeResult (configuration data : String) (validate : Bool) : Result := do
  let form ← openForm configuration
  let data ← readInput .data data
  return (form.dataChanged data validate).toJson

/-! ### Entry points -/

/-- The fields of a form, their dependencies, and the policy for hidden fields. -/
def describe (configuration : String) : String :=
  (reply (describeResult configuration)).print

/-- The elements of a form, reduced to what chooses their display. -/
def renderTargets (configuration : String) : String :=
  (reply (renderTargetsResult configuration)).print

/-- Which fields are visible. -/
def visibility (configuration data : String) : String :=
  (reply (visibilityResult configuration data)).print

/-- The errors of the data, and whether it is valid all the same. -/
def validate (configuration data : String) : String :=
  (reply (validateResult configuration data)).print

/-- The resets that a change of a field calls for, and the data once they are carried out. -/
def cascade (configuration field previous data : String) : String :=
  (reply (cascadeResult configuration field previous data)).print

/-- The data of a fresh form. -/
def initialData (configuration overrides : String) : String :=
  (reply (initialDataResult configuration overrides)).print

/-- Which fields are visible and, if asked for, the errors of the data. -/
def onChange (configuration data : String) (validate : Bool) : String :=
  (reply (onChangeResult configuration data validate)).print

end Gateway

end FormLogic
