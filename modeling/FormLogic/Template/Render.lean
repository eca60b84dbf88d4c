import FormLogic.Path
import FormLogic.Template.Helper
import FormLogic.Template.Parser

/-!
# Rendering templates

A template is rendered against the data of a message.  A block gives its body a scope: a value of
its own, names for that value, and variables beside it.  Rendering fails where a tag asks for a
helper or a template that there is not, or for what its operands do not allow.
-/

namespace FormLogic.Template

/-- Where the value of a scope is found. -/
inductive Base where
  /-- In the data of the message, at a path. -/
  | at (path : List String)
  /-- Nowhere in the data: the value was computed. -/
  | value (v : Json)

/-- What a block gives to its body. -/
structure Scope where
  base : Base
  names : List (String × Base) := []
  locals : List (String × Json) := []

/-- The templates that can be included by name. -/
abbrev Catalog := Dictionary (List Element)

/-- Templates that were defined during rendering. -/
abbrev Inline := List (String × List Element)

/-- The place that a part of a template is rendered in. -/
structure Surroundings where
  catalog : Catalog
  /-- The data of the message. -/
  data : Json
  /-- The scopes around this place, innermost first. -/
  scopes : List Scope
  /-- The bodies of the inclusions around this place, innermost first. -/
  bodies : List (List Element)
  /-- How many of the bodies are being rendered. -/
  bodyDepth : Nat
  /-- The name of the template whose text this place is in, outside of its blocks. -/
  current : Option String

/-- A value, and where in the data it is, if it is there. -/
structure Found where
  value : Option Json
  path : Option (List String)

/-- The value is no part of the data. -/
def Found.computed (value : Option Json) : Found := ⟨value, none⟩

/-- The value, or `null` in place of a missing one. -/
def Found.orNull (found : Found) : Json := Json.orNull found.value

/-! ### References -/

/-- The value that names lead to; a step into an array must be an index. -/
def follow : List String → Json → Option (Option Json)
  | [], v => some (some v)
  | name :: names, .array items =>
      match Path.arrayIndex name with
      | none => none
      | some i =>
          match items[i]? with
          | some v => follow names v
          | none => some none
  | name :: names, .object entries =>
      match Dictionary.lookup name entries with
      | some v => follow names v
      | none => some none
  | _ :: _, _ => some none

/-- The value that names lead to from a base. -/
def followFrom (data : Json) (base : Base) (names : List String) : Option Found :=
  match base with
  | .at path =>
      (follow (path ++ names) data).map fun value => ⟨value, value.map fun _ => path ++ names⟩
  | .value v => (follow names v).map Found.computed

/-- The names among the steps of a reference. -/
def namesIn (segments : List Segment) : List String :=
  segments.filterMap fun
    | .named name => some name
    | _ => none

/-- How many steps upwards come first. -/
def upwardCount (segments : List Segment) : Nat :=
  (segments.takeWhile (· == .up)).length

/-- The scopes' item of a name. -/
def scopedName (scopes : List Scope) (name : String) : Option Base :=
  scopes.findSome? fun scope => scope.names.lookup name

/-- The innermost value. -/
def innermost (scopes : List Scope) : Base :=
  match scopes with
  | scope :: _ => scope.base
  | [] => .at []

/-- The value of a reference that starts with a step upwards, a name or the root. -/
def resolveSteps (s : Surroundings) (segments : List Segment) : Option Found :=
  let up := upwardCount segments
  let outer : Base :=
    match s.scopes[up]? with
    | some scope => scope.base
    | none => innermost s.scopes
  match segments.drop up with
  | .named name :: rest =>
      match scopedName s.scopes name with
      | some base => followFrom s.data base (namesIn rest)
      | none => followFrom s.data outer (namesIn segments)
  | .root :: _ =>
      followFrom s.data (if up = 0 then .at [] else outer) (namesIn segments)
  | _ => followFrom s.data outer (namesIn segments)

/-- The value of a reference. -/
def resolve (s : Surroundings) (segments : List Segment) : Option Found :=
  match segments with
  | .locals :: rest =>
      let up := upwardCount rest
      match rest.drop up with
      | .named name :: _ =>
          some (.computed ((s.scopes[up]?).bind fun scope => scope.locals.lookup name))
      | _ => resolveSteps s segments
  | _ => resolveSteps s segments

/-! ### Arguments -/

/-- The value of a call whose name, operands and options have been evaluated. -/
def callValue (name : Option String) (operands : Option (List Found))
    (options : Option (List (String × Json))) : Option Found := do
  let helper ← Helper.ofName? (← name)
  match helper.apply ((← operands).map Found.orNull) (← options) with
  | .value v => some (.computed v)
  | .prints => some (.computed (some (.text "")))
  | .fails => none

mutual

/-- The value of an argument. -/
def Argument.evaluate (s : Surroundings) : Argument → Option Found
  | .literal value => some (.computed (some value))
  | .word _ => some (.computed none)
  | .reference target => resolve s target.segments
  | .call name arguments options =>
      callValue (name.evaluateName s) (evaluateArguments s arguments) (evaluateOptions s options)

/-- The text of an argument in the place of a name. -/
def Argument.evaluateName (s : Surroundings) : Argument → Option String
  | .word name => some name
  | .reference target => some target.text
  | .literal value => some (display value)
  | .call name arguments options => do
      let found ← callValue (name.evaluateName s) (evaluateArguments s arguments)
        (evaluateOptions s options)
      return display found.orNull

def evaluateArguments (s : Surroundings) : List Argument → Option (List Found)
  | [] => some []
  | argument :: arguments => do
      let found ← argument.evaluate s
      return found :: (← evaluateArguments s arguments)

def evaluateOptions (s : Surroundings) : List (String × Argument) → Option (List (String × Json))
  | [] => some []
  | (name, argument) :: options => do
      let found ← argument.evaluate s
      return (name, found.orNull) :: (← evaluateOptions s options)

end

/-! ### Elements -/

/-- What rendering gives: text, and the templates defined so far. -/
abbrev Rendered := Option (String × Inline)

/-- A body that can be rendered in several scopes. -/
abbrev Body := Surroundings → Inline → Rendered

/-- The body does nothing. -/
def Body.empty : Body := fun _ inline => some ("", inline)

/-- Where a found value lies, as the base of a scope. -/
def Found.base (found : Found) : Base :=
  match found.path with
  | some path => .at path
  | none => .value found.orNull

/-- The base of an item of a found collection. -/
def Found.itemBase (found : Found) (key : String) (item : Json) : Base :=
  match found.path with
  | some path => .at (path ++ [key])
  | none => .value item

/-- The names that a body gives to an item and its key. -/
def itemScopeNames (names : List String) (item : Base) (key : Json) : List (String × Base) :=
  match names with
  | [name] => [(name, item)]
  | name :: keyName :: _ => [(name, item), (keyName, .value key)]
  | [] => []

/-- The body for each item of a collection, where `index` counts the items before. -/
def renderItems (body : Body) (found : Found) (names : List String) (keyName : String)
    (s : Surroundings) (inline : Inline) (index : Nat) : List (String × Json × Json) → Rendered
  | [] => some ("", inline)
  | (key, shown, item) :: items => do
      let base := found.itemBase key item
      let scope : Scope :=
        { base
          names := itemScopeNames names base shown
          locals :=
            [("first", .bool (index == 0)), ("last", .bool items.isEmpty), (keyName, shown)] }
      let (text, inline) ← body { s with scopes := scope :: s.scopes } inline
      let (more, inline) ← renderItems body found names keyName s inline (index + 1) items
      return (text ++ more, inline)

/-- A block helper applied to its body and its alternative. -/
def renderBlock (helper : Helper) (operands : List Found) (options : List (String × Json))
    (names : List String) (body : Body) (inverse : Option Body) (s : Surroundings)
    (inline : Inline) : Rendered :=
  let s := { s with current := none }
  let otherwise := (inverse.getD .empty) s inline
  match helper.apply (operands.map Found.orNull) options with
  | .fails => none
  | .value v => some (display (Json.orNull v), inline)
  | .prints =>
      match helper, operands with
      | .conditional wanted, found :: _ =>
          let includeZero :=
            match options.reverse.lookup "includeZero" with
            | some (.bool b) => b
            | _ => false
          if isTrue includeZero found.orNull == wanted then body s inline else otherwise
      | .withValue, found :: _ =>
          if isTrue false found.orNull then
            let scope : Scope :=
              { base := found.base
                names := match names with
                  | [name] => [(name, found.base)]
                  | _ => [] }
            body { s with scopes := scope :: s.scopes } inline
          else otherwise
      | .each, found :: _ =>
          match found.orNull with
          | .array (item :: items) =>
              renderItems body found names "index" s inline 0
                ((item :: items).zipIdx.map fun (v, i) =>
                  (Binary64.digitsText i, .ofNat i, v))
          | .object (entry :: entries) =>
              renderItems body found names "key" s inline 0
                ((entry :: entries).map fun (key, v) => (key, .text key, v))
          | _ => otherwise
      | .verbatim, _ => body s inline
      | _, _ => some ("", inline)

/-- The text with the given blanks after each end of line but one at the end of the text. -/
def indentLines (indent : List Char) : List Char → List Char
  | [] => []
  | [c] => [c]
  | c :: cs =>
      if c == '\n' then c :: (indent ++ indentLines indent cs) else c :: indentLines indent cs

/-- The name under which a template refers to the body of the inclusion around it. -/
def bodyName : String := "@partial-block"

/-- The value of an inclusion's scope with its options as entries. -/
def withOptions (base : Json) (options : List (String × Json)) : Json :=
  let entries :=
    match base with
    | .object entries => entries
    | v => [("this", v)]
  .object (options.foldl (fun entries (name, v) => Dictionary.insert name v entries) entries)

/-- The scopes of an included template. -/
def inclusionScopes (s : Surroundings) (operands : List Found) (options : List (String × Json)) :
    Option (List Scope) := do
  let scopes :=
    match operands with
    | ⟨_, some path⟩ :: _ => [{ base := .at path }]
    | _ => s.scopes
  if options.isEmpty then return scopes
  let found ← followFrom s.data (innermost scopes) []
  let scope : Scope :=
    match scopes with
    | scope :: _ => scope
    | [] => { base := .at [] }
  return [{ scope with base := .value (withOptions found.orNull options) }]

/-- The template that an inclusion names: one defined during rendering or the body of the inclusion
around, then one of the catalog, then the inclusion's own body. -/
def findTemplate (s : Surroundings) (inline : Inline) (name : String)
    (body : Option (List Element)) : Option Template :=
  let defined :=
    if name = bodyName then s.bodies[s.bodyDepth]? else inline.lookup name
  match defined, Dictionary.lookup name s.catalog, body with
  | some elements, _, _ => some ⟨none, elements⟩
  | none, some elements, _ => some ⟨some name, elements⟩
  | none, none, some elements => some ⟨none, elements⟩
  | none, none, none => none

/-- Defines the template that a decorator with a body holds. -/
def define (s : Surroundings) (inline : Inline) (call : Call) (body : Option (List Element)) :
    Option Inline := do
  let name ← call.name.evaluateName s
  let operands ← evaluateArguments s call.arguments
  let _ ← evaluateOptions s call.options
  let elements ← body
  match name, operands with
  | "inline", ⟨some (.text defined), _⟩ :: _ => some ((defined, elements) :: inline)
  | _, _ => none

/-- The templates that the decorators among the elements define. -/
def defineAll (s : Surroundings) (inline : Inline) : List Element → Option Inline
  | [] => some inline
  | .decorator call body :: elements => do defineAll s (← define s inline call body) elements
  | _ :: elements => defineAll s inline elements

/-- An inclusion, where `enter` renders the included template. -/
def renderInclusion (enter : Surroundings → Inline → List Element → Rendered) (call : Call)
    (indent : List Char) (body : Option (List Element)) (s : Surroundings) (inline : Inline) :
    Rendered := do
  let name ← call.name.evaluateName s
  let operands ← evaluateArguments s call.arguments
  let options ← evaluateOptions s call.options
  let inline ← defineAll s inline (body.getD [])
  if s.current == some name then none
  else
    let template ← findTemplate s inline name body
    let inner : Surroundings :=
      { s with
        scopes := ← inclusionScopes s operands options
        bodies := body.toList ++ s.bodies
        bodyDepth := if name = bodyName then s.bodyDepth + 1 else s.bodyDepth - 1
        current := template.name }
    let (text, _) ← enter inner inline template.elements
    return (String.ofList (indentLines indent text.toList), inline)

/-- A tag that inserts a value. -/
def renderValue (call : Call) (s : Surroundings) (inline : Inline) : Rendered := do
  let name ← call.name.evaluateName s
  let operands ← evaluateArguments s call.arguments
  let options ← evaluateOptions s call.options
  match Helper.ofName? name with
  | some helper =>
      match helper.apply (operands.map Found.orNull) options with
      | .value v => some (display (Json.orNull v), inline)
      | .prints => some ("", inline)
      | .fails => none
  | none =>
      if call.arguments.isEmpty && call.options.isEmpty then
        let found ← call.name.evaluate s
        return (display found.orNull, inline)
      else none

mutual

/-- An element, where `enter` renders included templates. -/
def Element.render (enter : Surroundings → Inline → List Element → Rendered) (s : Surroundings)
    (inline : Inline) : Element → Rendered
  | .raw text => some (text, inline)
  | .comment => some ("", inline)
  | .value call => renderValue call s inline
  | .decorator call body => do return ("", ← define s inline call body)
  | .inclusion call indent body => renderInclusion enter call indent body s inline
  | .block call names body none => do
      let name ← call.name.evaluateName s
      let helper ← Helper.ofName? name
      let operands ← evaluateArguments s call.arguments
      let options ← evaluateOptions s call.options
      renderBlock helper operands options names
        (fun s inline => renderAll enter s inline body) none s inline
  | .block call names body (some inverse) => do
      let name ← call.name.evaluateName s
      let helper ← Helper.ofName? name
      let operands ← evaluateArguments s call.arguments
      let options ← evaluateOptions s call.options
      renderBlock helper operands options names
        (fun s inline => renderAll enter s inline body)
        (some fun s inline => renderAll enter s inline inverse) s inline

def renderAll (enter : Surroundings → Inline → List Element → Rendered) (s : Surroundings)
    (inline : Inline) : List Element → Rendered
  | [] => some ("", inline)
  | element :: elements => do
      let (text, inline) ← element.render enter s inline
      let (more, inline) ← renderAll enter s inline elements
      return (text ++ more, inline)

end

/-- Elements in which templates may include templates at most `depth` deep. -/
def renderNested : (depth : Nat) → Surroundings → Inline → List Element → Rendered
  | 0, _, _, _ => none
  | depth + 1, s, inline, elements => renderAll (renderNested depth) s inline elements

/-- How deep templates may include templates. -/
def deepestInclusion : Nat := 128

/-- The text of a template for the data of a message, unless rendering fails. -/
def render? (catalog : Catalog) (data : Json) (template : Template) : Option String :=
  let s : Surroundings :=
    { catalog, data, scopes := [{ base := .at [] }], bodies := [], bodyDepth := 0,
      current := template.name }
  (renderNested deepestInclusion s [] template.elements).map (·.1)

end FormLogic.Template
