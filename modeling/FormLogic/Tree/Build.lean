import FormLogic.Field
import FormLogic.Text.Blank
import FormLogic.Tree.Defect

/-!
# From declarations to elements

Each declaration is checked by itself, and turned into an element if it has no defect.  The defects
of all declarations are gathered in the order in which the declarations are written.
-/

namespace FormLogic

/-- A result, or the defects that stand in its way. -/
abbrev Checked (α : Type) := Except (List Defect) α

/-- A result in front of others, or the defects of both. -/
def Checked.cons {α : Type} : Checked α → Checked (List α) → Checked (List α)
  | .ok a, .ok as => .ok (a :: as)
  | .ok _, .error defects => .error defects
  | .error defects, .ok _ => .error defects
  | .error first, .error rest => .error (first ++ rest)

namespace Attributes

/-- The type without blanks around it; empty where there is none. -/
def trimmedKind (a : Attributes) : String := Text.trim (a.kind.getD "")

/-- The name without blanks around it; empty where there is none. -/
def trimmedName (a : Attributes) : String := Text.trim (a.name.getD "")

def delegateTypes : List String := ["custom"]

def repeatingTypes : List String := ["array", "repeater"]

def choiceTypes : List String := ["select", "radio", "multiselect", "autocomplete"]

/-- The type of choice fields that take several values unless they say otherwise. -/
def multipleType : String := "multiselect"

/-- What a field of these attributes has. -/
def fieldInfo (a : Attributes) : FieldInfo where
  kind := a.trimmedKind
  name := a.trimmedName
  label := a.label
  defaultValue := a.defaultValue
  constraints := a.constraints
  visible := a.visible
  dependsOn := a.dependsOn
  resetsWithParent := a.resetOnParentChange.getD true
  metadata := a.metadata
  extra := a.extra

/-- The bounds on the number of items contradict each other. -/
def boundsDefect (a : Attributes) : Option Cause :=
  match a.minItems, a.maxItems with
  | some lo, some hi => if hi < lo then some (.boundsOutOfOrder lo hi) else none
  | _, _ => none

/-- The field that attributes declare.  A component makes it a delegate, item fields make it
repeating, and choices make it a choice, in this order; so does a type of that kind, which then asks
for them. The item fields are those of a field of the given name. -/
def field (catalog : Option (List String)) (address : Address) (a : Attributes)
    (itemFields : Option (String → Checked (List Field))) : Checked Field :=
  let kind := a.trimmedKind
  let name := a.trimmedName
  let fail (cause : Cause) : Checked Field := .error [⟨some address, some name, cause⟩]
  if name = "" then .error [⟨some address, none, .missingName⟩]
  else if a.component.isSome || delegateTypes.contains kind then
    match a.component with
    | none => fail .missingComponent
    | some component =>
        match catalog with
        | some known =>
            if known.contains component then
              .ok (.single a.fieldInfo (.delegate component a.componentProps))
            else fail (.unknownComponent component known)
        | none => .ok (.single a.fieldInfo (.delegate component a.componentProps))
  else if itemFields.isSome || repeatingTypes.contains kind then
    match itemFields with
    | none => fail .missingItemFields
    | some items =>
        match a.boundsDefect with
        | some cause => fail cause
        | none => (items name).map fun items => .repeating a.fieldInfo items a.minItems a.maxItems
  else if a.choices.isSome || a.choicesProvider.isSome || choiceTypes.contains kind then
    if a.choices.isNone && a.choicesProvider.isNone then fail .missingChoices
    else
      .ok (.single a.fieldInfo
        (.choice (a.choices.getD []) (a.multiple.getD (kind == multipleType)) a.choicesProvider))
  else .ok (.single a.fieldInfo .generic)

/-- The field that attributes declare as an item field of the field `owner`, beside item fields of
the names `seen`. -/
def itemField (catalog : Option (List String)) (address : Address) (owner : String)
    (seen : List String) (a : Attributes)
    (itemFields : Option (String → Checked (List Field))) : Checked Field :=
  let kind := a.trimmedKind
  if kind = Node.containerType then .error [⟨some address, some owner, .containerAsItem⟩]
  else if kind = "" then .error [⟨some address, none, .missingType⟩]
  else do
    let field ← a.field catalog address itemFields
    if field.dependsOn.isSome then
      .error [⟨some address, some field.name, .dependentItem⟩]
    else if seen.contains field.name then
      .error [⟨some address, some field.name, .repeatedItemName⟩]
    else .ok field

end Attributes

namespace Declaration

/-- The names seen after an item field has been checked. -/
def seenAfter (seen : List String) : Checked Field → List String
  | .ok field => field.name :: seen
  | .error _ => seen

mutual

/-- The item field that a declaration declares for the field `owner`, beside item fields of the
names `seen`. -/
def checkItem (catalog : Option (List String)) (address : Address) (owner : String)
    (seen : List String) : Declaration → Checked Field
  | .element a itemFields _ =>
      a.itemField catalog address owner seen (checkOptionalItems catalog address itemFields)

/-- The item fields of the field `owner` from the given index on, beside item fields of the names
`seen`. -/
def checkItems (catalog : Option (List String)) (parent : Address) (owner : String) (index : Nat)
    (seen : List String) : List Declaration → Checked (List Field)
  | [] => .ok []
  | declaration :: rest =>
      let checked := checkItem catalog (parent.item index) owner seen declaration
      checked.cons (checkItems catalog parent owner (index + 1) (seenAfter seen checked) rest)

/-- The item fields that a declaration has, for a field of any name. -/
def checkOptionalItems (catalog : Option (List String)) (address : Address) :
    Option (List Declaration) → Option (String → Checked (List Field))
  | none => none
  | some items => some fun owner => checkItems catalog address owner 0 [] items

end

mutual

/-- The element that a declaration declares. -/
def checkNode (catalog : Option (List String)) (address : Address) : Declaration → Checked Node
  | .element a itemFields children =>
      let kind := a.trimmedKind
      if kind = "" then .error [⟨some address, none, .missingType⟩]
      else if kind = Node.containerType then
        (checkChildren catalog address children).map (.container a.variant a.visible a.metadata)
      else
        (a.field catalog address (checkOptionalItems catalog address itemFields)).map .field

/-- The elements in a container; it may have none. -/
def checkChildren (catalog : Option (List String)) (address : Address) :
    Option (List Declaration) → Checked (List Node)
  | none => .ok []
  | some children => checkNodes catalog address.child 0 children

/-- The elements of a list of declarations from the given index on, each of which has its place. -/
def checkNodes (catalog : Option (List String)) (place : Nat → Address) (index : Nat) :
    List Declaration → Checked (List Node)
  | [] => .ok []
  | declaration :: rest =>
      (checkNode catalog (place index) declaration).cons
        (checkNodes catalog place (index + 1) rest)

end

/-- The elements that a list of declarations declares at the root of a form. -/
def checkRoots (catalog : Option (List String)) (declarations : List Declaration) :
    Checked (List Node) :=
  if declarations.isEmpty then .error [⟨none, none, .noElements⟩]
  else checkNodes catalog (fun index => ⟨index, []⟩) 0 declarations

end Declaration

end FormLogic
