import FormLogic.Binary64.Text
import FormLogic.Violation

/-!
# Defects of configurations

A defect says which declaration is at fault, and why.  Its wording as a violation is given here,
too.
-/

namespace FormLogic

/-- A step from a declaration to one nested in it. -/
inductive Step where
  | child (index : Nat)
  | item (index : Nat)
  deriving DecidableEq, Repr

/-- The place of a declaration: the index of a root element, and the steps from there. -/
structure Address where
  root : Nat
  steps : List Step
  deriving DecidableEq, Repr

namespace Address

def child (a : Address) (index : Nat) : Address := { a with steps := a.steps ++ [.child index] }

def item (a : Address) (index : Nat) : Address := { a with steps := a.steps ++ [.item index] }

end Address

/-- The step in words. -/
def Step.text : Step → String
  | child index => ".children[" ++ Binary64.digitsText index ++ "]"
  | item index => ".itemFields[" ++ Binary64.digitsText index ++ "]"

/-- The place of all root elements together. -/
def Address.rootText : String := "elements"

/-- The address in words. -/
def Address.text (a : Address) : String :=
  rootText ++ "[" ++ Binary64.digitsText a.root ++ "]" ++ String.join (a.steps.map Step.text)

/-- What can be wrong with a configuration. -/
inductive Cause where
  | noElements
  | missingType
  | missingName
  | missingComponent
  | unknownComponent (component : String) (known : List String)
  | missingItemFields
  | boundsOutOfOrder (minItems maxItems : Nat)
  | containerAsItem
  | dependentItem
  | repeatedItemName
  | missingChoices
  | repeatedName
  | nestedName (nested : String)
  | selfDependency
  | unknownParent (parent : String)
  | cyclicDependency
  deriving DecidableEq, Repr

namespace Cause

/-- The cause in words. -/
def message : Cause → String
  | noElements => "configuration must declare at least one element"
  | missingType => "element is missing a non-empty \x60type\x60"
  | missingName => "field is missing a non-empty \x60name\x60"
  | missingComponent => "delegate field requires \x60component\x60"
  | unknownComponent component _ => "unknown component '" ++ component ++ "'"
  | missingItemFields => "repeating field requires \x60itemFields\x60"
  | boundsOutOfOrder minItems maxItems =>
      "minItems (" ++ Binary64.digitsText minItems ++ ") must not exceed maxItems (" ++
        Binary64.digitsText maxItems ++ ")"
  | containerAsItem => "item fields cannot be containers"
  | dependentItem => "item fields cannot declare \x60dependsOn\x60"
  | repeatedItemName => "item field name is declared more than once"
  | missingChoices => "choice field requires \x60options\x60 or an \x60optionsProvider\x60"
  | repeatedName => "field name is declared more than once"
  | nestedName nested => "field value cannot also hold nested field '" ++ nested ++ "'"
  | selfDependency => "field cannot depend on itself"
  | unknownParent parent => "dependsOn references unknown field '" ++ parent ++ "'"
  | cyclicDependency => "dependsOn chain forms a cycle"

/-- What could stand in place of the fault. -/
def alternatives : Cause → List String
  | unknownComponent _ known => known
  | _ => []

end Cause

/-- A fault of a configuration.  One that concerns the fields as a whole has no address. -/
structure Defect where
  address : Option Address
  field : Option String
  cause : Cause
  deriving DecidableEq, Repr

/-- The defect in words. -/
def Defect.violation (d : Defect) : Violation where
  path := (d.address.map Address.text).getD Address.rootText
  field := d.field
  message := d.cause.message
  alternatives := d.cause.alternatives

end FormLogic
