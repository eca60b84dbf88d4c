import FormLogic.Field
import FormLogic.Rule.Evaluator

/-!
# Visibility of fields

A field is visible if its own rule and the rules of all containers around it hold.  Paths below a
field share its visibility.
-/

namespace FormLogic

/-- Which fields are visible, by name. -/
abbrev Visibility := Dictionary Bool

namespace Visibility

/-- An optional rule holds; where there is none, it does. -/
def permits (operations : Rule.Operations) (data : Json) : Option Json → Bool
  | none => true
  | some rule => Rule.holds operations data rule

mutual

/-- The state with the fields of an element entered, where `shown` tells whether all containers
around it are visible. -/
def enter (operations : Rule.Operations) (data : Json) (shown : Bool) (state : Visibility) :
    Node → Visibility
  | .field f => Dictionary.insert f.name (shown && permits operations data f.info.visible) state
  | .container _ visible _ children =>
      enterAll operations data (shown && permits operations data visible) state children

def enterAll (operations : Rule.Operations) (data : Json) (shown : Bool) (state : Visibility) :
    List Node → Visibility
  | [] => state
  | node :: nodes => enterAll operations data shown (enter operations data shown state node) nodes

end

/-- The visibility of all fields for the given data. -/
def ofTree (operations : Rule.Operations) (t : Tree) (data : Json) : Visibility :=
  enterAll operations data true [] t.roots

/-- What stands before each dot of a text given from its end, the longest first. -/
def beforeDots : List Char → List (List Char)
  | [] => []
  | c :: cs => if c = '.' then cs :: beforeDots cs else beforeDots cs

/-- The path and the paths above it, the longest first. -/
def owners (path : String) : List String :=
  let backwards := path.toList.reverse
  (backwards :: beforeDots backwards).map fun cs => String.ofList cs.reverse

/-- The path is visible: the closest field at or above it is, or there is none. -/
def showsPath (state : Visibility) (path : String) : Bool :=
  ((owners path).findSome? fun owner => Dictionary.lookup owner state).getD true

def toJson (state : Visibility) : Json :=
  .object (state.map fun (name, visible) => (name, .bool visible))

end Visibility

end FormLogic
