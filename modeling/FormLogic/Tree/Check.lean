import FormLogic.Tree.Build

/-!
# Checks of a form as a whole

Fields of one form must have different names, none of which lies inside another field's value, and
the relation between a field and the field that it depends on must end after finitely many steps.
-/

namespace FormLogic

namespace Tree

/-! ### Names -/

/-- The names of a list of fields in ascending order, each of them once. -/
def sortedNames (fields : List Field) : List String :=
  Dictionary.keys (Dictionary.ofList (fields.map fun f => (f.name, ())))

/-- The fields that repeat the name of an earlier one, where `seen` holds earlier names. -/
def repeatedNames (seen : List String) : List Field → List Defect
  | [] => []
  | f :: fields =>
      if seen.contains f.name then
        ⟨none, some f.name, .repeatedName⟩ :: repeatedNames seen fields
      else repeatedNames (f.name :: seen) fields

/-- The name lies inside the value of a field of another name: it is that name, a dot, and more. -/
def isNestedIn (nested name : String) : Bool :=
  (name.toList ++ ['.']).isPrefixOf nested.toList

/-- The fields inside whose values other fields lie; the first such field is named. -/
def nestedNames (fields : List Field) : List Defect :=
  let names := sortedNames fields
  fields.filterMap fun f =>
    (names.find? fun name => isNestedIn name f.name).map fun nested =>
      ⟨none, some f.name, .nestedName nested⟩

def nameDefects (t : Tree) : List Defect :=
  repeatedNames [] t.fields ++ nestedNames t.fields

/-! ### Dependencies -/

/-- The field that each dependent field depends on. -/
def parents (t : Tree) : Dictionary String :=
  Dictionary.ofList (t.fields.filterMap fun f => f.dependsOn.map fun parent => (f.name, parent))

/-- Going from a field to the field that it depends on leads to `target` within the given number of
steps. -/
def leadsTo (parents : Dictionary String) (target : String) : (steps : Nat) → String → Bool
  | 0, _ => false
  | steps + 1, name =>
      match Dictionary.lookup name parents with
      | none => false
      | some parent => parent == target || leadsTo parents target steps parent

/-- What is wrong with the dependency of a field on another one. -/
def dependencyCause? (t : Tree) (child parent : String) : Option Cause :=
  if child = parent then some .selfDependency
  else if (t.field? parent).isNone then some (.unknownParent parent)
  else if leadsTo t.parents child t.parents.length parent then some .cyclicDependency
  else none

def dependencyDefects (t : Tree) : List Defect :=
  t.parents.filterMap fun (child, parent) =>
    (t.dependencyCause? child parent).map fun cause => ⟨none, some child, cause⟩

/-! ### The tree of a configuration -/

/-- The tree that declarations declare, where components are looked up in a catalog if there is one.
The fields are checked as a whole once each declaration has been found to be without a defect. -/
def build (catalog : Option (List String)) (declarations : List Declaration) : Checked Tree := do
  let t : Tree := ⟨← Declaration.checkRoots catalog declarations⟩
  match t.nameDefects ++ t.dependencyDefects with
  | [] => .ok t
  | defects => .error defects

end Tree

/-- The names of a catalog in ascending order, each of them once. -/
def catalogNames (names : List String) : List String :=
  Dictionary.keys (Dictionary.ofList (names.map fun name => (name, ())))

end FormLogic
