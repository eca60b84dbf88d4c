import FormLogic.Form
import FormLogic.Proofs.RulePaths

/-!
# Operators and registered operations

An evaluator asks for a registered operation only where no operator has the name, so that what is
registered under the name of an operator is never carried out.  Where two evaluators have the same
operations under all other names, each rule has the same value for both, and a form shows the same
fields and finds the same errors with either of them.
-/

namespace FormLogic

namespace Rule

/-- The names of the operators that every evaluator has. -/
def Operator.names : List String :=
  ["var", "missing", "==", "!=", "===", "!==", ">", ">=", "<", "<=", "and", "or", "!", "not", "!!",
    "if", "in"]

theorem Operator.ofName?_eq_none_iff {name : String} : ofName? name = none ↔ name ∉ names := by
  constructor
  · intro hnone hmem
    have hnames : ∀ n ∈ names, ofName? n ≠ none := by decide
    exact hnames name hmem hnone
  · intro hmem
    unfold ofName?
    split <;> first | rfl | exact absurd hmem (by decide)

/-- The same operation, or none, is registered under each name that no operator has. -/
def AgreeBesideOperators (operations operations' : Operations) : Prop :=
  ∀ name ∉ Operator.names,
    Dictionary.lookup name operations = Dictionary.lookup name operations'

/-- Under the name of an operator stands this operator, whatever is registered. -/
theorem exists_operator_of_mem_names {name : String} (h : name ∈ Operator.names) :
    ∃ operator : Operator, ∀ operations data values,
      applyNamed operations data name values = operator.apply data values := by
  cases hname : Operator.ofName? name with
  | none => exact absurd h (Operator.ofName?_eq_none_iff.mp hname)
  | some operator =>
      refine ⟨operator, ?_⟩
      intro operations data values
      rw [applyNamed, hname]

/-- Under any other name stands what is registered there. -/
theorem applyNamed_of_not_mem_names {name : String} (h : name ∉ Operator.names)
    (operations : Operations) (data : Json) (values : List Json) :
    applyNamed operations data name values =
      Json.orNull ((Dictionary.lookup name operations).map fun operation => operation values) := by
  rw [applyNamed, Operator.ofName?_eq_none_iff.mpr h]
  cases Dictionary.lookup name operations <;> rfl

section

variable {operations operations' : Operations} (h : AgreeBesideOperators operations operations')

include h

theorem applyNamed_of_agree (data : Json) (name : String) (values : List Json) :
    applyNamed operations data name values = applyNamed operations' data name values := by
  by_cases hname : name ∈ Operator.names
  · obtain ⟨operator, hoperator⟩ := exists_operator_of_mem_names hname
    rw [hoperator, hoperator]
  · rw [applyNamed_of_not_mem_names hname, applyNamed_of_not_mem_names hname, h name hname]

theorem evaluate_of_agree (data rule : Json) :
    evaluate operations data rule = evaluate operations' data rule := by
  induction rule using Json.induction with
  | array items ih =>
      rw [evaluate_array, evaluate_array, List.map_congr_left ih]
  | object entries ih =>
      by_cases hsingle : ∃ entry, entries = [entry]
      · obtain ⟨⟨name, operands⟩, rfl⟩ := hsingle
        have hoperands := ih (name, operands) (List.mem_singleton_self _)
        have hvalues : (operandsOf operands).map (evaluate operations data) =
            (operandsOf operands).map (evaluate operations' data) := by
          cases operands with
          | array items =>
              rw [evaluate_array, evaluate_array] at hoperands
              exact Json.array.inj hoperands
          | _ => exact congrArg (fun v => [v]) hoperands
        rw [evaluate_application, evaluate_application, hvalues, applyNamed_of_agree h]
      · rw [not_exists] at hsingle
        rw [evaluate_object_of_ne hsingle, evaluate_object_of_ne hsingle]
  | _ => simp [evaluate]

end

end Rule

/-! ### Rules that hold alike -/

/-- For all data the same rules hold. -/
def Rule.HoldAlike (operations operations' : Operations) : Prop :=
  ∀ data rule, holds operations data rule = holds operations' data rule

variable {operations operations' : Rule.Operations}

theorem Rule.holdAlike_of_agree (h : AgreeBesideOperators operations operations') :
    HoldAlike operations operations' := by
  intro data rule
  rw [holds, holds, evaluate_of_agree h]

theorem Visibility.ofTree_of_holdAlike (h : Rule.HoldAlike operations operations') (t : Tree)
    (data : Json) : ofTree operations t data = ofTree operations' t data := by
  have hpermits : permits operations data = permits operations' data := by
    funext visible
    cases visible with
    | none => rfl
    | some rule => exact h data rule
  rw [ofTree_eq_ofList, ofTree_eq_ofList]
  congr 1
  apply List.map_congr_left
  intro place _
  rw [entry, entry, hpermits]

namespace Schema

theorem checkConditions_of_holdAlike (h : Rule.HoldAlike operations operations') (scope : Json)
    (parent : String) (conditions : List Condition) :
    checkConditions operations scope parent conditions =
      checkConditions operations' scope parent conditions := by
  rw [checkConditions, checkConditions]
  apply List.filterMap_congr
  intro c _
  rw [h scope c.rule]

mutual

theorem Leaf.check_of_holdAlike (h : Rule.HoldAlike operations operations') (scope : Json)
    (path : String) (value : Option Json) :
    ∀ leaf : Leaf, leaf.check operations scope path value = leaf.check operations' scope path value
  | .single rules base => by rw [Leaf.check, Leaf.check]
  | .repeating rules minItems maxItems properties conditions => by
      rw [Leaf.check, Leaf.check]
      cases itemsOf (Json.orNull value) with
      | none => rfl
      | some items =>
          cases hcount : rules.count minItems maxItems items.length with
          | some o => simp only [hcount]
          | none =>
              -- Each item is checked in a scope of its own.
              simp only [hcount]
              apply List.flatMap_congr
              rintro ⟨item, index⟩ -
              cases item with
              | object entries =>
                  dsimp only
                  rw [checkProperties_of_holdAlike h, checkConditions_of_holdAlike h]
              | _ => rfl

theorem SchemaNode.check_of_holdAlike (h : Rule.HoldAlike operations operations') (scope : Json)
    (path key : String) (value : Option Json) :
    ∀ node : SchemaNode, node.check operations scope path key value =
      node.check operations' scope path key value
  | .leaf leaf => by
      rw [SchemaNode.check, SchemaNode.check, Leaf.check_of_holdAlike h scope path value leaf]
  | .object properties => by
      rw [SchemaNode.check, SchemaNode.check, checkProperties_of_holdAlike h]

theorem checkProperties_of_holdAlike (h : Rule.HoldAlike operations operations') (scope : Json)
    (parent : String) (value : Option Json) :
    ∀ properties : List (String × SchemaNode),
      checkProperties operations scope parent value properties =
        checkProperties operations' scope parent value properties
  | [] => by rw [checkProperties, checkProperties]
  | (key, node) :: rest => by
      rw [checkProperties, checkProperties, SchemaNode.check_of_holdAlike h scope _ key _ node,
        checkProperties_of_holdAlike h scope parent value rest]

end

theorem findings_of_holdAlike (h : Rule.HoldAlike operations operations') (s : Schema)
    (data : Json) : s.findings operations data = s.findings operations' data := by
  rw [findings, findings, check, check, checkProperties_of_holdAlike h,
    checkConditions_of_holdAlike h]

end Schema

/-! ### Forms with other operations -/

namespace Form

/-- The form with other registered operations. -/
def withOperations (form : Form) (operations : Rule.Operations) : Form := { form with operations }

variable (h : Rule.HoldAlike operations operations') (form : Form) (data : Json)

include h

theorem visibility_withOperations :
    (form.withOperations operations).visibility data =
      (form.withOperations operations').visibility data :=
  Visibility.ofTree_of_holdAlike h form.tree data

theorem findings_withOperations :
    (form.withOperations operations).findings data =
      (form.withOperations operations').findings data :=
  Schema.findings_of_holdAlike h form.schema data

theorem errors_withOperations :
    (form.withOperations operations).errors data =
      (form.withOperations operations').errors data := by
  rw [errors, errors, findings_withOperations h]
  rfl

theorem isValid_withOperations :
    (form.withOperations operations).isValid data =
      (form.withOperations operations').isValid data := by
  rw [isValid, isValid, findings_withOperations h]

theorem resolveWith_withOperations (policy : Policy) (state : Visibility) :
    (form.withOperations operations).resolveWith policy state data =
      (form.withOperations operations').resolveWith policy state data := by
  rw [resolveWith, resolveWith, errors_withOperations h]

end Form

/-- Registered operations are carried out under names that no operator has, and under these alone:
where the same ones are registered there, each rule has the same value for all data, whatever is
registered under the names of operators, and each form shows the same fields and has the same
errors, whatever is left of these by a policy. -/
theorem Rule.operators_are_not_shadowed (h : AgreeBesideOperators operations operations') :
    (∀ data rule, evaluate operations data rule = evaluate operations' data rule) ∧
      (∀ name ∉ Operator.names, ∀ operation,
        Dictionary.lookup name operations = some operation → ∀ data operands,
          evaluate operations data (.object [(name, .array operands)]) =
            operation (operands.map (evaluate operations data))) ∧
      ∀ (form : Form) (data : Json),
        (form.withOperations operations).visibility data =
            (form.withOperations operations').visibility data ∧
          (form.withOperations operations).errors data =
            (form.withOperations operations').errors data ∧
          (form.withOperations operations).isValid data =
            (form.withOperations operations').isValid data ∧
          (∀ policy state, (form.withOperations operations).resolveWith policy state data =
            (form.withOperations operations').resolveWith policy state data) ∧
          (form.withOperations operations).resolve data =
            (form.withOperations operations').resolve data := by
  have hholds := holdAlike_of_agree h
  refine ⟨evaluate_of_agree h, ?_, ?_⟩
  · intro name hname operation hlookup data operands
    rw [evaluate_application, applyNamed_of_not_mem_names hname, hlookup]
    rfl
  · intro form data
    have hvisibility := Form.visibility_withOperations hholds form data
    have hresolve := Form.resolveWith_withOperations hholds form data
    refine ⟨hvisibility, Form.errors_withOperations hholds form data,
      Form.isValid_withOperations hholds form data, hresolve, ?_⟩
    rw [Form.resolve, Form.resolve, hvisibility, hresolve]
    rfl

/-! ### Operations under the names of operators -/

namespace Modes

open Rule

/-- Beside the usual operation, two others under the names of operators that the rules apply. -/
def shadowing : Operations :=
  [("==", fun _ => .bool false), (regexMatchName, regexMatch), ("var", fun _ => .null)]

theorem agreeBesideOperators_shadowing : AgreeBesideOperators shadowing defaultOperations := by
  intro name hname
  have hequal : name ≠ "==" := fun heq => hname (by simp [heq, Operator.names])
  have hvar : name ≠ "var" := fun heq => hname (by simp [heq, Operator.names])
  simp [shadowing, defaultOperations, Dictionary.lookup_cons, hequal, hvar]

def form : Form where
  tree := tree
  options := {}
  operations := defaultOperations

/-- The mode is read and compared by the operators, and the note is visible. -/
theorem mode_is_read :
    evaluate shadowing data isFull = .bool true ∧
      (form.withOperations shadowing).visibility data = [("note", true)] := by
  obtain ⟨hvalue, -, hforms⟩ := operators_are_not_shadowed agreeBesideOperators_shadowing
  rw [hvalue, (hforms form data).1]
  exact ⟨rfl, rfl⟩

end Modes

end FormLogic
