import FormLogic.Proofs.Schema.Leaves
import FormLogic.Proofs.Tree.Correspondence
import FormLogic.Proofs.Tree.Within

/-!
# The same data under two schemas

The fields of two forms that are declared alike give rise to schemas with the same keys, so that the
check goes the same way through both.  A comparison between what is found by the one and what is
found by the other therefore holds of all data as soon as it holds at corresponding fields.
-/

namespace FormLogic.Schema

open FormLogic.Path

/-- A relation between lists of findings that comes with putting lists together, and holds between
findings of the same objection at the same path. -/
structure Comparison (related : List Finding → List Finding → Prop) : Prop where
  nil : related [] []
  append : ∀ {xs xs' ys ys'}, related xs xs' → related ys ys' → related (xs ++ ys) (xs' ++ ys')
  single : ∀ {x x' : Finding}, x.path = x'.path → x.objection = x'.objection → related [x] [x']

variable {related : List Finding → List Finding → Prop} {operations : Rule.Operations}

theorem Comparison.flatMap {α : Type} (h : Comparison related) {items : List α}
    {f g : α → List Finding} (hitems : ∀ item ∈ items, related (f item) (g item)) :
    related (items.flatMap f) (items.flatMap g) := by
  induction items with
  | nil => exact h.nil
  | cons item items ih =>
      rw [List.forall_mem_cons] at hitems
      rw [List.flatMap_cons, List.flatMap_cons]
      exact h.append hitems.1 (ih hitems.2)

/-! ### Schemas with the same keys -/

mutual

/-- Schemas with the same keys, where the leaves under the same keys are related. -/
inductive AgreeOn (leaves : Leaf → Leaf → Prop) : SchemaNode → SchemaNode → Prop where
  | leaf {l l' : Leaf} (h : leaves l l') : AgreeOn leaves (.leaf l) (.leaf l')
  | object {properties properties' : List (String × SchemaNode)}
      (h : List.Forall₂ (AgreeUnder leaves) properties properties') :
      AgreeOn leaves (.object properties) (.object properties')

/-- Entries under the same key with schemas that agree. -/
inductive AgreeUnder (leaves : Leaf → Leaf → Prop) :
    String × SchemaNode → String × SchemaNode → Prop where
  | entry {key : String} {node node' : SchemaNode} (h : AgreeOn leaves node node') :
      AgreeUnder leaves (key, node) (key, node')

end

section

variable {leaves : Leaf → Leaf → Prop} {properties properties' : Properties}

theorem agreeUnder_insert (key : String) {node node' : SchemaNode}
    (hnode : AgreeOn leaves node node')
    (h : List.Forall₂ (AgreeUnder leaves) properties properties') :
    List.Forall₂ (AgreeUnder leaves) (Dictionary.insert key node properties)
      (Dictionary.insert key node' properties') := by
  induction h with
  | nil => exact .cons (.entry hnode) .nil
  | cons hentry hrest ih =>
      cases hentry with
      | @entry k _ _ hagree =>
          rw [Dictionary.insert, Dictionary.insert]
          split
          · exact .cons (.entry hnode) hrest
          split
          · exact .cons (.entry hnode) (.cons (.entry hagree) hrest)
          · exact .cons (.entry hagree) ih

theorem agreeUnder_inner (key : String)
    (h : List.Forall₂ (AgreeUnder leaves) properties properties') :
    List.Forall₂ (AgreeUnder leaves) (inner key properties) (inner key properties') := by
  induction h with
  | nil => exact .nil
  | cons hentry _ ih =>
      cases hentry with
      | @entry k _ _ hagree =>
          rw [inner, inner, Dictionary.lookup_cons, Dictionary.lookup_cons]
          by_cases hkey : key = k
          · rw [if_pos hkey, if_pos hkey]
            cases hagree with
            | leaf _ => exact .nil
            | object hinner => exact hinner
          · rw [if_neg hkey, if_neg hkey]
            exact ih

theorem agreeUnder_insertAt {l l' : Leaf} (hleaf : leaves l l') (place : List String)
    (h : List.Forall₂ (AgreeUnder leaves) properties properties') :
    List.Forall₂ (AgreeUnder leaves) (insertAt place l properties)
      (insertAt place l' properties') := by
  induction place generalizing properties properties' with
  | nil => exact h
  | cons key rest ih =>
      -- At the last part of a name stands a leaf, at the others an object with all that was below.
      by_cases hrest : rest = []
      · subst hrest
        exact agreeUnder_insert key (.leaf hleaf) h
      · rw [insertAt_cons hrest, insertAt_cons hrest]
        exact agreeUnder_insert key (.object (ih (agreeUnder_inner key h))) h

/-- Fields of the same names with related leaves have schemas that agree. -/
theorem agreeUnder_insertAll {fields fields' : List Field}
    (hfields : List.Forall₂ (fun f f' => f.name = f'.name ∧ leaves (leafOf f) (leafOf f'))
      fields fields')
    (h : List.Forall₂ (AgreeUnder leaves) properties properties') :
    List.Forall₂ (AgreeUnder leaves) (insertAll fields properties)
      (insertAll fields' properties') := by
  induction hfields generalizing properties properties' with
  | nil =>
      rw [insertAll, insertAll]
      exact h
  | cons hfield _ ih =>
      obtain ⟨hname, hleaf⟩ := hfield
      rw [insertAll_cons, insertAll_cons, hname]
      exact ih (agreeUnder_insertAt hleaf _ h)

end

/-! ### Findings of schemas that agree -/

/-- What is found at a leaf and below it is related to what is found at another one. -/
def LeavesCompare (related : List Finding → List Finding → Prop) (operations : Rule.Operations)
    (l l' : Leaf) : Prop :=
  ∀ scope path value, related (l.check operations scope path value)
    (l'.check operations scope path value)

theorem Comparison.checkProperties {properties properties' : Properties}
    (h : Comparison related)
    (hnodes : ∀ key node, (key, node) ∈ properties → ∀ node',
      AgreeOn (LeavesCompare related operations) node node' → ∀ scope path key value,
        related (node.check operations scope path key value)
          (node'.check operations scope path key value))
    (hproperties : List.Forall₂ (AgreeUnder (LeavesCompare related operations)) properties
      properties') (scope : Json) (parent : String) (value : Option Json) :
    related (checkProperties operations scope parent value properties)
      (checkProperties operations scope parent value properties') := by
  induction hproperties with
  | nil =>
      rw [Schema.checkProperties]
      exact h.nil
  | cons hentry _ ih =>
      cases hentry with
      | @entry key node node' hagree =>
          rw [Schema.checkProperties, Schema.checkProperties]
          refine h.append (hnodes key node (List.mem_cons_self ..) node' hagree _ _ _ _) (ih ?_)
          intro k n hmem
          exact hnodes k n (List.mem_cons_of_mem _ hmem)

theorem Comparison.check_node (h : Comparison related) (node : SchemaNode) : ∀ node',
    AgreeOn (LeavesCompare related operations) node node' → ∀ scope path key value,
      related (node.check operations scope path key value)
        (node'.check operations scope path key value) := by
  induction node using SchemaNode.induction with
  | leaf l =>
      intro node' hagree scope path key value
      cases hagree with
      | leaf hleaf =>
          rw [SchemaNode.check, SchemaNode.check]
          exact hleaf scope path value
  | object properties ih =>
      intro node' hagree scope path key value
      cases hagree with
      | object hproperties =>
          -- Whether the check goes below an object depends on the value alone.
          cases hvalue : isObjectOrAbsent value with
          | true =>
              rw [check_object_of_open hvalue, check_object_of_open hvalue]
              exact h.checkProperties ih hproperties scope path value
          | false =>
              rw [check_object_of_blocked hvalue, check_object_of_blocked hvalue]
              exact h.single rfl rfl

/-! ### Findings of fields -/

/-- A field and another one of the same name: what the leaf of the one takes, the leaf of the other
takes, what the leaf of the one objects to is related to what is found there by the other, and so
are their conditions. -/
structure FieldsCompare (related : List Finding → List Finding → Prop)
    (operations : Rule.Operations) (f f' : Field) : Prop where
  name : f.name = f'.name
  accepts : ∀ v, (leafOf f).objection? v = none → (leafOf f').objection? v = none
  refuses : ∀ {o scope path value}, (leafOf f).objection? (Json.orNull value) = some o →
    related [(leafOf f).rules.finding path o] ((leafOf f').check operations scope path value)
  conditions : ∀ scope parent,
    related (checkConditions operations scope parent (conditionOf f).toList)
      (checkConditions operations scope parent (conditionOf f').toList)

theorem checkConditions_cons (scope : Json) (parent : String) (f : Field) (fields : List Field) :
    checkConditions operations scope parent ((f :: fields).filterMap conditionOf) =
      checkConditions operations scope parent (conditionOf f).toList ++
        checkConditions operations scope parent (fields.filterMap conditionOf) := by
  rw [checkConditions, checkConditions, checkConditions, ← List.filterMap_append]
  cases hcondition : conditionOf f <;> simp [hcondition]

/-- What is found at an object by fields is related to what is found there by others if fields and
leaves are. -/
theorem Comparison.checkFields (h : Comparison related) {fields fields' : List Field}
    (hfields : List.Forall₂
      (fun f f' => FieldsCompare related operations f f' ∧
        LeavesCompare related operations (leafOf f) (leafOf f')) fields fields')
    (scope : Json) (parent : String) (object : Json) :
    related (checkFields operations scope parent object fields)
      (checkFields operations scope parent object fields') := by
  have hproperties : List.Forall₂ (AgreeUnder (LeavesCompare related operations))
      (insertAll fields []) (insertAll fields' []) := by
    refine agreeUnder_insertAll (hfields.imp ?_) .nil
    intro f f' hfield
    exact ⟨hfield.1.name, hfield.2⟩
  have hconditions : related
      (checkConditions operations scope parent (fields.filterMap conditionOf))
      (checkConditions operations scope parent (fields'.filterMap conditionOf)) := by
    clear hproperties
    induction hfields with
    | nil => exact h.nil
    | cons hfield _ ih =>
        rw [checkConditions_cons, checkConditions_cons]
        exact h.append (hfield.1.conditions scope parent) ih
  exact h.append
    (h.checkProperties (fun _ node _ => h.check_node node) hproperties scope parent (some object))
    hconditions

section

variable {r : Attributes → Attributes → Prop}

/-- Leaves of corresponding fields are compared item by item once the fields are, by induction on
the fields that a field repeats. -/
theorem Comparison.leavesCompare (h : Comparison related)
    (hr : ∀ f f', Field.Corresponds r f f' → FieldsCompare related operations f f') (f : Field) :
    ∀ f', Field.Corresponds r f f' →
      LeavesCompare related operations (leafOf f) (leafOf f') := by
  induction f using Field.induction with
  | single info shape =>
      intro f' hf scope path value
      cases hobjection : (leafOf (.single info shape)).objection? (Json.orNull value) with
      | some o =>
          rw [check_of_objection hobjection]
          exact (hr _ f' hf).refuses hobjection
      | none =>
          have hobjection' := (hr _ f' hf).accepts _ hobjection
          have hsingle : ∃ info' shape', f' = .single info' shape' := by
            cases hf <;> exact ⟨_, _, rfl⟩
          obtain ⟨info', shape', rfl⟩ := hsingle
          rw [check_leafOf_single hobjection, check_leafOf_single hobjection']
          exact h.nil
  | repeating info items minItems maxItems ih =>
      intro f' hf scope path value
      cases hobjection : (leafOf (.repeating info items minItems maxItems)).objection?
          (Json.orNull value) with
      | some o =>
          rw [check_of_objection hobjection]
          exact (hr _ f' hf).refuses hobjection
      | none =>
          have hobjection' := (hr _ f' hf).accepts _ hobjection
          cases hf with
          | @repeating a a' _ items' _ hitems =>
              obtain ⟨entries, hentries, hcheck⟩ :=
                check_leafOf_repeating operations scope path hobjection
              obtain ⟨entries', hentries', hcheck'⟩ :=
                check_leafOf_repeating operations scope path hobjection'
              obtain rfl : entries = entries' := Option.some.inj (hentries.symm.trans hentries')
              rw [hcheck, hcheck']
              -- Both leaves go through the same items; one that is no object has the same finding.
              apply h.flatMap
              rintro ⟨item, index⟩ -
              have hfields := (List.forall₂_and_left _ _).mpr ⟨ih, hitems⟩
              cases item with
              | object entries =>
                  refine h.checkFields (hfields.imp ?_) _ _ _
                  intro g g' hg
                  exact ⟨hr g g' hg.2, hg.1 g' hg.2⟩
              | _ => exact h.single rfl rfl

/-- What is found in data by corresponding fields is related as soon as it is at each two of them.
-/
theorem Comparison.check_of_corresponds (h : Comparison related)
    (hr : ∀ f f', Field.Corresponds r f f' → FieldsCompare related operations f f')
    {fields fields' : List Field} (hfields : List.Forall₂ (Field.Corresponds r) fields fields')
    (data : Json) :
    related ((ofFields fields).check operations data)
      ((ofFields fields').check operations data) := by
  refine h.checkFields (hfields.imp ?_) data "" data
  intro f f' hf
  exact ⟨hr f f' hf, h.leavesCompare hr f f' hf⟩

end

end FormLogic.Schema
