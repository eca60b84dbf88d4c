import FormLogic.Proofs.Reset
import FormLogic.Proofs.Schema.Comparison
import FormLogic.Proofs.Schema.FirstFindings

/-!
# Texts and verdicts

Labels and messages are what a form says to whoever fills it in.  Two configurations that differ in
nothing else make forms that come to the same verdicts on all data: they find the same errors at the
same paths, show the same fields, and reset them to the same values.
-/

namespace FormLogic

/-! ### Configurations that differ in texts -/

def Constraints.withoutMessage (c : Constraints) : Constraints := { c with message := none }

/-- Attributes that are the same but for the label, for the message of the constraints, and for the
labels of choices. -/
structure Attributes.SameButTexts (a a' : Attributes) : Prop where
  rest : { a with label := none, constraints := none, choices := none } =
    { a' with label := none, constraints := none, choices := none }
  constraints : (a.constraints.getD {}).withoutMessage = (a'.constraints.getD {}).withoutMessage
  choices : a.choices.map (List.map Choice.value) = a'.choices.map (List.map Choice.value)

/-- Documents that are the same but for such texts and for the templates of messages. -/
structure Document.SameButTexts (document document' : Document) : Prop where
  declarations : List.Forall₂ (Declaration.Corresponds Attributes.SameButTexts)
    document.declarations document'.declarations
  policy : document.options.policy = document'.options.policy

/-! ### Verdicts -/

/-- The code and the severity of each error, without its message. -/
def FieldErrors.verdicts (errors : FieldErrors) : Dictionary (String × Severity) :=
  Dictionary.mapValues (fun _ e => (e.code, e.severity)) errors

/-- What a finding says apart from texts. -/
def Finding.verdict (x : Finding) : String × Objection := (x.path, x.objection)

namespace Schema

def Rules.withoutTexts (r : Rules) : Rules := { r with label := "", message := none }

/-- Findings of the same verdicts. -/
def SameVerdicts (xs xs' : List Finding) : Prop :=
  xs.map Finding.verdict = xs'.map Finding.verdict

theorem comparison_sameVerdicts : Comparison SameVerdicts where
  nil := rfl
  append := by
    intro xs xs' ys ys' hxs hys
    rw [SameVerdicts, List.map_append, List.map_append, hxs, hys]
  single := by
    intro x x' hpath hobjection
    simp [SameVerdicts, Finding.verdict, hpath, hobjection]

/-- Which finding is the first one at a path is a matter of verdicts. -/
theorem mapValues_firstFindings {α : Type} (f : Objection → α) (xs : List Finding) :
    Dictionary.mapValues (fun _ (x : Finding) => f x.objection) (firstFindings xs) =
      (xs.map Finding.verdict).foldl (fun d v => Dictionary.insertNew v.1 (f v.2) d) [] := by
  -- The induction is on the findings, for whatever was found before them.
  have hfold : ∀ d : Dictionary Finding,
      Dictionary.mapValues (fun _ (x : Finding) => f x.objection)
          (xs.foldl (fun d x => Dictionary.insertNew x.path x d) d) =
        (xs.map Finding.verdict).foldl (fun d v => Dictionary.insertNew v.1 (f v.2) d)
          (Dictionary.mapValues (fun _ (x : Finding) => f x.objection) d) := by
    induction xs with
    | nil =>
        intro d
        rfl
    | cons x xs ih =>
        intro d
        rw [List.foldl_cons, List.map_cons, List.foldl_cons, ih,
          Dictionary.mapValues_insertNew (fun x : Finding => f x.objection)]
        rfl
  exact hfold []

end Schema

namespace FieldErrors

theorem verdicts_ofFindings (catalog : Template.Catalog) (findings : Dictionary Finding) :
    (ofFindings catalog findings).verdicts =
      Dictionary.mapValues (fun _ (x : Finding) => (x.objection.code.name, Severity.error))
        findings := by
  rw [verdicts, ofFindings, Dictionary.mapValues, Dictionary.mapValues, List.map_map]
  rfl

variable {errors errors' : FieldErrors}

/-- What a policy leaves of errors is a matter of verdicts. -/
theorem verdicts_filter (policy : Policy) (state : Visibility)
    (h : errors.verdicts = errors'.verdicts) :
    (filter policy state errors).verdicts = (filter policy state errors').verdicts := by
  have hskip (es : FieldErrors) : (filter .skip state es).verdicts =
      List.filter (fun entry => state.showsPath entry.1) es.verdicts := by
    simp [filter, verdicts, Dictionary.mapValues, List.filter_map, Function.comp_def]
  have hwarn (es : FieldErrors) : (filter .warn state es).verdicts =
      Dictionary.mapValues
        (fun path v => if state.showsPath path then v else (v.1, .warning)) es.verdicts := by
    simp only [filter, verdicts, Dictionary.mapValues, List.map_map, List.map_inj_left]
    intro entry _
    cases hshown : state.showsPath entry.1 <;> simp [hshown]
  cases policy with
  | skip => rw [hskip, hskip, h]
  | warn => rw [hwarn, hwarn, h]
  | validate => exact h

end FieldErrors

/-! ### Fields that differ in texts -/

namespace Attributes.SameButTexts

variable {a a' : Attributes}

theorem akin (h : a.SameButTexts a') : a.Akin a' := by
  have hkind : a.kind = a'.kind := by simpa using congrArg Attributes.kind h.rest
  have hprovider : a.choicesProvider = a'.choicesProvider := by
    simpa using congrArg Attributes.choicesProvider h.rest
  have hchoices : a.choices.isSome = a'.choices.isSome := by
    simpa using congrArg Option.isSome h.choices
  constructor
  · have hrest := congrArg
      (fun b : Attributes => { b with choicesProvider := none, minItems := none, maxItems := none })
      h.rest
    exact hrest
  · rw [AsksForChoices, AsksForChoices, trimmedKind, trimmedKind, hchoices, hprovider, hkind]

theorem choices_eq (h : a.SameButTexts a') :
    (a.choices.getD []).map Choice.value = (a'.choices.getD []).map Choice.value := by
  have hchoices := h.choices
  cases ha : a.choices <;> cases ha' : a'.choices <;> simp_all

end Attributes.SameButTexts

namespace Field.Corresponds

open Schema

variable {f f' : Field} (h : Corresponds Attributes.SameButTexts f f')

include h

theorem constraints_eq : f.constraints.withoutMessage = f'.constraints.withoutMessage := by
  obtain ⟨a, a', ha, hinfo, hinfo'⟩ := h.exists_info
  rw [Field.constraints, Field.constraints, hinfo, hinfo']
  exact ha.constraints

theorem name_eq_of_sameButTexts : f.name = f'.name := h.name_eq fun _ _ ha => ha.akin

theorem rulesOf_eq : (rulesOf f).withoutTexts = (rulesOf f').withoutTexts := by
  have hconstraints := h.constraints_eq
  simp only [Constraints.withoutMessage, Constraints.mk.injEq] at hconstraints
  obtain ⟨hrequired, hmin, hmax, hpattern, -, -⟩ := hconstraints
  simp only [rulesOf, Rules.withoutTexts, h.name_eq_of_sameButTexts, hrequired, hmin, hmax,
    hpattern]

/-- The leaf objects to the same values, in the same way. -/
theorem objection?_eq (v : Json) : (leafOf f).objection? v = (leafOf f').objection? v := by
  -- An objection does not depend on the label and the message of rules.
  have hbase (base : Base) : base.objection (rulesOf f) v = base.objection (rulesOf f') v := by
    have hobjection := congrArg (fun r => Base.objection r base v) h.rulesOf_eq
    exact hobjection
  have hcount (lo hi : Option Nat) (n : Nat) :
      (rulesOf f).count lo hi n = (rulesOf f').count lo hi n := by
    have hobjection := congrArg (fun r => Rules.count r lo hi n) h.rulesOf_eq
    exact hobjection
  cases h with
  | delegate ha =>
      rw [leafOf, leafOf]
      exact hbase .any
  | @repeating a a' _ _ ha _ =>
      have hmin : a.minItems = a'.minItems := by
        simpa using congrArg Attributes.minItems ha.rest
      have hmax : a.maxItems = a'.maxItems := by
        simpa using congrArg Attributes.maxItems ha.rest
      rw [leafOf, leafOf, Leaf.objection?, Leaf.objection?]
      simp only [hcount]
      rw [hmin, hmax]
  | @choice a a' ha =>
      have hshape : baseOf (.ofType a.trimmedKind) a.choiceShape =
          baseOf (.ofType a'.trimmedKind) a'.choiceShape := by
        have hprovider : a.choicesProvider = a'.choicesProvider := by
          simpa using congrArg Attributes.choicesProvider ha.rest
        have hmultiple : a.multiple = a'.multiple := by
          simpa using congrArg Attributes.multiple ha.rest
        rw [Attributes.choiceShape, Attributes.choiceShape, hprovider, hmultiple,
          ha.akin.trimmedKind_eq]
        cases a'.choicesProvider with
        | none => rw [baseOf, baseOf, ha.choices_eq]
        | some provider => rw [baseOf, baseOf]
      have hobjection := congrArg
        (fun base => Base.objection (rulesOf (.single a'.fieldInfo a'.choiceShape)) base v) hshape
      rw [leafOf, leafOf, Leaf.objection?, Leaf.objection?, hbase]
      exact hobjection
  | @generic a a' ha =>
      have hkind : a.fieldInfo.kind = a'.fieldInfo.kind := ha.akin.trimmedKind_eq
      rw [leafOf, leafOf, Leaf.objection?, Leaf.objection?, hbase, hkind]

theorem sameVerdicts_conditions (operations : Rule.Operations) (scope : Json) (parent : String) :
    SameVerdicts (checkConditions operations scope parent (conditionOf f).toList)
      (checkConditions operations scope parent (conditionOf f').toList) := by
  have hcondition : f.constraints.condition = f'.constraints.condition := by
    have hconstraints := congrArg Constraints.condition h.constraints_eq
    exact hconstraints
  rw [conditionOf, conditionOf, hcondition, h.name_eq_of_sameButTexts]
  cases f'.constraints.condition with
  | none => rfl
  | some rule =>
      cases hholds : Rule.holds operations scope rule <;>
        simp [checkConditions, hholds, SameVerdicts, Finding.verdict]

theorem fieldsCompare (operations : Rule.Operations) :
    FieldsCompare SameVerdicts operations f f' where
  name := h.name_eq_of_sameButTexts
  accepts := by
    intro v hv
    rw [← h.objection?_eq]
    exact hv
  refuses := by
    intro o scope path value ho
    rw [check_of_objection (h.objection?_eq _ ▸ ho)]
    exact comparison_sameVerdicts.single rfl rfl
  conditions := h.sameVerdicts_conditions operations

/-- The field falls back to the same value. -/
theorem reset_eq : f.reset = f'.reset := by
  have hdefault : f.info.defaultValue = f'.info.defaultValue := by
    have hinfo := congrArg FieldInfo.defaultValue (h.info_eq fun _ _ ha => ha.akin)
    exact hinfo
  have hstructural : f.structuralDefault = f'.structuralDefault := by
    cases h with
    | delegate _ => rfl
    | repeating _ _ => rfl
    | @choice a a' ha =>
        have hmultiple : a.multiple = a'.multiple := by
          simpa using congrArg Attributes.multiple ha.rest
        rw [Attributes.choiceShape, Attributes.choiceShape, hmultiple, ha.akin.trimmedKind_eq]
        cases a'.multiple.getD (a'.trimmedKind == Attributes.multipleType) <;> rfl
    | @generic a a' ha =>
        have hkind : a.fieldInfo.kind = a'.fieldInfo.kind := ha.akin.trimmedKind_eq
        rw [Field.structuralDefault, Field.structuralDefault, hkind]
  rw [Field.reset, Field.reset, Field.resetValue, Field.resetValue, hdefault, hstructural,
    h.name_eq_of_sameButTexts]

end Field.Corresponds

/-! ### Forms that differ in texts -/

namespace Tree

variable {t t' : Tree} (h : t.Corresponds Attributes.SameButTexts t')

include h

theorem visibility_eq (operations : Rule.Operations) (data : Json) :
    Visibility.ofTree operations t data = Visibility.ofTree operations t' data := by
  have hentries : (Node.placedAll t.roots).map (Visibility.entry operations data true) =
      (Node.placedAll t'.roots).map (Visibility.entry operations data true) := by
    refine map_eq_map_of_forall₂ h ?_
    intro place place' hplace
    have hvisible : place.1.info.visible = place'.1.info.visible := by
      have hinfo := congrArg FieldInfo.visible (hplace.field.info_eq fun _ _ ha => ha.akin)
      exact hinfo
    rw [Visibility.entry, Visibility.entry, hplace.field.name_eq_of_sameButTexts, hplace.rules,
      hvisible]
  rw [Visibility.ofTree_eq_ofList, Visibility.ofTree_eq_ofList, hentries]

theorem resets_eq : t.fields.map Field.reset = t'.fields.map Field.reset :=
  map_eq_map_of_forall₂ h.fields fun _ _ hf => hf.reset_eq

/-- A change of a field calls for the same resets. -/
theorem owed_eq (ht : t.Accepted) (ht' : t'.Accepted) (changed : String) :
    Reset.owed t (.ofTree t) changed = Reset.owed t' (.ofTree t') changed := by
  -- In this form both sides read the fields in order, and none of them looks at another one.
  rw [Reset.owed_eq ht.names_nodup, Reset.owed_eq ht'.names_nodup]
  have hfields := h.fields
  generalize t.fields = fields at hfields
  generalize t'.fields = fields' at hfields
  induction hfields with
  | nil => rfl
  | @cons f f' _ _ hf _ ih =>
      have hinfo := hf.info_eq fun _ _ ha => ha.akin
      have hdepends : f.dependsOn = f'.dependsOn := by
        have hparent := congrArg FieldInfo.dependsOn hinfo
        exact hparent
      have hresets : f.info.resetsWithParent = f'.info.resetsWithParent := by
        have hflag := congrArg FieldInfo.resetsWithParent hinfo
        exact hflag
      simp only [Field.dependents, List.filter_cons, hdepends] at ih ⊢
      split
      · simp only [List.filter_cons, hresets]
        split
        · rw [List.map_cons, List.map_cons, hf.reset_eq, ih]
        · exact ih
      · exact ih

end Tree

namespace Form

/-- Accepted forms of one policy and the same operations, with fields that differ in texts. -/
structure SameButTexts (form form' : Form) : Prop where
  tree : form.tree.Corresponds Attributes.SameButTexts form'.tree
  policy : form.policy = form'.policy
  operations : form.operations = form'.operations
  accepted : form.tree.Accepted
  accepted' : form'.tree.Accepted

theorem sameButTexts_of_ofConfiguration {operations : Rule.Operations}
    {catalog catalog' : Option (List String)} {source source' : Json}
    {document document' : Document} {form form' : Form}
    (hform : ofConfiguration operations catalog source = .ok form)
    (hform' : ofConfiguration operations catalog' source' = .ok form')
    (hread : Document.read? source = some document)
    (hread' : Document.read? source' = some document') (h : document.SameButTexts document') :
    form.SameButTexts form' := by
  obtain ⟨hbuild, hoptions, hoperations⟩ := build_of_ofConfiguration hform hread
  obtain ⟨hbuild', hoptions', hoperations'⟩ := build_of_ofConfiguration hform' hread'
  constructor
  · exact Tree.corresponds_of_build (fun _ _ ha => ha.akin) h.declarations hbuild hbuild'
  · rw [policy, policy, hoptions, hoptions', h.policy]
  · rw [hoperations, hoperations']
  · exact accepted_of_ofConfiguration hform
  · exact accepted_of_ofConfiguration hform'

namespace SameButTexts

variable {form form' : Form} (h : form.SameButTexts form') (data : Json)

include h

theorem sameVerdicts_check : Schema.SameVerdicts (form.schema.check form.operations data)
    (form'.schema.check form'.operations data) := by
  rw [h.operations]
  exact Schema.comparison_sameVerdicts.check_of_corresponds
    (fun _ _ hf => hf.fieldsCompare form'.operations) h.tree.fields data

theorem verdicts_errors : (form.errors data).verdicts = (form'.errors data).verdicts := by
  have hchecks := h.sameVerdicts_check data
  rw [errors, errors, FieldErrors.verdicts_ofFindings, FieldErrors.verdicts_ofFindings, findings,
    findings, Schema.findings, Schema.findings,
    Schema.mapValues_firstFindings fun o => (o.code.name, Severity.error),
    Schema.mapValues_firstFindings fun o => (o.code.name, Severity.error), hchecks]

theorem isValid_eq : form.isValid data = form'.isValid data := by
  have hempty (f : Form) : f.isValid data = (f.errors data).verdicts.isEmpty := by
    simp [isValid, errors, FieldErrors.ofFindings, FieldErrors.verdicts, Dictionary.mapValues]
  rw [hempty, hempty, h.verdicts_errors]

theorem visibility_eq : form.visibility data = form'.visibility data := by
  rw [visibility, visibility, h.operations, Tree.visibility_eq h.tree]

theorem verdicts_resolveWith (policy : Policy) (state : Visibility) :
    (form.resolveWith policy state data).verdicts =
      (form'.resolveWith policy state data).verdicts :=
  FieldErrors.verdicts_filter policy state (h.verdicts_errors data)

theorem verdicts_resolve : (form.resolve data).verdicts = (form'.resolve data).verdicts := by
  rw [resolve, resolve, h.policy, h.visibility_eq]
  exact h.verdicts_resolveWith data form'.policy (form'.visibility data)

theorem fieldChanged_eq (field : String) (previous : Json) :
    form.fieldChanged field previous data = form'.fieldChanged field previous data := by
  rw [fieldChanged, fieldChanged, dependencies, dependencies,
    Tree.owed_eq h.tree h.accepted h.accepted']

theorem initialData_eq : form.initialData data = form'.initialData data := by
  have hresets : form.resets = form'.resets := Tree.resets_eq h.tree
  unfold initialData
  rw [hresets]

end SameButTexts

/-- Two forms whose configurations differ in texts alone come to the same verdicts: they find errors
of the same codes and severities at the same paths, whatever is left of these by a policy, show the
same fields, call for the same resets and start with the same data. -/
theorem texts_leave_verdicts {operations : Rule.Operations}
    {catalog catalog' : Option (List String)} {source source' : Json}
    {document document' : Document} {form form' : Form}
    (hform : ofConfiguration operations catalog source = .ok form)
    (hform' : ofConfiguration operations catalog' source' = .ok form')
    (hread : Document.read? source = some document)
    (hread' : Document.read? source' = some document') (h : document.SameButTexts document') :
    (∀ data, (form.errors data).verdicts = (form'.errors data).verdicts) ∧
      (∀ data, form.isValid data = form'.isValid data) ∧
      (∀ data, form.visibility data = form'.visibility data) ∧
      (∀ policy state data, (form.resolveWith policy state data).verdicts =
        (form'.resolveWith policy state data).verdicts) ∧
      (∀ data, (form.resolve data).verdicts = (form'.resolve data).verdicts) ∧
      (∀ field previous current,
        form.fieldChanged field previous current = form'.fieldChanged field previous current) ∧
      ∀ overrides, form.initialData overrides = form'.initialData overrides := by
  have hforms := sameButTexts_of_ofConfiguration hform hform' hread hread' h
  refine ⟨hforms.verdicts_errors, hforms.isValid_eq, hforms.visibility_eq, ?_,
    hforms.verdicts_resolve, ?_, hforms.initialData_eq⟩
  · intro policy state data
    exact hforms.verdicts_resolveWith data policy state
  · intro field previous current
    exact hforms.fieldChanged_eq current field previous

end Form

/-! ### One form in two wordings -/

namespace Wordings

/-- A field that is required, without a label. -/
def plain : Json :=
  .array
    [.object
      [("name", .text "a"), ("type", .text "text"),
        ("validation", .object [("required", .bool true)])]]

/-- The same field with a label and a message of its own, in a form that words messages itself. -/
def worded : Json :=
  .object
    [("elements",
      .array
        [.object
          [("label", .text "A"), ("name", .text "a"), ("type", .text "text"),
            ("validation", .object [("message", .text "No."), ("required", .bool true)])]]),
      ("options", .object [("messages", .object [("required", .text "Enter it.")])])]

def plainDocument : Document :=
  .elements
    [.element
      { kind := some "text", name := some "a", constraints := some { required := true } }
      none none]

def wordedDocument : Document :=
  .record
    [.element
      { kind := some "text", name := some "a", label := some "A",
        constraints := some { required := true, message := some "No." } }
      none none]
    { messages := [("required", "Enter it.")] }

theorem read?_plain : Document.read? plain = some plainDocument := rfl

theorem read?_worded : Document.read? worded = some wordedDocument := rfl

theorem sameButTexts : plainDocument.SameButTexts wordedDocument where
  declarations := .cons (.element ⟨rfl, rfl, rfl⟩ .none .none) .nil
  policy := rfl

/-- The missing value is found in the one form as it is in the other one. -/
theorem verdicts_agree :
    ∃ form form', Form.ofConfiguration Rule.defaultOperations none plain = .ok form ∧
      Form.ofConfiguration Rule.defaultOperations none worded = .ok form' ∧
        (form.errors (.object [])).verdicts = [("a", ("required", .error))] ∧
        (form'.errors (.object [])).verdicts = [("a", ("required", .error))] := by
  refine ⟨_, _, rfl, rfl, by decide +kernel, ?_⟩
  have hagree := @Form.texts_leave_verdicts Rule.defaultOperations none none plain worded
    plainDocument wordedDocument _ _ rfl rfl read?_plain read?_worded sameButTexts
  rw [← hagree.1]
  decide +kernel

end Wordings

end FormLogic
