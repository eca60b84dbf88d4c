import FormLogic.Proofs.Configuration.Rewriting
import FormLogic.Proofs.Json.Normal
import FormLogic.Proofs.SeparateFields

/-!
# A change and the resets that it calls for

A change of a value calls for one reset of each field that was declared to depend on the changed one
and to be reset with it, in the order of the declarations.  The resets are those of other fields, so
that they leave the changed value as it is: the form does not call for them a second time.
-/

namespace FormLogic

/-- A value is the same in two states of the data if it is missing from both, or equal in both. -/
theorem valueChanged_eq_false_iff {previous current : Json} {path : String} :
    valueChanged previous current path = false ↔
      Option.Rel Json.Equal (Path.get previous path) (Path.get current path) := by
  rw [valueChanged, Bool.not_eq_false', Json.sameOption_eq_true_iff]

theorem valueChanged_of_get_eq {previous current : Json} {path : String}
    (hprevious : previous.Normal) (h : Path.get current path = Path.get previous path) :
    valueChanged previous current path = false := by
  rw [valueChanged, h, Path.sameOption_get_self hprevious, Bool.not_true]

/-! ### What was declared -/

/-- The field is reset as its declaration says: when the declared field changes, unless the
declaration exempts it, and to the declared default. -/
structure Field.ResetAsDeclared (f : Field) (a : Attributes) : Prop where
  name : f.name = a.trimmedName
  parent : f.dependsOn = a.dependsOn
  resets : f.info.resetsWithParent = true ↔ a.resetOnParentChange ≠ some false
  defaultValue : f.info.defaultValue = a.defaultValue

theorem Field.resetAsDeclared_of_info_eq {f : Field} {a : Attributes} (h : f.info = a.fieldInfo) :
    f.ResetAsDeclared a where
  name := congrArg FieldInfo.name h
  parent := congrArg FieldInfo.dependsOn h
  resets := by
    rw [h]
    show a.resetOnParentChange.getD true = true ↔ a.resetOnParentChange ≠ some false
    cases a.resetOnParentChange with
    | none => simp
    | some resets => cases resets <;> simp
  defaultValue := congrArg FieldInfo.defaultValue h

theorem Tree.forall₂_resetAsDeclared {t : Tree} {catalog : Option (List String)}
    {ds : List Declaration} (h : Tree.build catalog ds = .ok t) :
    List.Forall₂ Field.ResetAsDeclared t.fields (Declaration.declaredFieldsAll ds) := by
  have hyields := Declaration.yields_of_checkRoots_eq_ok (Tree.build_eq_ok_iff.mp h).1
  have hinfos := Tree.map_info_fields hyields
  rw [← List.forall₂_eq_eq_eq, List.forall₂_map_left_iff, List.forall₂_map_right_iff] at hinfos
  exact hinfos.imp fun _ _ => Field.resetAsDeclared_of_info_eq

namespace Form

variable {form : Form} {changed : String} {previous current : Json}

theorem fieldChanged_of_not_valueChanged (hsame : valueChanged previous current changed = false) :
    form.fieldChanged changed previous current = [] := by
  rw [fieldChanged, hsame, if_neg Bool.false_ne_true]

/-- The resets that a change of a value calls for, in the order of the form. -/
theorem fieldChanged_of_valueChanged (h : form.tree.Accepted)
    (hchanged : valueChanged previous current changed = true) :
    form.fieldChanged changed previous current =
      (form.fields.filter fun f => f.dependsOn == some changed && f.info.resetsWithParent).map
        fun f => ⟨f.name, f.info.defaultValue.getD f.structuralDefault⟩ := by
  rw [fieldChanged, if_pos hchanged, dependencies, Reset.owed_eq h.names_nodup, Field.dependents,
    List.filter_filter]
  simp only [Bool.and_comm]
  rfl

/-- The resets that a change of a field calls for are those of other fields. -/
theorem separate_of_mem_fieldChanged (h : form.tree.Accepted)
    (hplain : ∀ f ∈ form.fields, Path.Plain f.name) {r : Reset}
    (hr : r ∈ form.fieldChanged changed previous current) :
    ∃ parent ∈ form.fields, parent.name = changed ∧ Path.Separate changed r.field := by
  obtain ⟨-, f, hf, hparent, -, rfl⟩ := (mem_fieldChanged_iff h).mp hr
  obtain ⟨hne, info, hinfo, hname⟩ :=
    h.coherent.parents_known f.info (List.mem_map_of_mem hf) changed hparent
  obtain ⟨parent, hmem, rfl⟩ := List.mem_map.mp hinfo
  obtain rfl : parent.name = changed := hname
  exact ⟨parent, hmem, rfl, (separatesFields_of_plain h hplain).separate_of_ne hmem hf hne⟩

/-- The resets that a change calls for do not change its field again. -/
theorem get_applyAll_fieldChanged (h : form.tree.Accepted)
    (hplain : ∀ f ∈ form.fields, Path.Plain f.name)
    (hunlisted : ∀ f ∈ form.fields, Path.Unlisted f.name current) :
    Path.get (Reset.applyAll current (form.fieldChanged changed previous current)) changed =
      Path.get current changed := by
  have hseparate : ∀ r ∈ form.fieldChanged changed previous current,
      ∃ parent ∈ form.fields, parent.name = changed ∧ Path.Separate changed r.field :=
    fun r hr => separate_of_mem_fieldChanged h hplain hr
  cases hresets : form.fieldChanged changed previous current with
  | nil => rfl
  | cons r resets =>
      rw [hresets] at hseparate
      -- There is a reset, so that a field has the name.
      obtain ⟨parent, hmem, hname, -⟩ := hseparate r (List.mem_cons_self ..)
      apply Reset.get_applyAll_of_unlisted (hname ▸ hunlisted parent hmem)
      intro s hs
      obtain ⟨-, -, -, hsep⟩ := hseparate s hs
      exact hsep

/-- Nothing is called for if the value of the field is the same in both states.  If it is not, what
is called for is one reset of each field that depends on it and is reset with it, in the order of
the form, to the declared default or else to the one of its shape.  These are fields that were
declared to be so, and once they have been reset no reset is called for any more. -/
theorem resets_are_owed (h : form.tree.Accepted) (changed : String) (previous current : Json) :
    (Option.Rel Json.Equal (Path.get previous changed) (Path.get current changed) →
        form.fieldChanged changed previous current = []) ∧
      (¬ Option.Rel Json.Equal (Path.get previous changed) (Path.get current changed) →
        form.fieldChanged changed previous current =
          (form.fields.filter fun f => f.dependsOn == some changed && f.info.resetsWithParent).map
            fun f => ⟨f.name, f.info.defaultValue.getD f.structuralDefault⟩) ∧
      ((form.fieldChanged changed previous current).map Reset.field).Nodup ∧
      (∀ catalog ds, Tree.build catalog ds = .ok form.tree →
        List.Forall₂ Field.ResetAsDeclared form.fields (Declaration.declaredFieldsAll ds)) ∧
      (∀ entries a, Attributes.read? entries = some a →
        a.defaultValue = Dictionary.lookup "defaultValue" entries) ∧
      ((∀ f ∈ form.fields, Path.Plain f.name) →
        (∀ f ∈ form.fields, Path.Unlisted f.name current) → current.Normal →
          form.fieldChanged changed current
            (Reset.applyAll current (form.fieldChanged changed previous current)) = []) := by
  refine ⟨?_, ?_, nodup_fieldChanged h changed previous current, ?_, ?_, ?_⟩
  · intro hsame
    exact fieldChanged_of_not_valueChanged (valueChanged_eq_false_iff.mpr hsame)
  · intro hdiffers
    rw [← valueChanged_eq_false_iff, Bool.not_eq_false] at hdiffers
    exact fieldChanged_of_valueChanged h hdiffers
  · intro catalog ds hbuild
    exact Tree.forall₂_resetAsDeclared hbuild
  · intro entries a hread
    exact (Attributes.readFrom_of_read? hread).defaultValue.symm
  · intro hplain hunlisted hnormal
    apply fieldChanged_of_not_valueChanged
    exact valueChanged_of_get_eq hnormal (get_applyAll_fieldChanged h hplain hunlisted)

end Form

/-! ### A city that is cleared -/

namespace Region

/-- A city and a note that depend on a country; the note is kept when the country changes. -/
def declarations : List Declaration :=
  [.element { kind := some "text", name := some "country" } none none,
    .element { kind := some "text", name := some "city", dependsOn := some "country",
               defaultValue := some .null } none none,
    .element { kind := some "text", name := some "note", dependsOn := some "country",
               resetOnParentChange := some false } none none]

def country : Field := .single (Jobs.plainInfo "text" "country") .generic

def city : Field :=
  .single
    { Jobs.plainInfo "text" "city" with
      dependsOn := some "country", defaultValue := some .null }
    .generic

def note : Field :=
  .single
    { Jobs.plainInfo "text" "note" with
      dependsOn := some "country", resetsWithParent := false }
    .generic

def form : Form where
  tree := ⟨[.field country, .field city, .field note]⟩
  options := {}
  operations := Rule.defaultOperations

theorem build_form : Tree.build none declarations = .ok form.tree := rfl

def before : Json := .ofEntries [("city", .text "kyiv"), ("country", .text "ua")]

def after : Json := .ofEntries [("city", .text "kyiv"), ("country", .text "us")]

/-- The city is reset to `null`, as it was declared, and only once. -/
theorem city_is_cleared :
    form.fieldChanged "country" before before = [] ∧
      form.fieldChanged "country" before after = [⟨"city", .null⟩] ∧
      List.Forall₂ Field.ResetAsDeclared form.fields
        (Declaration.declaredFieldsAll declarations) ∧
      (∃ a, Attributes.read? [("defaultValue", .null)] = some a ∧ a.defaultValue = some .null) ∧
      form.fieldChanged "country" after
        (Reset.applyAll after (form.fieldChanged "country" before after)) = [] := by
  have haccepted : form.tree.Accepted := ⟨none, declarations, build_form⟩
  have hplain : ∀ f ∈ form.fields, Path.Plain f.name := Form.plain_of_names (by decide +kernel)
  have hunlisted : ∀ f ∈ form.fields, Path.Unlisted f.name after := by
    have hnames : ∀ name ∈ form.fields.map Field.name, Path.segments name = [name] := by
      decide +kernel
    intro f hf
    exact Path.unlisted_of_segments_eq_singleton (hnames f.name (List.mem_map_of_mem hf)) nofun
  have hnormal : after.Normal := .ofEntries (by simp [Json.Normal.text])
  have hsame : Option.Rel Json.Equal (Path.get before "country") (Path.get before "country") :=
    valueChanged_eq_false_iff.mp (by decide +kernel)
  have hdiffers : ¬ Option.Rel Json.Equal (Path.get before "country") (Path.get after "country") :=
    mt valueChanged_eq_false_iff.mpr (by decide +kernel)
  obtain ⟨hnone, -, -, hdeclared, hread, -⟩ :=
    Form.resets_are_owed haccepted "country" before before
  obtain ⟨-, howed, -, -, -, honce⟩ := Form.resets_are_owed haccepted "country" before after
  obtain ⟨a, ha⟩ : ∃ a, Attributes.read? [("defaultValue", .null)] = some a := ⟨_, rfl⟩
  exact ⟨hnone hsame, howed hdiffers, hdeclared none declarations build_form,
    ⟨a, ha, hread _ a ha⟩, honce hplain hunlisted hnormal⟩

end Region

end FormLogic
