import FormLogic.Proofs.ErrorMap
import FormLogic.Proofs.SeparateFields

/-!
# The data of a fresh form

A field without a default of its own starts with a value that its shape chooses and its leaf judges.
The leaf takes this value for one that nothing was entered into, and objects to it only if it asks
for something to be entered.  Where names have no empty part, the data of a fresh form therefore
have no error but that something is missing, or that a condition does not hold.
-/

namespace FormLogic

open Schema FormLogic.Path

/-! ### What a field can lack -/

/-- A field asks for more than what it starts with: it is required, asks for items, or has a
condition. -/
inductive Field.Lacks (f : Field) : Code → Prop where
  | required (h : f.isRequired = true) : Lacks f .required
  | minItems {info : FieldInfo} {items : List Field} {lo : Nat} {maxItems : Option Nat}
      (heq : f = .repeating info items (some lo) maxItems) (h : 1 ≤ lo) : Lacks f .minItems
  | condition (h : f.constraints.condition ≠ none) : Lacks f .condition

namespace Schema

/-- The bases of shapes take the value that a field of the shape starts with for a missing one. -/
theorem objection_structuralDefault (r : Rules) (info : FieldInfo) (shape : Shape) :
    (baseOf (.ofType info.kind) shape).objection r (Field.single info shape).structuralDefault =
      r.absent := by
  cases shape with
  | delegate component props => rfl
  | choice choices multiple provider => cases multiple <;> cases provider <;> rfl
  | generic =>
      rw [Field.structuralDefault]
      cases hkind : ValueKind.ofType info.kind <;> rfl

theorem lacks_of_objection {f : Field} {o : Objection}
    (h : (leafOf f).objection? f.structuralDefault = some o) : f.Lacks o.code := by
  cases f with
  | single info shape =>
      rw [leafOf, Leaf.objection?, objection_structuralDefault, Rules.absent] at h
      split at h
      · rename_i hrequired
        cases h
        exact .required hrequired
      · cases h
  | repeating info items minItems maxItems =>
      have hcount : (rulesOf (.repeating info items minItems maxItems)).count minItems maxItems 0 =
          some o := h
      rw [Rules.count] at hcount
      split at hcount
      · rename_i hrequired
        cases hcount
        rw [Bool.and_eq_true] at hrequired
        exact .required hrequired.2
      · split at hcount
        · rename_i lo hlo
          cases hcount
          obtain ⟨rfl, hpos⟩ := Option.filter_eq_some_iff.mp hlo
          exact .minItems rfl (of_decide_eq_true hpos)
        · split at hcount
          · rename_i hi hhi
            rw [Option.filter_eq_some_iff] at hhi
            simp at hhi
          · cases hcount

end Schema

/-! ### Values of a fresh form -/

namespace Form

variable {form : Form}

/-- The data of a fresh form hold the reset value of each field below objects. -/
theorem SeparatesFields.valueAt_initialData (h : form.SeparatesFields)
    (haccepted : form.tree.Accepted) {f : Field} (hf : f ∈ form.fields) :
    valueAt (segments f.name) (some (form.initialData .null)) = some f.resetValue := by
  obtain ⟨front, back, hresets, hback⟩ := exists_resets_of_mem haccepted hf
  have hseparate : ∀ s ∈ back, Separate f.reset.field s.field := by
    intro s hs
    obtain ⟨hne, g, hg, hname⟩ := hback s hs
    rw [← hname] at hne ⊢
    exact h.separate_of_ne hf hg hne.symm
  rw [hresets]
  exact Reset.valueAt_applyAll_self hseparate (.object []) front

theorem SeparatesFields.clear_initialData (h : form.SeparatesFields) {f : Field}
    (hf : f ∈ form.fields) (hplain : Plain f.name) :
    Clear f.name (some (form.initialData .null)) := by
  have hempty : Clear f.name (some (.object [])) := by
    intro above _
    obtain ⟨key, keys, hparts⟩ := List.exists_cons_of_ne_nil (parts_ne_nil above)
    have hnone : valueAt (key :: keys) (some (.object [])) = none := valueAt_none keys
    rw [hparts, hnone]
    rfl
  refine Reset.clear_applyAll hplain ?_ hempty
  intro r hr
  obtain ⟨g, hg, rfl⟩ := List.mem_map.mp hr
  by_cases hname : g.name = f.name
  · exact Or.inl hname
  · exact Or.inr (h.separate_of_ne hf hg (Ne.symm hname))

/-- All that is found in the data of a fresh form is found at a field that lacks something. -/
theorem lacks_of_mem_check (h : form.tree.Accepted) (hplain : ∀ f ∈ form.fields, Plain f.name)
    (hdefault : ∀ f ∈ form.fields, f.info.defaultValue = none) {x : Finding}
    (hx : x ∈ form.schema.check form.operations (form.initialData .null)) :
    ∃ f ∈ form.fields, x.path = f.name ∧ f.Lacks x.objection.code := by
  have hseparate : form.SeparatesFields := separatesFields_of_plain h hplain
  have hvalue : ∀ f ∈ form.fields,
      valueOf f (form.initialData .null) = some f.structuralDefault := by
    intro f hf
    have hfound := hseparate.valueAt_initialData h hf
    rw [segments_of_plain (hplain f hf), Field.resetValue, hdefault f hf] at hfound
    exact hfound
  -- Of the four ways in which a finding comes about, only those at a leaf and at a condition occur.
  cases origin_of_mem hplain h.pairwise_apart tidy_empty hx with
  | @blocked f above label hf hblocks =>
      have hclear := hseparate.clear_initialData hf (hplain f hf) above hblocks.below
      rw [hblocks.blocked] at hclear
      cases hclear
  | @leaf f o hf hrejects =>
      have hobjection := hrejects.objection
      rw [hvalue f hf] at hobjection
      exact ⟨f, hf, join_empty_left f.name, lacks_of_objection hobjection⟩
  | @item f items index item _ hf hchecks _ =>
      -- A list that nothing was entered into has no items.
      obtain ⟨info, minItems, maxItems, rfl⟩ := hchecks.repeats
      obtain ⟨entries, hentries, hitem⟩ := hchecks.present
      rw [hvalue _ hf] at hentries
      cases hentries
      cases hitem
  | @condition f hf hfails =>
      obtain ⟨rule, hrule, -⟩ := hfails
      exact ⟨f, hf, join_empty_left f.name, .condition (by simp [hrule])⟩

/-- In a fresh form without declared defaults nothing is wrong but that a field lacks something, and
nothing at all if none does. -/
theorem fresh_data_only_lack (h : form.tree.Accepted) (hplain : ∀ f ∈ form.fields, Plain f.name)
    (hdefault : ∀ f ∈ form.fields, f.info.defaultValue = none) :
    (∀ path e, Dictionary.lookup path (form.errors (form.initialData .null)) = some e →
        ∃ f ∈ form.fields, path = f.name ∧ ∃ code, f.Lacks code ∧ e.code = code.name) ∧
      ((∀ f ∈ form.fields, ∀ code, ¬ f.Lacks code) →
        form.isValid (form.initialData .null) = true) := by
  refine ⟨?_, ?_⟩
  · intro path e he
    rw [lookup_errors, Option.map_eq_some_iff] at he
    obtain ⟨x, hx, rfl⟩ := he
    obtain ⟨hmem, rfl⟩ := mem_of_firstAt_eq_some hx
    obtain ⟨f, hf, hpath, hlacks⟩ := lacks_of_mem_check h hplain hdefault hmem
    exact ⟨f, hf, hpath, x.objection.code, hlacks, rfl⟩
  · intro hnone
    apply isValid_iff.mpr
    apply List.eq_nil_iff_forall_not_mem.mpr
    intro x hx
    obtain ⟨f, hf, -, hlacks⟩ := lacks_of_mem_check h hplain hdefault hx
    exact hnone f hf x.objection.code hlacks

end Form

/-- The note that is asked for is missing from the fresh data. -/
theorem Jobs.fresh_data_lack_note :
    ∃ f ∈ form.fields, "note" = f.name ∧ ∃ code, f.Lacks code ∧ "required" = code.name := by
  have hplain : ∀ f ∈ form.fields, Plain f.name := by
    have hnames : ∀ name ∈ form.fields.map Field.name, "" ∉ parts name := by decide +kernel
    intro f hf
    exact hnames f.name (List.mem_map_of_mem hf)
  have hdefault : ∀ f ∈ form.fields, f.info.defaultValue = none := by
    rw [fields_form]
    simp [jobs, note, Field.info, plainInfo]
  have hcode : (Dictionary.lookup "note" (form.errors (form.initialData .null))).map (·.code) =
      some "required" := by
    decide +kernel
  obtain ⟨e, he, hrequired⟩ := Option.map_eq_some_iff.mp hcode
  rw [← hrequired]
  exact (Form.fresh_data_only_lack accepted_form hplain hdefault).1 "note" e he

end FormLogic
