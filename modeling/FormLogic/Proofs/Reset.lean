import FormLogic.Proofs.Path.Writing
import FormLogic.Proofs.Tree.Acceptance

/-!
# Resets that are owed, and what they leave

The resets that a change calls for are those of the fields that depend on the changed one, in the
order of the form.  Of resets at separate paths each leaves its value, and the data that they leave
together do not depend on the order in which they are carried out.
-/

namespace FormLogic

/-! ### Fields that depend on a field -/

/-- The fields that depend on a field of the given name, in their order. -/
def Field.dependents (parent : String) (fields : List Field) : List Field :=
  fields.filter fun f => f.dependsOn == some parent

theorem Field.mem_dependents {parent : String} {fields : List Field} {f : Field} :
    f ∈ Field.dependents parent fields ↔ f ∈ fields ∧ f.dependsOn = some parent := by
  simp [Field.dependents]

namespace Dependencies

variable {parent : String} {d : Dependencies}

theorem lookup_add (parent : String) (d : Dependencies) (f : Field) :
    (Dictionary.lookup parent (add d f)).getD [] =
      (Dictionary.lookup parent d).getD [] ++ (Field.dependents parent [f]).map Field.name := by
  rw [add]
  cases hparent : f.dependsOn with
  | none => simp [Field.dependents, hparent]
  | some other =>
      by_cases heq : parent = other
      · subst heq
        simp [Field.dependents, hparent]
      · have hother : some other ≠ some parent := by simpa using Ne.symm heq
        simp [Field.dependents, hparent, hother, Dictionary.lookup_insert_of_ne _ _ heq]

theorem lookup_foldl_add (parent : String) (fields : List Field) (d : Dependencies) :
    (Dictionary.lookup parent (fields.foldl add d)).getD [] =
      (Dictionary.lookup parent d).getD [] ++ (Field.dependents parent fields).map Field.name := by
  induction fields generalizing d with
  | nil => simp [Field.dependents]
  | cons f fields ih =>
      have hcons : Field.dependents parent (f :: fields) =
          Field.dependents parent [f] ++ Field.dependents parent fields := by
        rw [Field.dependents, Field.dependents, Field.dependents, ← List.filter_append,
          List.singleton_append]
      rw [List.foldl_cons, ih, lookup_add, hcons, List.map_append, List.append_assoc]

/-- The dependencies of a form list the fields that depend on each field. -/
theorem lookup_ofTree (parent : String) (t : Tree) :
    (Dictionary.lookup parent (ofTree t)).getD [] =
      (Field.dependents parent t.fields).map Field.name := by
  rw [ofTree, lookup_foldl_add, Dictionary.lookup_nil, Option.getD_none, List.nil_append]

theorem ascending_add (h : Dictionary.Ascending d) (f : Field) :
    Dictionary.Ascending (add d f) := by
  rw [add]
  cases f.dependsOn with
  | none => exact h
  | some parent => exact h.insert parent _

theorem ascending_foldl_add (fields : List Field) (h : Dictionary.Ascending d) :
    Dictionary.Ascending (fields.foldl add d) := by
  induction fields generalizing d with
  | nil => exact h
  | cons f fields ih => exact ih (ascending_add h f)

theorem ascending_ofTree (t : Tree) : Dictionary.Ascending (ofTree t) :=
  ascending_foldl_add t.fields Dictionary.ascending_nil

theorem lookup_add_ne_nil (h : Dictionary.lookup parent d ≠ some []) (f : Field) :
    Dictionary.lookup parent (add d f) ≠ some [] := by
  rw [add]
  cases f.dependsOn with
  | none => exact h
  | some other =>
      by_cases heq : parent = other
      · subst heq
        simp
      · rwa [Dictionary.lookup_insert_of_ne _ _ heq]

theorem lookup_foldl_add_ne_nil (fields : List Field) (h : Dictionary.lookup parent d ≠ some []) :
    Dictionary.lookup parent (fields.foldl add d) ≠ some [] := by
  induction fields generalizing d with
  | nil => exact h
  | cons f fields ih => exact ih (lookup_add_ne_nil h f)

/-- A field has an entry exactly if others depend on it. -/
theorem lookup_ofTree_eq (parent : String) (t : Tree) :
    Dictionary.lookup parent (ofTree t) =
      if Field.dependents parent t.fields = [] then none
      else some ((Field.dependents parent t.fields).map Field.name) := by
  have hnames := lookup_ofTree parent t
  have hne : Dictionary.lookup parent (ofTree t) ≠ some [] :=
    lookup_foldl_add_ne_nil t.fields nofun
  cases hlookup : Dictionary.lookup parent (ofTree t) with
  | none =>
      rw [hlookup, Option.getD_none, eq_comm, List.map_eq_nil_iff] at hnames
      rw [if_pos hnames]
  | some names =>
      rw [hlookup, Option.getD_some] at hnames
      subst hnames
      rw [if_neg]
      rintro hnil
      exact hne (by rw [hlookup, hnil, List.map_nil])

end Dependencies

namespace Tree

variable {t : Tree} {f g : Field}

theorem eq_of_name_eq (h : (t.fields.map Field.name).Nodup) (hf : f ∈ t.fields)
    (hg : g ∈ t.fields) (hname : f.name = g.name) : f = g :=
  List.inj_on_of_nodup_map h hf hg hname

/-- Where names are different, a field is found by its name. -/
theorem field?_name (h : (t.fields.map Field.name).Nodup) (hf : f ∈ t.fields) :
    t.field? f.name = some f := by
  cases hfound : t.field? f.name with
  | none =>
      have hsome : (t.field? f.name).isSome := isSome_field?_iff.mpr ⟨f, hf, rfl⟩
      rw [hfound] at hsome
      cases hsome
  | some g =>
      have hg : g ∈ t.fields := List.mem_of_find?_eq_some hfound
      have hname : g.name = f.name := by simpa using List.find?_some hfound
      rw [eq_of_name_eq h hg hf hname]

theorem filterMap_field?_map_name (h : (t.fields.map Field.name).Nodup) {fields : List Field}
    (hfields : ∀ f ∈ fields, f ∈ t.fields) :
    (fields.map Field.name).filterMap t.field? = fields := by
  induction fields with
  | nil => rfl
  | cons f fields ih =>
      rw [List.forall_mem_cons] at hfields
      rw [List.map_cons, List.filterMap_cons, field?_name h hfields.1, ih hfields.2]

end Tree

/-! ### Resets that a change calls for -/

theorem Reset.owed_eq {t : Tree} (h : (t.fields.map Field.name).Nodup) (changed : String) :
    Reset.owed t (.ofTree t) changed =
      ((Field.dependents changed t.fields).filter fun f => f.info.resetsWithParent).map
        Field.reset := by
  have hfields : ∀ f ∈ Field.dependents changed t.fields, f ∈ t.fields :=
    fun f hf => (Field.mem_dependents.mp hf).1
  rw [Reset.owed, Dependencies.lookup_ofTree, Tree.filterMap_field?_map_name h hfields,
    ← List.filterMap_eq_map, ← List.filterMap_eq_filter, List.filterMap_filterMap]
  apply List.filterMap_congr
  intro f _
  cases hreset : f.info.resetsWithParent <;> simp [hreset, Option.guard]

namespace Form

variable {form : Form} {name : String} {previous current : Json}

/-- If the value of a field changes, the resets that are called for are those of the fields that
depend on it and do not keep their values. -/
theorem mem_fieldChanged_iff (h : form.tree.Accepted) {r : Reset} :
    r ∈ form.fieldChanged name previous current ↔
      valueChanged previous current name = true ∧
        ∃ f ∈ form.fields, f.dependsOn = some name ∧ f.info.resetsWithParent = true ∧
          r = f.reset := by
  rw [fieldChanged, dependencies, Reset.owed_eq h.names_nodup]
  cases hchanged : valueChanged previous current name with
  | false => simp
  | true =>
      simp only [if_true, List.mem_map, List.mem_filter, Field.mem_dependents, true_and]
      constructor
      · rintro ⟨f, ⟨⟨hf, hparent⟩, hresets⟩, rfl⟩
        exact ⟨f, hf, hparent, hresets, rfl⟩
      · rintro ⟨f, hf, hparent, hresets, rfl⟩
        exact ⟨f, ⟨⟨hf, hparent⟩, hresets⟩, rfl⟩

/-- A change calls for at most one reset of a field. -/
theorem nodup_fieldChanged (h : form.tree.Accepted) (name : String) (previous current : Json) :
    ((form.fieldChanged name previous current).map Reset.field).Nodup := by
  rw [fieldChanged, dependencies, Reset.owed_eq h.names_nodup]
  have hnames : ((form.tree.fields).map Field.name).Nodup := h.names_nodup
  split
  · rw [List.map_map]
    exact hnames.sublist ((List.filter_sublist.trans List.filter_sublist).map Field.name)
  · exact List.nodup_nil

end Form

/-! ### Resets carried out -/

namespace Reset

variable {resets : List Reset} {path : String}

@[simp] theorem applyAll_nil (data : Json) : applyAll data [] = data := rfl

@[simp] theorem applyAll_cons (data : Json) (r : Reset) (resets : List Reset) :
    applyAll data (r :: resets) = applyAll (Path.set data r.field r.value) resets := rfl

theorem applyAll_append (data : Json) (front back : List Reset) :
    applyAll data (front ++ back) = applyAll (applyAll data front) back :=
  List.foldl_append

/-- Resets at separate paths leave what stands at a path below objects. -/
theorem valueAt_applyAll (h : ∀ r ∈ resets, Path.Separate path r.field) (data : Json) :
    Schema.valueAt (Path.segments path) (some (applyAll data resets)) =
      Schema.valueAt (Path.segments path) (some data) := by
  induction resets generalizing data with
  | nil => rfl
  | cons r resets ih =>
      rw [List.forall_mem_cons] at h
      rw [applyAll_cons, ih h.2, h.1.valueAt_set]

/-- A reset leaves its value below objects if the paths of all later ones are separate from its
own. -/
theorem valueAt_applyAll_self {r : Reset} {back : List Reset}
    (h : ∀ s ∈ back, Path.Separate r.field s.field) (data : Json) (front : List Reset) :
    Schema.valueAt (Path.segments r.field) (some (applyAll data (front ++ r :: back))) =
      some r.value := by
  rw [applyAll_append, applyAll_cons, valueAt_applyAll h, Path.set, Schema.valueAt_writeAt_self]

theorem get_applyAll {r : Reset} {back : List Reset}
    (h : ∀ s ∈ back, Path.Separate r.field s.field) (data : Json) (front : List Reset) :
    Path.get (applyAll data (front ++ r :: back)) r.field = some r.value :=
  Path.readAt_of_valueAt (valueAt_applyAll_self h data front)

theorem get_applyAll_of_mem (h : resets.Pairwise fun r s => Path.Separate r.field s.field)
    {r : Reset} (hr : r ∈ resets) (data : Json) :
    Path.get (applyAll data resets) r.field = some r.value := by
  obtain ⟨front, back, rfl⟩ := List.append_of_mem hr
  have hback : ∀ s ∈ back, Path.Separate r.field s.field :=
    (List.pairwise_cons.mp (List.pairwise_append.mp h).2.1).1
  exact get_applyAll hback data front

/-- Resets at a name, and at paths separate from it, leave no value above it in the way. -/
theorem clear_applyAll {name : String} (hname : Path.Plain name)
    (h : ∀ r ∈ resets, r.field = name ∨ Path.Separate name r.field) {data : Json}
    (hclear : Schema.Clear name (some data)) :
    Schema.Clear name (some (applyAll data resets)) := by
  induction resets generalizing data with
  | nil => exact hclear
  | cons r resets ih =>
      rw [List.forall_mem_cons] at h
      rw [applyAll_cons]
      apply ih h.2
      rcases h.1 with rfl | hseparate
      · exact Schema.clear_set hname data r.value
      · exact hseparate.clear_set hname hclear r.value

theorem unlisted_applyAll {data : Json} (hpath : Path.Unlisted path data)
    (h : ∀ r ∈ resets, Path.Separate path r.field) :
    Path.Unlisted path (applyAll data resets) := by
  induction resets generalizing data with
  | nil => exact hpath
  | cons r resets ih =>
      rw [List.forall_mem_cons] at h
      exact ih (hpath.set h.1 r.value) h.2

/-- What is read at a path below no list stays the same under resets at separate paths. -/
theorem get_applyAll_of_unlisted {data : Json} (hpath : Path.Unlisted path data)
    (h : ∀ r ∈ resets, Path.Separate path r.field) :
    Path.get (applyAll data resets) path = Path.get data path := by
  rw [(unlisted_applyAll hpath h).get_eq_valueAt, hpath.get_eq_valueAt, valueAt_applyAll h]

/-- Resets at separate paths can be carried out in any order. -/
theorem applyAll_perm {resets' : List Reset}
    (h : resets.Pairwise fun r s => Path.Separate r.field s.field)
    (hperm : resets.Perm resets') (data : Json) : applyAll data resets = applyAll data resets' := by
  have hsymm : Std.Symm fun r s : Reset => Path.Separate r.field s.field :=
    ⟨fun _ _ hrs => hrs.symm⟩
  apply hperm.foldl_eq'
  intro r hr s hs data
  by_cases heq : r = s
  · rw [heq]
  · exact (h.forall hr hs heq).symm.set_comm data s.value r.value

end Reset

end FormLogic
