import FormLogic.Tree.Build
import Mathlib.Data.List.Forall2

/-!
# Declarations that are in order

A declaration is in order if it and all that is nested in it obey the rules for elements.  The rules
are given here as such, beside the element that a declaration in order yields, which keeps all that
the declaration says.  The check of a declaration finds no defect exactly if it is in order, and
then gives the element that it yields.
-/

namespace FormLogic

namespace Attributes

/-- The field has, or has to have, a component. -/
def AsksForComponent (a : Attributes) : Prop :=
  a.component.isSome ∨ a.trimmedKind ∈ delegateTypes

/-- The field has, or has to have, item fields. -/
def AsksForItems (a : Attributes) (itemFields : Option (List Declaration)) : Prop :=
  itemFields.isSome ∨ a.trimmedKind ∈ repeatingTypes

/-- The field offers, or has to offer, choices. -/
def AsksForChoices (a : Attributes) : Prop :=
  a.choices.isSome ∨ a.choicesProvider.isSome ∨ a.trimmedKind ∈ choiceTypes

/-- The least number of items is not above the greatest one, where both are given. -/
def BoundsInOrder (a : Attributes) : Prop :=
  ∀ lo ∈ a.minItems, ∀ hi ∈ a.maxItems, lo ≤ hi

/-- The choice that the attributes of a choice field give. -/
def choiceShape (a : Attributes) : Shape :=
  .choice (a.choices.getD []) (a.multiple.getD (a.trimmedKind == multipleType)) a.choicesProvider

end Attributes

namespace Declaration

/-- A declaration proves by induction what holds of it once it holds of all that is nested in it. -/
theorem induction {motive : Declaration → Prop}
    (element : ∀ (a : Attributes) (items children : Option (List Declaration)),
      (∀ ds ∈ items, ∀ d ∈ ds, motive d) → (∀ ds ∈ children, ∀ d ∈ ds, motive d) →
        motive (.element a items children)) (d : Declaration) : motive d := by
  refine @Declaration.rec motive (fun o => ∀ ds ∈ o, ∀ d ∈ ds, motive d)
    (fun ds => ∀ d ∈ ds, motive d) element ?_ ?_ ?_ ?_ d
  · intro ds hds
    cases hds
  · intro ds ih ds' hds
    cases hds
    exact ih
  · intro d hd
    cases hd
  · intro d ds hd hds other hmem
    rcases List.mem_cons.mp hmem with rfl | hmem
    · exact hd
    · exact hds other hmem

/-! ### The rules -/

/-- The type and the name without blanks around them. -/
def kind (d : Declaration) : String := d.attributes.trimmedKind

def name (d : Declaration) : String := d.attributes.trimmedName

/-- The declaration declares a field as the rules ask for, where components are looked up in a
catalog if there is one.  Of the rules for components, for item fields and for choices the first one
that applies decides. -/
inductive FieldInOrder (catalog : Option (List String)) : Declaration → Prop where
  | delegate {a : Attributes} {items children : Option (List Declaration)} {component : String}
      (hname : a.trimmedName ≠ "") (hcomponent : a.component = some component)
      (hknown : ∀ known ∈ catalog, component ∈ known) :
      FieldInOrder catalog (.element a items children)
  | repeating {a : Attributes} {items : List Declaration} {children : Option (List Declaration)}
      (hname : a.trimmedName ≠ "") (hcomponent : ¬ a.AsksForComponent)
      (hbounds : a.BoundsInOrder)
      (hkinds : ∀ d ∈ items, d.kind ≠ "" ∧ d.kind ≠ Node.containerType)
      (hfields : ∀ d ∈ items, FieldInOrder catalog d)
      (hfree : ∀ d ∈ items, d.attributes.dependsOn = none)
      (hnames : (items.map name).Nodup) :
      FieldInOrder catalog (.element a (some items) children)
  | choice {a : Attributes} {items children : Option (List Declaration)}
      (hname : a.trimmedName ≠ "") (hcomponent : ¬ a.AsksForComponent)
      (hitems : ¬ a.AsksForItems items)
      (hchoices : a.choices.isSome ∨ a.choicesProvider.isSome) :
      FieldInOrder catalog (.element a items children)
  | generic {a : Attributes} {items children : Option (List Declaration)}
      (hname : a.trimmedName ≠ "") (hcomponent : ¬ a.AsksForComponent)
      (hitems : ¬ a.AsksForItems items) (hchoices : ¬ a.AsksForChoices) :
      FieldInOrder catalog (.element a items children)

/-- The declaration declares an element as the rules ask for: it has a type, the elements of a
container are in order, and everything else is a field in order. -/
inductive InOrder (catalog : Option (List String)) : Declaration → Prop where
  | container {a : Attributes} {items children : Option (List Declaration)}
      (hkind : a.trimmedKind = Node.containerType)
      (hchildren : ∀ ds ∈ children, ∀ d ∈ ds, InOrder catalog d) :
      InOrder catalog (.element a items children)
  | field {d : Declaration} (hkind : d.kind ≠ "") (hother : d.kind ≠ Node.containerType)
      (hfield : FieldInOrder catalog d) : InOrder catalog d

/-! ### What declarations yield -/

/-- The field keeps what the declaration says: its attributes, its shape, and one item field for
each declared one, in their order. -/
inductive YieldsField : Declaration → Field → Prop where
  | delegate {a : Attributes} {items children : Option (List Declaration)} {component : String}
      (hcomponent : a.component = some component) :
      YieldsField (.element a items children)
        (.single a.fieldInfo (.delegate component a.componentProps))
  | repeating {a : Attributes} {items : List Declaration} {children : Option (List Declaration)}
      {fields : List Field} (hcomponent : ¬ a.AsksForComponent)
      (hitems : List.Forall₂ YieldsField items fields) :
      YieldsField (.element a (some items) children)
        (.repeating a.fieldInfo fields a.minItems a.maxItems)
  | choice {a : Attributes} {items children : Option (List Declaration)}
      (hcomponent : ¬ a.AsksForComponent) (hitems : ¬ a.AsksForItems items)
      (hchoices : a.AsksForChoices) :
      YieldsField (.element a items children) (.single a.fieldInfo a.choiceShape)
  | generic {a : Attributes} {items children : Option (List Declaration)}
      (hcomponent : ¬ a.AsksForComponent) (hitems : ¬ a.AsksForItems items)
      (hchoices : ¬ a.AsksForChoices) :
      YieldsField (.element a items children) (.single a.fieldInfo .generic)

/-- The element keeps what the declaration says: a container with one element for each of its
declared ones, in their order, or a field. -/
inductive Yields : Declaration → Node → Prop where
  | container {a : Attributes} {items children : Option (List Declaration)} {nodes : List Node}
      (hkind : a.trimmedKind = Node.containerType)
      (hchildren : List.Forall₂ Yields (children.getD []) nodes) :
      Yields (.element a items children) (.container a.variant a.visible a.metadata nodes)
  | field {d : Declaration} {f : Field} (hkind : d.kind ≠ Node.containerType)
      (hfield : YieldsField d f) : Yields d (.field f)

end Declaration

/-! ### The check of a field -/

namespace Attributes

variable {catalog : Option (List String)} {address : Address} {a : Attributes}
  {itemFields : Option (String → Checked (List Field))} {f : Field}

theorem boundsDefect_eq_none_iff : a.boundsDefect = none ↔ a.BoundsInOrder := by
  unfold boundsDefect BoundsInOrder
  cases a.minItems with
  | none => simp
  | some lo =>
      cases a.maxItems with
      | none => simp
      | some hi => simp

theorem asksForComponent_iff :
    (a.component.isSome || delegateTypes.contains a.trimmedKind) = true ↔ a.AsksForComponent := by
  simp [AsksForComponent]

theorem asksForChoices_iff :
    (a.choices.isSome || a.choicesProvider.isSome || choiceTypes.contains a.trimmedKind) = true ↔
      a.AsksForChoices := by
  simp [AsksForChoices, or_assoc]

/-- A field asking for a component is found to be without a defect if it has one that is known. -/
theorem component_of_field_eq_ok (hname : a.trimmedName ≠ "") (hcomponent : a.AsksForComponent)
    (h : a.field catalog address itemFields = .ok f) :
    ∃ component, a.component = some component ∧ (∀ known ∈ catalog, component ∈ known) ∧
      f = .single a.fieldInfo (.delegate component a.componentProps) := by
  unfold field at h
  rw [if_neg hname, if_pos (asksForComponent_iff.mpr hcomponent)] at h
  cases hc : a.component with
  | none => simp [hc] at h
  | some component =>
      rw [hc] at h
      cases hcatalog : catalog with
      | none =>
          simp only [hcatalog] at h
          exact ⟨component, rfl, by simp, (Except.ok.inj h).symm⟩
      | some known =>
          by_cases hknown : component ∈ known
          · simp only [hcatalog, List.contains_iff_mem.mpr hknown, if_true] at h
            exact ⟨component, rfl, by simpa using hknown, (Except.ok.inj h).symm⟩
          · simp [hcatalog, hknown] at h

/-- A field with item fields is found to be without a defect if its bounds and its items are. -/
theorem items_of_field_eq_ok {check : String → Checked (List Field)} (hname : a.trimmedName ≠ "")
    (hcomponent : ¬ a.AsksForComponent) (h : a.field catalog address (some check) = .ok f) :
    a.BoundsInOrder ∧ ∃ fields, check a.trimmedName = .ok fields ∧
      f = .repeating a.fieldInfo fields a.minItems a.maxItems := by
  rw [field, if_neg hname, if_neg (mt asksForComponent_iff.mp hcomponent)] at h
  simp only [Option.isSome_some, Bool.true_or, if_true] at h
  cases hbounds : a.boundsDefect with
  | some cause => simp [hbounds] at h
  | none =>
      cases hcheck : check a.trimmedName with
      | error defects => simp [hbounds, hcheck, Except.map] at h
      | ok fields =>
          simp only [hbounds, hcheck, Except.map, Except.ok.injEq] at h
          exact ⟨boundsDefect_eq_none_iff.mp hbounds, fields, rfl, h.symm⟩

/-- A field without item fields is found to be without a defect if it does not ask for them, and has
choices or does not ask for these either. -/
theorem choices_of_field_eq_ok (hname : a.trimmedName ≠ "") (hcomponent : ¬ a.AsksForComponent)
    (h : a.field catalog address none = .ok f) :
    a.trimmedKind ∉ repeatingTypes ∧
      ((a.choices.isSome ∨ a.choicesProvider.isSome) ∧ f = .single a.fieldInfo a.choiceShape ∨
        ¬ a.AsksForChoices ∧ f = .single a.fieldInfo .generic) := by
  rw [field, if_neg hname, if_neg (mt asksForComponent_iff.mp hcomponent)] at h
  by_cases hrepeating : a.trimmedKind ∈ repeatingTypes
  · simp [hrepeating] at h
  simp only [Option.isSome_none, Bool.false_or, List.contains_eq_mem, hrepeating,
    decide_false, Bool.false_eq_true, if_false] at h
  refine ⟨hrepeating, ?_⟩
  by_cases hchoices : a.AsksForChoices
  · rw [if_pos (by simpa using asksForChoices_iff.mpr hchoices)] at h
    by_cases hgiven : a.choices.isSome ∨ a.choicesProvider.isSome
    · rw [if_neg (by simpa [Option.isSome_iff_ne_none, or_iff_not_imp_left] using hgiven)] at h
      exact Or.inl ⟨hgiven, (Except.ok.inj h).symm⟩
    · simp_all
  · rw [if_neg (by simpa using mt asksForChoices_iff.mp hchoices)] at h
    exact Or.inr ⟨hchoices, (Except.ok.inj h).symm⟩

/-- A field that is found to be without a defect is of one of four shapes, by the first rule that
applies to it. -/
theorem cases_of_field_eq_ok (h : a.field catalog address itemFields = .ok f) :
    a.trimmedName ≠ "" ∧
      ((∃ component, a.component = some component ∧ (∀ known ∈ catalog, component ∈ known) ∧
          f = .single a.fieldInfo (.delegate component a.componentProps)) ∨
        (¬ a.AsksForComponent ∧ a.BoundsInOrder ∧
          ∃ check fields, itemFields = some check ∧ check a.trimmedName = .ok fields ∧
            f = .repeating a.fieldInfo fields a.minItems a.maxItems) ∨
        (¬ a.AsksForComponent ∧ itemFields = none ∧ a.trimmedKind ∉ repeatingTypes ∧
          (a.choices.isSome ∨ a.choicesProvider.isSome) ∧ f = .single a.fieldInfo a.choiceShape) ∨
        (¬ a.AsksForComponent ∧ itemFields = none ∧ a.trimmedKind ∉ repeatingTypes ∧
          ¬ a.AsksForChoices ∧ f = .single a.fieldInfo .generic)) := by
  by_cases hname : a.trimmedName = ""
  · unfold field at h
    rw [if_pos hname] at h
    cases h
  refine ⟨hname, ?_⟩
  -- The rules are gone through in the order in which they are tried.
  by_cases hcomponent : a.AsksForComponent
  · exact Or.inl (component_of_field_eq_ok hname hcomponent h)
  refine Or.inr ?_
  cases itemFields with
  | some check =>
      obtain ⟨hbounds, fields, hfields, rfl⟩ := items_of_field_eq_ok hname hcomponent h
      exact Or.inl ⟨hcomponent, hbounds, check, fields, rfl, hfields, rfl⟩
  | none =>
      obtain ⟨hkind, ⟨hchoices, rfl⟩ | ⟨hchoices, rfl⟩⟩ :=
        choices_of_field_eq_ok hname hcomponent h
      · exact Or.inr (Or.inl ⟨hcomponent, rfl, hkind, hchoices, rfl⟩)
      · exact Or.inr (Or.inr ⟨hcomponent, rfl, hkind, hchoices, rfl⟩)

theorem field_eq_of_component {component : String} (hname : a.trimmedName ≠ "")
    (hcomponent : a.component = some component) (hknown : ∀ known ∈ catalog, component ∈ known) :
    a.field catalog address itemFields =
      .ok (.single a.fieldInfo (.delegate component a.componentProps)) := by
  cases hcatalog : catalog with
  | none => simp [field, hname, hcomponent]
  | some known =>
      have hmem : component ∈ known := hknown known hcatalog
      simp [field, hname, hcomponent, hmem]

theorem field_eq_of_items {check : String → Checked (List Field)} {fields : List Field}
    (hname : a.trimmedName ≠ "") (hcomponent : ¬ a.AsksForComponent) (hbounds : a.BoundsInOrder)
    (hcheck : check a.trimmedName = .ok fields) :
    a.field catalog address (some check) =
      .ok (.repeating a.fieldInfo fields a.minItems a.maxItems) := by
  rw [field, if_neg hname, if_neg (mt asksForComponent_iff.mp hcomponent)]
  simp [boundsDefect_eq_none_iff.mpr hbounds, hcheck, Except.map]

theorem field_eq_of_choices (hname : a.trimmedName ≠ "") (hcomponent : ¬ a.AsksForComponent)
    (hitems : a.trimmedKind ∉ repeatingTypes)
    (hchoices : a.choices.isSome ∨ a.choicesProvider.isSome) :
    a.field catalog address none = .ok (.single a.fieldInfo a.choiceShape) := by
  have hasks : a.AsksForChoices := hchoices.imp_right Or.inl
  rw [field, if_neg hname, if_neg (mt asksForComponent_iff.mp hcomponent),
    if_neg (by simpa using hitems), if_pos (by simpa using asksForChoices_iff.mpr hasks), if_neg]
  · rfl
  · simpa [Option.isSome_iff_ne_none, or_iff_not_imp_left] using hchoices

theorem field_eq_generic (hname : a.trimmedName ≠ "") (hcomponent : ¬ a.AsksForComponent)
    (hitems : a.trimmedKind ∉ repeatingTypes) (hchoices : ¬ a.AsksForChoices) :
    a.field catalog address none = .ok (.single a.fieldInfo .generic) := by
  rw [field, if_neg hname, if_neg (mt asksForComponent_iff.mp hcomponent),
    if_neg (by simpa using hitems), if_neg (by simpa using mt asksForChoices_iff.mp hchoices)]

/-- Every field has the attributes of its declaration, whatever its shape. -/
theorem info_of_field_eq_ok (h : a.field catalog address itemFields = .ok f) :
    f.info = a.fieldInfo := by
  obtain ⟨-, ⟨_, -, -, rfl⟩ | ⟨-, -, _, _, -, -, rfl⟩ | ⟨-, -, -, -, rfl⟩ | ⟨-, -, -, -, rfl⟩⟩ :=
    cases_of_field_eq_ok h <;> rfl

/-- An item field is a field with a type of its own, which depends on no other field and has a name
that was not seen before. -/
theorem itemField_eq_ok_iff {owner : String} {seen : List String} :
    a.itemField catalog address owner seen itemFields = .ok f ↔
      (a.trimmedKind ≠ "" ∧ a.trimmedKind ≠ Node.containerType) ∧
        a.field catalog address itemFields = .ok f ∧ a.dependsOn = none ∧
        a.trimmedName ∉ seen := by
  rw [itemField]
  by_cases hcontainer : a.trimmedKind = Node.containerType
  · simp [hcontainer]
  by_cases hkind : a.trimmedKind = ""
  · simp only [hkind, if_true]
    simp [Node.containerType]
  simp only [hcontainer, hkind, if_false]
  cases hfield : a.field catalog address itemFields with
  | error defects => simp [bind, Except.bind]
  | ok g =>
      have hinfo := info_of_field_eq_ok hfield
      have hdepends : g.dependsOn = a.dependsOn := congrArg FieldInfo.dependsOn hinfo
      have hname : g.name = a.trimmedName := congrArg FieldInfo.name hinfo
      cases hd : a.dependsOn with
      | some parent => simp [bind, Except.bind, hdepends, hd]
      | none =>
          by_cases hseen : a.trimmedName ∈ seen
          · simp [bind, Except.bind, hdepends, hd, hname, hseen]
          · simp [bind, Except.bind, hdepends, hd, hname, hseen, hkind, hcontainer]

end Attributes

/-! ### The check of declarations -/

theorem Checked.cons_eq_ok_iff {α : Type} {x : Checked α} {xs : Checked (List α)} {as : List α} :
    x.cons xs = .ok as ↔ ∃ b bs, x = .ok b ∧ xs = .ok bs ∧ as = b :: bs := by
  cases x <;> cases xs <;> simp [Checked.cons, eq_comm]

namespace Declaration

variable {catalog : Option (List String)}

/-- The check of a declaration as a field, without what holds for item fields only. -/
def checkField (catalog : Option (List String)) (address : Address) : Declaration → Checked Field
  | .element a items _ => a.field catalog address (checkOptionalItems catalog address items)

theorem checkItem_eq_ok_iff {address : Address} {owner : String} {seen : List String}
    {d : Declaration} {f : Field} :
    checkItem catalog address owner seen d = .ok f ↔
      (d.kind ≠ "" ∧ d.kind ≠ Node.containerType) ∧ d.checkField catalog address = .ok f ∧
        d.attributes.dependsOn = none ∧ d.name ∉ seen := by
  obtain ⟨a, items, children⟩ := d
  rw [checkItem]
  exact Attributes.itemField_eq_ok_iff

theorem info_of_checkField_eq_ok {address : Address} {d : Declaration} {f : Field}
    (h : d.checkField catalog address = .ok f) : f.info = d.attributes.fieldInfo := by
  obtain ⟨a, items, children⟩ := d
  exact Attributes.info_of_field_eq_ok h

/-- What the check asks of a list of item fields beside names that were seen before. -/
structure ItemsInOrder (catalog : Option (List String)) (seen : List String)
    (ds : List Declaration) : Prop where
  kinds : ∀ d ∈ ds, d.kind ≠ "" ∧ d.kind ≠ Node.containerType
  fields : ∀ d ∈ ds, FieldInOrder catalog d
  free : ∀ d ∈ ds, d.attributes.dependsOn = none
  names : (ds.map name).Nodup
  unseen : ∀ d ∈ ds, d.name ∉ seen

theorem itemsInOrder_cons {seen : List String} {d : Declaration} {ds : List Declaration} :
    ItemsInOrder catalog seen (d :: ds) ↔
      (d.kind ≠ "" ∧ d.kind ≠ Node.containerType) ∧ FieldInOrder catalog d ∧
        d.attributes.dependsOn = none ∧ d.name ∉ seen ∧
        ItemsInOrder catalog (d.name :: seen) ds := by
  constructor
  · rintro ⟨hkinds, hfields, hfree, hnames, hunseen⟩
    rw [List.map_cons, List.nodup_cons] at hnames
    rw [List.forall_mem_cons] at hkinds hfields hfree hunseen
    refine ⟨hkinds.1, hfields.1, hfree.1, hunseen.1, hkinds.2, hfields.2, hfree.2, hnames.2, ?_⟩
    intro other hother
    rw [List.mem_cons, not_or]
    refine ⟨?_, hunseen.2 other hother⟩
    intro heq
    exact hnames.1 (heq ▸ List.mem_map_of_mem hother)
  · rintro ⟨hkind, hfield, hdepends, hseen, hkinds, hfields, hfree, hnames, hunseen⟩
    refine ⟨List.forall_mem_cons.mpr ⟨hkind, hkinds⟩, List.forall_mem_cons.mpr ⟨hfield, hfields⟩,
      List.forall_mem_cons.mpr ⟨hdepends, hfree⟩, ?_, List.forall_mem_cons.mpr ⟨hseen, ?_⟩⟩
    · rw [List.map_cons, List.nodup_cons]
      refine ⟨?_, hnames⟩
      intro hmem
      obtain ⟨other, hother, heq⟩ := List.mem_map.mp hmem
      exact hunseen other hother (heq ▸ List.mem_cons_self ..)
    · intro other hother hmem
      exact hunseen other hother (List.mem_cons_of_mem _ hmem)

/-- The item fields that are found to be without a defect are in order. -/
theorem itemsInOrder_of_checkItems_eq_ok {parent : Address} {owner : String} {index : Nat}
    {seen : List String} {ds : List Declaration} {fields : List Field}
    (hds : ∀ d ∈ ds, ∀ address f, d.checkField catalog address = .ok f →
      FieldInOrder catalog d ∧ YieldsField d f)
    (h : checkItems catalog parent owner index seen ds = .ok fields) :
    ItemsInOrder catalog seen ds ∧ List.Forall₂ YieldsField ds fields := by
  induction ds generalizing index seen fields with
  | nil =>
      rw [checkItems] at h
      cases h
      exact ⟨⟨by simp, by simp, by simp, by simp, by simp⟩, .nil⟩
  | cons d ds ih =>
      rw [checkItems, Checked.cons_eq_ok_iff] at h
      obtain ⟨f, fs, hitem, hitems, rfl⟩ := h
      obtain ⟨hkind, hfield, hdepends, hseen⟩ := checkItem_eq_ok_iff.mp hitem
      have hname : f.name = d.name :=
        congrArg FieldInfo.name (info_of_checkField_eq_ok hfield)
      -- The name of the first item counts as seen for the items after it.
      rw [hitem, seenAfter, hname] at hitems
      rw [List.forall_mem_cons] at hds
      obtain ⟨hinOrder, hyields⟩ := hds.1 _ _ hfield
      obtain ⟨hrest, hyieldsRest⟩ := ih hds.2 hitems
      exact ⟨itemsInOrder_cons.mpr ⟨hkind, hinOrder, hdepends, hseen, hrest⟩,
        .cons hyields hyieldsRest⟩

/-- Item fields in order are found to be without a defect. -/
theorem exists_checkItems_eq_ok (parent : Address) (owner : String) (index : Nat)
    {seen : List String} {ds : List Declaration}
    (hds : ∀ d ∈ ds, ∀ address, ∃ f, d.checkField catalog address = .ok f)
    (h : ItemsInOrder catalog seen ds) :
    ∃ fields, checkItems catalog parent owner index seen ds = .ok fields := by
  induction ds generalizing index seen with
  | nil => exact ⟨[], by rw [checkItems]⟩
  | cons d ds ih =>
      rw [List.forall_mem_cons] at hds
      obtain ⟨hkind, -, hdepends, hseen, hrest⟩ := itemsInOrder_cons.mp h
      obtain ⟨f, hfield⟩ := hds.1 (parent.item index)
      have hitem : checkItem catalog (parent.item index) owner seen d = .ok f :=
        checkItem_eq_ok_iff.mpr ⟨hkind, hfield, hdepends, hseen⟩
      have hname : f.name = d.name :=
        congrArg FieldInfo.name (info_of_checkField_eq_ok hfield)
      obtain ⟨fs, hitems⟩ := ih (index + 1) hds.2 hrest
      refine ⟨f :: fs, ?_⟩
      rw [checkItems, Checked.cons_eq_ok_iff, hitem, seenAfter, hname]
      exact ⟨f, fs, rfl, hitems, rfl⟩

theorem checkField_sound (d : Declaration) :
    ∀ address f, d.checkField catalog address = .ok f →
      FieldInOrder catalog d ∧ YieldsField d f := by
  induction d using Declaration.induction with
  | element a items children ihItems ihChildren =>
      intro address f h
      obtain ⟨hname, hshape⟩ := Attributes.cases_of_field_eq_ok h
      rcases hshape with ⟨component, hcomponent, hknown, rfl⟩ |
        ⟨hcomponent, hbounds, check, fields, hcheck, hfields, rfl⟩ |
        ⟨hcomponent, hnone, hkind, hchoices, rfl⟩ | ⟨hcomponent, hnone, hkind, hchoices, rfl⟩
      · exact ⟨.delegate hname hcomponent hknown, .delegate hcomponent⟩
      · -- Item fields are checked if and only if the declaration has some.
        cases items with
        | none => rw [checkOptionalItems] at hcheck; cases hcheck
        | some ds =>
            rw [checkOptionalItems, Option.some.injEq] at hcheck
            subst hcheck
            obtain ⟨hds, hyields⟩ := itemsInOrder_of_checkItems_eq_ok (ihItems ds rfl) hfields
            exact ⟨.repeating hname hcomponent hbounds hds.kinds hds.fields hds.free hds.names,
              .repeating hcomponent hyields⟩
      · cases items with
        | some ds => rw [checkOptionalItems] at hnone; cases hnone
        | none =>
            have hitems : ¬ a.AsksForItems none := by simpa [Attributes.AsksForItems] using hkind
            exact ⟨.choice hname hcomponent hitems hchoices,
              .choice hcomponent hitems (hchoices.imp_right Or.inl)⟩
      · cases items with
        | some ds => rw [checkOptionalItems] at hnone; cases hnone
        | none =>
            have hitems : ¬ a.AsksForItems none := by simpa [Attributes.AsksForItems] using hkind
            exact ⟨.generic hname hcomponent hitems hchoices,
              .generic hcomponent hitems hchoices⟩

theorem exists_checkField_eq_ok {d : Declaration} (h : FieldInOrder catalog d) :
    ∀ address, ∃ f, d.checkField catalog address = .ok f := by
  induction h with
  | delegate hname hcomponent hknown =>
      intro address
      exact ⟨_, Attributes.field_eq_of_component hname hcomponent hknown⟩
  | @repeating a items children hname hcomponent hbounds hkinds hfields hfree hnames ih =>
      intro address
      have hitems : ItemsInOrder catalog [] items := ⟨hkinds, hfields, hfree, hnames, by simp⟩
      obtain ⟨fields, hchecked⟩ :=
        exists_checkItems_eq_ok address a.trimmedName 0 ih hitems
      exact ⟨_, Attributes.field_eq_of_items hname hcomponent hbounds hchecked⟩
  | @choice a items children hname hcomponent hitems hchoices =>
      intro address
      rw [Attributes.AsksForItems, not_or, Option.not_isSome_iff_eq_none] at hitems
      obtain ⟨rfl, hkind⟩ := hitems
      exact ⟨_, Attributes.field_eq_of_choices hname hcomponent hkind hchoices⟩
  | @generic a items children hname hcomponent hitems hchoices =>
      intro address
      rw [Attributes.AsksForItems, not_or, Option.not_isSome_iff_eq_none] at hitems
      obtain ⟨rfl, hkind⟩ := hitems
      exact ⟨_, Attributes.field_eq_generic hname hcomponent hkind hchoices⟩

/-! ### The check of elements -/

theorem map_eq_ok_iff {α β : Type} {f : α → β} {x : Checked α} {b : β} :
    x.map f = .ok b ↔ ∃ a, x = .ok a ∧ f a = b := by
  cases x <;> simp [Except.map]

/-- What the check of a declaration as an element comes down to, by its type. -/
theorem checkNode_eq_ok_iff {address : Address} {a : Attributes}
    {items children : Option (List Declaration)} {n : Node} :
    checkNode catalog address (.element a items children) = .ok n ↔
      (a.trimmedKind = Node.containerType ∧
          ∃ nodes, checkNodes catalog address.child 0 (children.getD []) = .ok nodes ∧
            Node.container a.variant a.visible a.metadata nodes = n) ∨
        (a.trimmedKind ≠ "" ∧ a.trimmedKind ≠ Node.containerType ∧
          ∃ f, checkField catalog address (.element a items children) = .ok f ∧
            Node.field f = n) := by
  -- A container without elements is checked as one with an empty list of them.
  have hchildren : checkChildren catalog address children =
      checkNodes catalog address.child 0 (children.getD []) := by
    cases children with
    | none => rw [checkChildren, Option.getD_none, checkNodes]
    | some ds => rw [checkChildren, Option.getD_some]
  have hnonempty : Node.containerType ≠ "" := by decide
  rw [checkNode]
  by_cases hcontainer : a.trimmedKind = Node.containerType
  · simp only [hcontainer, hnonempty, if_false, if_true, map_eq_ok_iff, hchildren]
    simp
  by_cases hkind : a.trimmedKind = ""
  · simp only [hkind, if_true]
    simp [hnonempty.symm]
  simp only [hcontainer, hkind, if_false, map_eq_ok_iff, checkField]
  simp [hcontainer, hkind]

/-- The elements that are found to be without a defect are in order, and are those that their
declarations yield. -/
theorem inOrder_of_checkNodes_eq_ok {place : Nat → Address} {index : Nat} {ds : List Declaration}
    {nodes : List Node}
    (hds : ∀ d ∈ ds, ∀ address n, checkNode catalog address d = .ok n →
      InOrder catalog d ∧ Yields d n)
    (h : checkNodes catalog place index ds = .ok nodes) :
    (∀ d ∈ ds, InOrder catalog d) ∧ List.Forall₂ Yields ds nodes := by
  induction ds generalizing index nodes with
  | nil =>
      rw [checkNodes] at h
      cases h
      exact ⟨by simp, .nil⟩
  | cons d ds ih =>
      rw [checkNodes, Checked.cons_eq_ok_iff] at h
      obtain ⟨n, ns, hnode, hnodes, rfl⟩ := h
      rw [List.forall_mem_cons] at hds
      obtain ⟨hinOrder, hyields⟩ := hds.1 _ _ hnode
      obtain ⟨hrest, hyieldsRest⟩ := ih hds.2 hnodes
      exact ⟨List.forall_mem_cons.mpr ⟨hinOrder, hrest⟩, .cons hyields hyieldsRest⟩

theorem checkNode_sound (d : Declaration) :
    ∀ address n, checkNode catalog address d = .ok n → InOrder catalog d ∧ Yields d n := by
  induction d using Declaration.induction with
  | element a items children ihItems ihChildren =>
      intro address n h
      rcases checkNode_eq_ok_iff.mp h with ⟨hkind, nodes, hnodes, rfl⟩ |
        ⟨hkind, hother, f, hfield, rfl⟩
      · have hmem : ∀ d ∈ children.getD [], ∀ address n, checkNode catalog address d = .ok n →
            InOrder catalog d ∧ Yields d n := by
          cases children with
          | none => simp
          | some ds => exact ihChildren ds rfl
        obtain ⟨hinOrder, hyields⟩ := inOrder_of_checkNodes_eq_ok hmem hnodes
        refine ⟨.container hkind ?_, .container hkind hyields⟩
        rintro ds rfl d hd
        exact hinOrder d hd
      · obtain ⟨hinOrder, hyields⟩ := checkField_sound _ _ _ hfield
        exact ⟨.field hkind hother hinOrder, .field hother hyields⟩

theorem exists_checkNodes_eq_ok (place : Nat → Address) (index : Nat) {ds : List Declaration}
    (hds : ∀ d ∈ ds, ∀ address, ∃ n, checkNode catalog address d = .ok n) :
    ∃ nodes, checkNodes catalog place index ds = .ok nodes := by
  induction ds generalizing index with
  | nil => exact ⟨[], by rw [checkNodes]⟩
  | cons d ds ih =>
      rw [List.forall_mem_cons] at hds
      obtain ⟨n, hnode⟩ := hds.1 (place index)
      obtain ⟨ns, hnodes⟩ := ih (index + 1) hds.2
      refine ⟨n :: ns, ?_⟩
      rw [checkNodes, Checked.cons_eq_ok_iff]
      exact ⟨n, ns, hnode, hnodes, rfl⟩

theorem exists_checkNode_eq_ok {d : Declaration} (h : InOrder catalog d) :
    ∀ address, ∃ n, checkNode catalog address d = .ok n := by
  induction h with
  | @container a items children hkind hchildren ih =>
      intro address
      have hmem : ∀ d ∈ children.getD [], ∀ address, ∃ n, checkNode catalog address d = .ok n := by
        cases children with
        | none => simp
        | some ds => exact ih ds rfl
      obtain ⟨nodes, hnodes⟩ := exists_checkNodes_eq_ok address.child 0 hmem
      exact ⟨_, checkNode_eq_ok_iff.mpr (Or.inl ⟨hkind, nodes, hnodes, rfl⟩)⟩
  | @field d hkind hother hfield =>
      intro address
      obtain ⟨a, items, children⟩ := d
      obtain ⟨f, hf⟩ := exists_checkField_eq_ok hfield address
      exact ⟨_, checkNode_eq_ok_iff.mpr (Or.inr ⟨hkind, hother, f, hf, rfl⟩)⟩

/-- The declarations at the root of a form are found to be without a defect exactly if there are
some and all of them are in order. -/
theorem exists_checkRoots_eq_ok_iff {ds : List Declaration} :
    (∃ nodes, checkRoots catalog ds = .ok nodes) ↔ ds ≠ [] ∧ ∀ d ∈ ds, InOrder catalog d := by
  rw [checkRoots]
  cases ds with
  | nil => simp
  | cons d ds =>
      rw [if_neg (by simp)]
      constructor
      · rintro ⟨nodes, hnodes⟩
        exact ⟨by simp, (inOrder_of_checkNodes_eq_ok (fun d _ => checkNode_sound d) hnodes).1⟩
      · rintro ⟨-, hinOrder⟩
        exact exists_checkNodes_eq_ok _ _ fun d hd => exists_checkNode_eq_ok (hinOrder d hd)

theorem yields_of_checkRoots_eq_ok {ds : List Declaration} {nodes : List Node}
    (h : checkRoots catalog ds = .ok nodes) : List.Forall₂ Yields ds nodes := by
  rw [checkRoots] at h
  by_cases hempty : ds.isEmpty
  · rw [if_pos hempty] at h
    cases h
  · rw [if_neg hempty] at h
    exact (inOrder_of_checkNodes_eq_ok (fun d _ => checkNode_sound d) h).2

end Declaration

end FormLogic
