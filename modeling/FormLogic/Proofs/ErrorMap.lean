import FormLogic.Proofs.Schema.Ranking

/-!
# Errors by path

What is wrong with an object that holds the values of fields is told without the schema: by the
fields, their names and the values there.  In an accepted form the errors of data are exactly these
faults, provided that names have no empty part and that no name of an item field lies below that of
a sibling.
-/

namespace FormLogic

namespace Schema

open FormLogic.Path

/-! ### Faults -/

/-- The value at the name of a field in an object, if there is one. -/
def valueOf (f : Field) (object : Json) : Option Json := valueAt (parts f.name) (some object)

/-- A path is the first one above the name of a field where there is a value that is no object. -/
structure Blocks (f : Field) (object : Json) (above : String) : Prop where
  below : Below f.name above
  clear : Clear above (some object)
  blocked : isObjectOrAbsent (valueAt (parts above) (some object)) = false

/-- The values above the name of a field can be checked as objects, and its leaf objects to the
value at the name. -/
structure Rejects (f : Field) (object : Json) (o : Objection) : Prop where
  clear : Clear f.name (some object)
  objection : (leafOf f).objection? (Json.orNull (valueOf f object)) = some o

/-- A field repeats some item fields, its leaf does not object to the list at its name, and an item
stands at an index of that list. -/
structure ChecksItem (f : Field) (object : Json) (items : List Field) (index : Nat)
    (item : Json) : Prop where
  clear : Clear f.name (some object)
  accepted : (leafOf f).objection? (Json.orNull (valueOf f object)) = none
  repeats : ∃ info minItems maxItems, f = .repeating info items minItems maxItems
  present : ∃ entries, valueOf f object = some (.array entries) ∧ entries[index]? = some item

theorem ChecksItem.unique {f : Field} {object : Json} {items items' : List Field} {index : Nat}
    {item item' : Json} (h : ChecksItem f object items index item)
    (h' : ChecksItem f object items' index item') : items = items' ∧ item = item' := by
  obtain ⟨info, minItems, maxItems, heq⟩ := h.repeats
  obtain ⟨info', minItems', maxItems', heq'⟩ := h'.repeats
  obtain ⟨entries, hvalue, hitem⟩ := h.present
  obtain ⟨entries', hvalue', hitem'⟩ := h'.present
  rw [heq] at heq'
  cases heq'
  rw [hvalue] at hvalue'
  cases hvalue'
  rw [hitem] at hitem'
  cases hitem'
  exact ⟨rfl, rfl⟩

/-- The condition of a field does not hold in a scope. -/
def FailsCondition (operations : Rule.Operations) (scope : Json) (f : Field) : Prop :=
  ∃ rule, f.constraints.condition = some rule ∧ Rule.holds operations scope rule = false

/-- There is a fault with some code at a path, where a scope, a path and an object are given
together with the fields whose values the object holds. -/
inductive Fault (operations : Rule.Operations) :
    Json → String → Json → List Field → String → Code → Prop where
  | blocked {scope object : Json} {parent above : String} {fields : List Field} {f : Field}
      (hf : f ∈ fields) (h : Blocks f object above) :
      Fault operations scope parent object fields (join parent above) .typeMismatch
  | leaf {scope object : Json} {parent : String} {fields : List Field} {f : Field} {o : Objection}
      (hf : f ∈ fields) (h : Rejects f object o) :
      Fault operations scope parent object fields (join parent f.name) o.code
  | condition {scope object : Json} {parent : String} {fields : List Field} {f : Field}
      (hf : f ∈ fields) (h : FailsCondition operations scope f)
      (hleaf : ∀ o, ¬ Rejects f object o) :
      Fault operations scope parent object fields (join parent f.name) .condition
  | item {scope object item : Json} {parent : String} {fields items : List Field} {f : Field}
      {index : Nat} (hf : f ∈ fields) (h : ChecksItem f object items index item)
      (hitem : ∀ entries, item ≠ .object entries) :
      Fault operations scope parent object fields (itemPath (join parent f.name) index)
        .typeMismatch
  | inner {scope object : Json} {parent path : String} {fields items : List Field} {f : Field}
      {index : Nat} {entries : List (String × Json)} {code : Code} (hf : f ∈ fields)
      (h : ChecksItem f object items index (.object entries))
      (hfault : Fault operations (merge scope (.object entries))
        (itemPath (join parent f.name) index) (.object entries) items path code) :
      Fault operations scope parent object fields path code

/-! ### Where findings come from -/

variable {operations : Rule.Operations} {scope object : Json} {parent : String}
  {fields : List Field} {f : Field} {x : Finding}

/-- The finding of a field whose condition does not hold. -/
def failed (parent : String) (f : Field) : Finding where
  path := join parent f.name
  objection := { code := .condition }
  label := f.displayLabel
  template := f.constraints.message

theorem mem_checkConditions_fields_iff :
    x ∈ checkConditions operations scope parent (fields.filterMap conditionOf) ↔
      ∃ f ∈ fields, FailsCondition operations scope f ∧ x = failed parent f := by
  rw [mem_checkConditions_iff]
  constructor
  · rintro ⟨c, hc, hholds, rfl⟩
    obtain ⟨f, hf, hcondition⟩ := List.mem_filterMap.mp hc
    obtain ⟨rule, hrule, rfl⟩ := Option.map_eq_some_iff.mp hcondition
    exact ⟨f, hf, ⟨rule, hrule, hholds⟩, rfl⟩
  · rintro ⟨f, hf, ⟨rule, hrule, hholds⟩, rfl⟩
    have hcondition : conditionOf f = some
        { path := f.name, label := f.displayLabel, rule, message := f.constraints.message } := by
      rw [conditionOf, hrule]
      rfl
    exact ⟨_, List.mem_filterMap.mpr ⟨f, hf, hcondition⟩, hholds, rfl⟩

theorem mem_of_failsCondition (hf : f ∈ fields) (h : FailsCondition operations scope f) :
    failed parent f ∈ checkFields operations scope parent object fields :=
  List.mem_append_right _ (mem_checkConditions_fields_iff.mpr ⟨f, hf, h, rfl⟩)

/-- What a finding at an object is about: a value in the way, the value of a field, an item, or a
condition. -/
inductive Origin (operations : Rule.Operations) (scope : Json) (parent : String) (object : Json)
    (fields : List Field) : Finding → Prop where
  | blocked {f : Field} {above label : String} (hf : f ∈ fields) (h : Blocks f object above) :
      Origin operations scope parent object fields (blocked (join parent above) label)
  | leaf {f : Field} {o : Objection} (hf : f ∈ fields) (h : Rejects f object o) :
      Origin operations scope parent object fields
        ((leafOf f).rules.finding (join parent f.name) o)
  | item {f : Field} {items : List Field} {index : Nat} {item : Json} {x : Finding}
      (hf : f ∈ fields) (h : ChecksItem f object items index item)
      (hx : x ∈ checkItem operations scope (rulesOf f) items
        (itemPath (join parent f.name) index) item) :
      Origin operations scope parent object fields x
  | condition {f : Field} (hf : f ∈ fields) (h : FailsCondition operations scope f) :
      Origin operations scope parent object fields (failed parent f)

section

variable (hplain : ∀ f ∈ fields, Plain f.name)
  (hapart : fields.Pairwise fun f g => Apart f.name g.name) (hparent : Tidy parent)

include hplain hapart hparent

theorem origin_of_mem (hx : x ∈ checkFields operations scope parent object fields) :
    Origin operations scope parent object fields x := by
  rw [checkFields, List.mem_append] at hx
  rcases hx with hx | hx
  · rcases cases_of_mem_checkProperties hapart hx with ⟨f, hf, hclear, hx⟩ |
      ⟨f, hf, above, label, hbelow, hclear, hvalue, rfl⟩
    · rw [under_parts (hplain f hf) hparent] at hx
      rcases mem_check_leafOf_iff.mp hx with ⟨o, ho, rfl⟩ |
        ⟨haccepted, info, items, minItems, maxItems, heq, entries, index, item, hvalue, hitem, hx⟩
      · exact .leaf hf ⟨hclear, ho⟩
      · exact .item hf ⟨hclear, haccepted, ⟨info, minItems, maxItems, heq⟩,
          ⟨entries, hvalue, hitem⟩⟩ hx
    · rw [under_parts ((hplain f hf).of_below hbelow) hparent]
      exact .blocked hf ⟨hbelow, hclear, hvalue⟩
  · obtain ⟨f, hf, hfails, rfl⟩ := mem_checkConditions_fields_iff.mp hx
    exact .condition hf hfails

theorem mem_of_rejects (hf : f ∈ fields) {o : Objection} (h : Rejects f object o) :
    (leafOf f).rules.finding (join parent f.name) o ∈
      checkFields operations scope parent object fields := by
  refine List.mem_append_left _ (mem_checkProperties_of_leaf hapart hf h.clear ?_)
  rw [under_parts (hplain f hf) hparent]
  exact mem_check_leafOf_iff.mpr (Or.inl ⟨o, h.objection, rfl⟩)

theorem mem_of_checksItem (hf : f ∈ fields) {items : List Field} {index : Nat} {item : Json}
    (h : ChecksItem f object items index item)
    (hx : x ∈ checkItem operations scope (rulesOf f) items
      (itemPath (join parent f.name) index) item) :
    x ∈ checkFields operations scope parent object fields := by
  obtain ⟨info, minItems, maxItems, heq⟩ := h.repeats
  obtain ⟨entries, hvalue, hitem⟩ := h.present
  refine List.mem_append_left _ (mem_checkProperties_of_leaf hapart hf h.clear ?_)
  rw [under_parts (hplain f hf) hparent]
  exact mem_check_leafOf_iff.mpr (Or.inr ⟨h.accepted, info, items, minItems, maxItems, heq,
    entries, index, item, hvalue, hitem, hx⟩)

theorem exists_mem_of_blocks (hf : f ∈ fields) {above : String} (h : Blocks f object above) :
    ∃ label, blocked (join parent above) label ∈
      checkFields operations scope parent object fields := by
  obtain ⟨label, hmem⟩ := exists_blocked_mem_checkProperties hapart hf h.below h.clear h.blocked
  rw [under_parts ((hplain f hf).of_below h.below) hparent] at hmem
  exact ⟨label, List.mem_append_left _ hmem⟩

/-- What is found at the name of a field is its objection, or a failed condition. -/
theorem Origin.code_at_name (hx : Origin operations scope parent object fields x) (hf : f ∈ fields)
    (hpath : x.path = join parent f.name) :
    x.objection.code = .condition ∨ ∃ o, Rejects f object o := by
  have hparts : parts x.path = segments parent ++ parts f.name := by
    rw [hpath, hparent.parts_join (hplain f hf)]
  cases hx with
  | @blocked g above label hg h =>
      -- The path of a value in the way lies above another name, and so is no name itself.
      have habove := hparent.parts_join ((hplain g hg).of_below h.below)
      have heq : above = f.name :=
        parts_injective (List.append_cancel_left (habove.symm.trans hparts))
      exact absurd (heq ▸ h.below) (Tree.not_below_of_pairwise_apart hapart hf hg)
  | @leaf g o hg h =>
      have hname := hparent.parts_join (hplain g hg)
      have heq : g.name = f.name :=
        parts_injective (List.append_cancel_left (hname.symm.trans hparts))
      have hgf : g = f :=
        Tree.eq_of_prefix_parts hapart hg hf List.prefix_rfl (heq ▸ List.prefix_rfl)
      exact Or.inr ⟨o, hgf ▸ h⟩
  | @item g items index item _ hg h hx =>
      -- The path of an item lies below the name of its list, and so is no name either.
      have hpre := parts_prefix_of_mem_checkItem (itemPath_ne_empty _ index) hx
      rw [parts_itemPath, hparent.parts_join (hplain g hg), hparts, List.append_assoc,
        List.prefix_append_right_inj] at hpre
      exact absurd (below_of_prefix_parts hpre) (Tree.not_below_of_pairwise_apart hapart hg hf)
  | condition hg h => exact Or.inl rfl

/-- What is found at or below an item is found at this item. -/
theorem Origin.mem_item (hx : Origin operations scope parent object fields x) (hf : f ∈ fields)
    {items : List Field} {index : Nat} {item : Json}
    (h : ChecksItem f object items index item)
    (hpre : parts (itemPath (join parent f.name) index) <+: parts x.path) :
    x ∈ checkItem operations scope (rulesOf f) items
      (itemPath (join parent f.name) index) item := by
  rw [parts_itemPath, hparent.parts_join (hplain f hf), List.append_assoc] at hpre
  cases hx with
  | @blocked g above label hg hblocks =>
      have hpath : parts (join parent above) = segments parent ++ parts above :=
        hparent.parts_join ((hplain g hg).of_below hblocks.below)
      have hg_keys : parts above <+: parts g.name :=
        parts_prefix_iff.mpr (Or.inr hblocks.below)
      rw [show (Schema.blocked (join parent above) label).path = join parent above from rfl, hpath,
        List.prefix_append_right_inj] at hpre
      exact absurd (below_of_prefix_parts (hpre.trans hg_keys))
        (Tree.not_below_of_pairwise_apart hapart hf hg)
  | @leaf g o hg hrejects =>
      rw [show ((leafOf g).rules.finding (join parent g.name) o).path = join parent g.name from rfl,
        hparent.parts_join (hplain g hg), List.prefix_append_right_inj] at hpre
      exact absurd (below_of_prefix_parts hpre) (Tree.not_below_of_pairwise_apart hapart hf hg)
  | @condition g hg _ =>
      rw [show (failed parent g).path = join parent g.name from rfl,
        hparent.parts_join (hplain g hg), List.prefix_append_right_inj] at hpre
      exact absurd (below_of_prefix_parts hpre) (Tree.not_below_of_pairwise_apart hapart hf hg)
  | @item g items' index' item' _ hg h' hx =>
      -- Two items with a path below both are the same, by their lists first, then by their index.
      have hpre' := parts_prefix_of_mem_checkItem (itemPath_ne_empty _ index') hx
      rw [parts_itemPath, hparent.parts_join (hplain g hg), List.append_assoc] at hpre'
      obtain ⟨rest, hrest⟩ := hpre
      rw [← hrest, List.append_assoc, List.prefix_append_right_inj] at hpre'
      have hfkeys : parts f.name <+: parts f.name ++ [Binary64.digitsText index] ++ rest := by
        rw [List.append_assoc]
        exact List.prefix_append ..
      have hgkeys := (List.prefix_append ..).trans hpre'
      obtain rfl : g = f := Tree.eq_of_prefix_parts hapart hg hf hgkeys hfkeys
      obtain rfl : index' = index :=
        digitsText_injective (eq_of_prefix_keys hpre' (List.prefix_append ..))
      obtain ⟨rfl, rfl⟩ := h'.unique h
      exact hx

end

/-- What is reported is a fault. -/
theorem fault_of_reports {fields : List Field} (h : Field.Orderly fields) :
    ∀ {scope object : Json} {parent path : String} {code : Code}, Tidy parent →
      Reports (checkFields operations scope parent object fields) path code →
        Fault operations scope parent object fields path code := by
  induction h with
  | @intro fields hplain hapart _ ih =>
      rintro scope object parent _ _ hparent ⟨x, hx, rfl, rfl, hcondition⟩
      cases origin_of_mem hplain hapart hparent hx with
      | blocked hf h => exact .blocked hf h
      | leaf hf h => exact .leaf hf h
      | condition hf h =>
          refine .condition hf h ?_
          intro o hrejects
          have hcode := hcondition rfl _ (mem_of_rejects hplain hapart hparent hf hrejects) rfl
          exact Leaf.code_ne_condition hrejects.objection hcode
      | @item f items index item _ hf h hx' =>
          have hitem := plain_itemPath (hparent.plain_join (hplain f hf)) index
          obtain ⟨info, minItems, maxItems, rfl⟩ := h.repeats
          cases item with
          | object entries =>
              -- What is reported at the object is reported among the findings at the item alone.
              refine .inner hf h (ih info items minItems maxItems hf hitem.tidy ?_)
              refine ⟨x, hx', rfl, rfl, ?_⟩
              intro hcode y hy hypath
              exact hcondition hcode y (mem_of_checksItem hplain hapart hparent hf h hy) hypath
          | _ =>
              obtain rfl := List.mem_singleton.mp hx'
              exact .item hf h (by simp)

/-- A fault is reported. -/
theorem reports_of_fault {fields : List Field} (h : Field.Orderly fields) :
    ∀ {scope object : Json} {parent path : String} {code : Code}, Tidy parent →
      Fault operations scope parent object fields path code →
        Reports (checkFields operations scope parent object fields) path code := by
  induction h with
  | @intro fields hplain hapart _ ih =>
      intro scope object parent path code hparent hfault
      cases hfault with
      | blocked hf h =>
          obtain ⟨label, hmem⟩ := exists_mem_of_blocks hplain hapart hparent hf h
          refine ⟨_, hmem, rfl, rfl, ?_⟩
          intro hcode
          cases hcode
      | leaf hf h =>
          refine ⟨_, mem_of_rejects hplain hapart hparent hf h, rfl, rfl, ?_⟩
          intro hcode
          exact absurd hcode (Leaf.code_ne_condition h.objection)
      | condition hf h hleaf =>
          refine ⟨_, mem_of_failsCondition hf h, rfl, rfl, ?_⟩
          intro _ y hy hypath
          rcases (origin_of_mem hplain hapart hparent hy).code_at_name hplain hapart hparent hf
            hypath with hcode | ⟨o, hrejects⟩
          · exact hcode
          · exact absurd hrejects (hleaf o)
      | @item _ _ item _ _ items f index hf h hitem =>
          have hfinding : (rulesOf f).finding (itemPath (join parent f.name) index)
              { code := .typeMismatch } ∈ checkItem operations scope (rulesOf f) items
                (itemPath (join parent f.name) index) item := by
            cases item with
            | object entries => exact absurd rfl (hitem entries)
            | _ => exact List.mem_singleton_self _
          refine ⟨_, mem_of_checksItem hplain hapart hparent hf h hfinding, rfl, rfl, ?_⟩
          intro hcode
          cases hcode
      | @inner _ _ _ _ _ items f index entries _ hf h hfault =>
          have hitem := plain_itemPath (hparent.plain_join (hplain f hf)) index
          obtain ⟨info, minItems, maxItems, heq⟩ := h.repeats
          obtain ⟨x, hx, rfl, hcode, hcondition⟩ :=
            ih info items minItems maxItems (heq ▸ hf) hitem.tidy hfault
          refine ⟨x, mem_of_checksItem hplain hapart hparent hf h hx, rfl, hcode, ?_⟩
          -- Whatever else is found at the path is found at the same item, where the induction
          -- hypothesis applies to it.
          intro hc y hy hypath
          have hx_item : x ∈ checkItem operations scope (rulesOf f) items
              (itemPath (join parent f.name) index) (.object entries) := hx
          have hpre : parts (itemPath (join parent f.name) index) <+: parts y.path := by
            rw [hypath]
            exact parts_prefix_of_mem_checkItem (itemPath_ne_empty _ index) hx_item
          exact hcondition hc y ((origin_of_mem hplain hapart hparent hy).mem_item hplain hapart
            hparent hf h hpre) hypath

end Schema

/-- The errors of data are exactly its faults, each with its code: at a value in place of an object,
at a value that the leaf of a field objects to, at a field whose condition does not hold and whose
leaf does not object, and at and in the items of a list. -/
theorem Form.errors_are_faults {form : Form} (h : form.tree.Accepted)
    (hplain : ∀ f : Field, f.Within form.fields → Path.Plain f.name)
    (hitems : ∀ info items minItems maxItems,
      (Field.repeating info items minItems maxItems).Within form.fields →
        ∀ f ∈ items, ∀ g ∈ items, ¬ Path.Below f.name g.name) (data : Json) :
    Dictionary.Ascending (form.errors data) ∧
      (∀ entry ∈ form.errors data, entry.2.severity = .error) ∧
      ∀ path code, (∃ e, Dictionary.lookup path (form.errors data) = some e ∧ e.code = code) ↔
        ∃ c, Schema.Fault form.operations data "" data form.fields path c ∧ code = c.name := by
  have horderly : Field.Orderly form.fields := h.orderly hplain hitems
  have hranked : Schema.Ranked (form.schema.check form.operations data) :=
    Schema.ranked_checkFields horderly Path.tidy_empty
  refine ⟨form.ascending_errors data, ?_, ?_⟩
  · intro entry hentry
    exact Form.severity_of_mem_errors hentry
  · intro path code
    have hreports : ∀ c, Schema.Fault form.operations data "" data form.fields path c ↔
        ∃ x, Schema.firstAt path (form.schema.check form.operations data) = some x ∧
          x.objection.code = c := by
      intro c
      rw [Schema.exists_firstAt_iff_reports hranked]
      exact ⟨Schema.reports_of_fault horderly Path.tidy_empty,
        Schema.fault_of_reports horderly Path.tidy_empty⟩
    simp only [hreports, form.lookup_errors, Option.map_eq_some_iff]
    constructor
    · rintro ⟨e, ⟨x, hx, rfl⟩, rfl⟩
      exact ⟨x.objection.code, ⟨x, hx, rfl⟩, rfl⟩
    · rintro ⟨c, ⟨x, hx, rfl⟩, rfl⟩
      exact ⟨_, ⟨x, hx, rfl⟩, rfl⟩

namespace Jobs

/-- A job without a place, something that is no job, and a job at a number. -/
def data : Json :=
  .object
    [("jobs",
      .array
        [.object [], .null, .object [("at", .object [("zip", .number (.integer 5))])]])]

theorem eq_of_within {f : Field} (h : f.Within form.fields) : f = jobs ∨ f = note ∨ f = zip := by
  rw [fields_form] at h
  cases h with
  | here hmem =>
      rcases List.mem_cons.mp hmem with rfl | hmem
      · exact Or.inl rfl
      · exact Or.inr (Or.inl (List.mem_singleton.mp hmem))
  | @inside _ items info minItems maxItems howner h =>
      have hjobs : Field.repeating info items minItems maxItems = jobs := by
        rcases List.mem_cons.mp howner with heq | hmem
        · exact heq
        · cases List.mem_singleton.mp hmem
      cases hjobs
      cases h with
      | here hmem => exact Or.inr (Or.inr (List.mem_singleton.mp hmem))
      | inside howner _ => cases List.mem_singleton.mp howner

/-- The error at the number in place of a code is a fault. -/
theorem exists_fault_at_zip :
    ∃ c, Schema.Fault form.operations data "" data form.fields "jobs.2.at.zip" c ∧
      "type_mismatch" = c.name := by
  refine ((Form.errors_are_faults accepted_form ?_ ?_ data).2.2 _ _).mp ?_
  · intro f hf
    rcases eq_of_within hf with rfl | rfl | rfl <;> unfold Path.Plain <;> decide +kernel
  · intro info items minItems maxItems hf g hg k hk
    rcases eq_of_within hf with heq | heq | heq
    · cases heq
      rw [List.mem_singleton.mp hg, List.mem_singleton.mp hk]
      exact Path.not_below_self zip.name
    · cases heq
    · cases heq
  · have hcode : (Dictionary.lookup "jobs.2.at.zip" (form.errors data)).map (·.code) =
        some "type_mismatch" := by
      decide +kernel
    simpa [Option.map_eq_some_iff] using hcode

end Jobs

end FormLogic