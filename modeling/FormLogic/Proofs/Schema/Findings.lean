import FormLogic.Proofs.Schema.Insertion
import FormLogic.Schema.Check

/-!
# What the check finds

The findings at an object are those at the leaves that can be reached from it, together with one for
each value that stands where an object should be.  All findings at a leaf and below it have paths at
or below that of the leaf.
-/

namespace FormLogic.Schema

open SchemaNode FormLogic.Path

variable {operations : Rule.Operations} {scope : Json} {x : Finding}

/-! ### Values at keys -/

/-- The value that keys of objects lead to, if there is one. -/
def valueAt (keys : List String) (value : Option Json) : Option Json :=
  keys.foldl (fun value key => valueUnder key value) value

@[simp] theorem valueAt_nil (value : Option Json) : valueAt [] value = value := rfl

@[simp] theorem valueAt_cons (key : String) (keys : List String) (value : Option Json) :
    valueAt (key :: keys) value = valueAt keys (valueUnder key value) := rfl

/-- Every value on the way that keys lead can be checked as an object. -/
def OpenAbove (keys : List String) (value : Option Json) : Prop :=
  ∀ front, front <+: keys → front ≠ keys → isObjectOrAbsent (valueAt front value) = true

theorem openAbove_nil (value : Option Json) : OpenAbove [] value := by
  intro front hpre hne
  exact absurd (List.prefix_nil.mp hpre) hne

theorem openAbove_cons_iff {key : String} {keys : List String} {value : Option Json} :
    OpenAbove (key :: keys) value ↔
      isObjectOrAbsent value = true ∧ OpenAbove keys (valueUnder key value) := by
  constructor
  · intro h
    refine ⟨h [] List.nil_prefix (by simp), ?_⟩
    intro front hpre hne
    exact h (key :: front) (List.cons_prefix_cons.mpr ⟨rfl, hpre⟩) (by simpa using hne)
  · rintro ⟨hvalue, h⟩ front hpre hne
    cases front with
    | nil => exact hvalue
    | cons first front =>
        obtain ⟨rfl, hfront⟩ := List.cons_prefix_cons.mp hpre
        exact h front hfront (by simpa using hne)

/-! ### Findings at objects -/

/-- The finding at a value that is no object where there should be one. -/
def blocked (path label : String) : Finding where
  path := path
  objection := { code := .typeMismatch }
  label := label
  template := none

theorem checkProperties_eq_flatMap (parent : String) (value : Option Json)
    (properties : Properties) :
    checkProperties operations scope parent value properties =
      properties.flatMap fun (key, node) =>
        node.check operations scope (join parent key) key (valueUnder key value) := by
  induction properties with
  | nil => rw [checkProperties, List.flatMap_nil]
  | cons entry rest ih =>
      obtain ⟨key, node⟩ := entry
      rw [checkProperties, ih, List.flatMap_cons]

theorem mem_checkProperties_iff {parent : String} {value : Option Json} {properties : Properties} :
    x ∈ checkProperties operations scope parent value properties ↔
      ∃ key node, (key, node) ∈ properties ∧
        x ∈ node.check operations scope (join parent key) key (valueUnder key value) := by
  rw [checkProperties_eq_flatMap, List.mem_flatMap, Prod.exists]

theorem check_object_of_open {path key : String} {value : Option Json} {properties : Properties}
    (h : isObjectOrAbsent value = true) :
    SchemaNode.check operations scope path key value (.object properties) =
      checkProperties operations scope path value properties := by
  rw [SchemaNode.check, if_pos h]

theorem check_object_of_blocked {path key : String} {value : Option Json} {properties : Properties}
    (h : isObjectOrAbsent value = false) :
    SchemaNode.check operations scope path key value (.object properties) = [blocked path key] := by
  rw [SchemaNode.check, h]
  rfl

/-- What is found where keys lead is found, if the values on the way can be checked as objects. -/
theorem mem_check_of_descend {keys : List String} {node inner : SchemaNode}
    (hkeys : descend keys node = some inner) {value : Option Json} (hopen : OpenAbove keys value)
    {path key : String}
    (hx : x ∈ inner.check operations scope (under path keys) (keys.getLastD key)
      (valueAt keys value)) :
    x ∈ node.check operations scope path key value := by
  induction keys generalizing node value path key with
  | nil =>
      rw [descend_nil, Option.some.injEq] at hkeys
      subst hkeys
      exact hx
  | cons first keys ih =>
      obtain ⟨properties, next, rfl, hlookup, hrest⟩ := descend_cons_eq_some_iff.mp hkeys
      obtain ⟨hvalue, hopen_rest⟩ := openAbove_cons_iff.mp hopen
      rw [List.getLastD_cons] at hx
      rw [check_object_of_open hvalue, mem_checkProperties_iff]
      exact ⟨first, next, Dictionary.mem_of_lookup_eq_some hlookup, ih hrest hopen_rest hx⟩

/-- What is found is found at a leaf, or at a value in place of an object. -/
theorem exists_descend_of_mem_check {kind : String → Prop} (node : SchemaNode) :
    node.Keyed kind → ∀ {path key : String} {value : Option Json},
      x ∈ node.check operations scope path key value →
        ∃ keys inner, descend keys node = some inner ∧ OpenAbove keys value ∧
          ((∃ leaf, inner = .leaf leaf ∧
              x ∈ leaf.check operations scope (under path keys) (valueAt keys value)) ∨
            (∃ new, inner = .object new) ∧ isObjectOrAbsent (valueAt keys value) = false ∧
              x = blocked (under path keys) (keys.getLastD key)) := by
  induction node using SchemaNode.induction with
  | leaf l =>
      intro _ path key value hx
      rw [SchemaNode.check] at hx
      exact ⟨[], .leaf l, by simp, openAbove_nil value, Or.inl ⟨l, rfl, hx⟩⟩
  | object properties ih =>
      intro hkeyed path key value hx
      cases hvalue : isObjectOrAbsent value with
      | false =>
          rw [check_object_of_blocked hvalue, List.mem_singleton] at hx
          exact ⟨[], .object properties, by simp, openAbove_nil value,
            Or.inr ⟨⟨properties, rfl⟩, hvalue, hx⟩⟩
      | true =>
          rw [check_object_of_open hvalue, mem_checkProperties_iff] at hx
          obtain ⟨first, next, hmem, hx⟩ := hx
          have hlookup : Dictionary.lookup first properties = some next :=
            hkeyed.lookup_of_mem hmem
          obtain ⟨keys, inner, hkeys, hopen, hfound⟩ :=
            ih first next hmem (hkeyed.of_mem hmem).2 hx
          refine ⟨first :: keys, inner, by simp [hlookup, hkeys],
            openAbove_cons_iff.mpr ⟨hvalue, hopen⟩, ?_⟩
          rw [under_cons, valueAt_cons, List.getLastD_cons]
          exact hfound

/-! ### Findings at the leaves of fields -/

/-- The values above a path can be checked as objects. -/
def Clear (path : String) (value : Option Json) : Prop :=
  ∀ above, Below path above → isObjectOrAbsent (valueAt (parts above) value) = true

theorem clear_iff_openAbove {path first : String} {keys : List String}
    (hpath : parts path = first :: keys) {value : Option Json} :
    Clear path value ↔ OpenAbove keys (valueUnder first value) := by
  constructor
  · intro h front hpre hne
    -- The keys on the way are the parts of a path above, as they have no dots.
    have hdotless : Dotless (first :: front) :=
      (dotless_parts path).front (hpath ▸ List.cons_prefix_cons.mpr ⟨rfl, hpre⟩)
    obtain ⟨above, habove⟩ := hdotless.exists_parts_eq (by simp)
    have hbelow : Below path above := by
      rw [below_iff_prefix_ne, habove, hpath]
      exact ⟨List.cons_prefix_cons.mpr ⟨rfl, hpre⟩, by simpa using hne⟩
    have hvalue := h above hbelow
    rwa [habove] at hvalue
  · intro h above habove
    obtain ⟨hpre, hne⟩ := below_iff_prefix_ne.mp habove
    obtain ⟨key, front, hfront⟩ := List.exists_cons_of_ne_nil (parts_ne_nil above)
    rw [hpath, hfront] at hpre hne
    obtain ⟨rfl, hkeys⟩ := List.cons_prefix_cons.mp hpre
    rw [hfront]
    exact h front hkeys (by simpa using hne)

variable {fields : List Field} {parent : String} {value : Option Json}

theorem keyed_insertAll (fields : List Field) :
    Keyed (fun _ => True) (.object (insertAll fields [])) :=
  Keyed.insertAll (fun _ _ _ _ => trivial) (keyed_nil _)

/-- What is found where the schema of fields has a node is found. -/
theorem mem_checkProperties_of_descend {path : String} {inner : SchemaNode}
    {properties : Properties} (hinner : descend (parts path) (.object properties) = some inner)
    (hclear : Clear path value)
    (hx : x ∈ inner.check operations scope (under parent (parts path)) ((parts path).getLastD "")
      (valueAt (parts path) value)) :
    x ∈ checkProperties operations scope parent value properties := by
  obtain ⟨first, keys, hpath⟩ := List.exists_cons_of_ne_nil (parts_ne_nil path)
  rw [clear_iff_openAbove hpath] at hclear
  rw [hpath, descend_cons_object, Option.bind_eq_some_iff] at hinner
  obtain ⟨node, hlookup, hkeys⟩ := hinner
  rw [hpath, List.getLastD_cons] at hx
  exact mem_checkProperties_iff.mpr ⟨first, node, Dictionary.mem_of_lookup_eq_some hlookup,
    mem_check_of_descend hkeys hclear hx⟩

/-- What is found at the leaf of a field that can be reached is found. -/
theorem mem_checkProperties_of_leaf (h : fields.Pairwise fun f g => Apart f.name g.name)
    {f : Field} (hf : f ∈ fields) (hclear : Clear f.name value)
    (hx : x ∈ (leafOf f).check operations scope (under parent (parts f.name))
      (valueAt (parts f.name) value)) :
    x ∈ checkProperties operations scope parent value (insertAll fields []) := by
  apply mem_checkProperties_of_descend (descend_insertAll_name h hf []) hclear
  rw [SchemaNode.check]
  exact hx

/-- A value in place of an object that the name of a field leads through is found. -/
theorem exists_blocked_mem_checkProperties (h : fields.Pairwise fun f g => Apart f.name g.name)
    {f : Field} (hf : f ∈ fields) {above : String} (habove : Below f.name above)
    (hclear : Clear above value)
    (hvalue : isObjectOrAbsent (valueAt (parts above) value) = false) :
    ∃ label, blocked (under parent (parts above)) label ∈
      checkProperties operations scope parent value (insertAll fields []) := by
  obtain ⟨hpre, hne⟩ := below_iff_prefix_ne.mp habove
  obtain ⟨new, hnew⟩ := exists_object_above_insertAll h hf (parts_ne_nil above) hpre hne []
  refine ⟨(parts above).getLastD "", mem_checkProperties_of_descend hnew hclear ?_⟩
  rw [check_object_of_blocked hvalue, List.mem_singleton]

/-- All that is found at an object is found at the leaf of a field that can be reached, or at a
value in place of an object that the name of a field leads through. -/
theorem cases_of_mem_checkProperties (h : fields.Pairwise fun f g => Apart f.name g.name)
    (hx : x ∈ checkProperties operations scope parent value (insertAll fields [])) :
    (∃ f ∈ fields, Clear f.name value ∧
        x ∈ (leafOf f).check operations scope (under parent (parts f.name))
          (valueAt (parts f.name) value)) ∨
      ∃ f ∈ fields, ∃ above label, Below f.name above ∧ Clear above value ∧
        isObjectOrAbsent (valueAt (parts above) value) = false ∧
          x = blocked (under parent (parts above)) label := by
  obtain ⟨first, node, hmem, hx⟩ := mem_checkProperties_iff.mp hx
  have hkeyed := keyed_insertAll fields
  have hlookup : Dictionary.lookup first (insertAll fields []) = some node :=
    hkeyed.lookup_of_mem hmem
  obtain ⟨keys, inner, hkeys, hopen, hfound⟩ :=
    exists_descend_of_mem_check node (hkeyed.of_mem hmem).2 hx
  have hinner : descend (first :: keys) (.object (insertAll fields [])) = some inner := by
    simp [hlookup, hkeys]
  -- By what the schema of fields has where the keys lead.
  rcases hfound with ⟨leaf, rfl, hx⟩ | ⟨⟨new, rfl⟩, hblocked, hx⟩
  · obtain ⟨f, hf, hpath, rfl⟩ := (descend_insertAll_eq_leaf_iff h).mp hinner
    refine Or.inl ⟨f, hf, (clear_iff_openAbove hpath).mpr hopen, ?_⟩
    rw [hpath]
    exact hx
  · obtain ⟨f, hf, hpre, hne⟩ :=
      (exists_descend_insertAll_eq_object_iff h (by simp)).mp ⟨new, hinner⟩
    obtain ⟨above, habove⟩ := ((dotless_parts f.name).front hpre).exists_parts_eq (by simp)
    refine Or.inr ⟨f, hf, above, keys.getLastD first, ?_, (clear_iff_openAbove habove).mpr hopen,
      ?_, ?_⟩
    · rw [below_iff_prefix_ne, habove]
      exact ⟨hpre, hne⟩
    · rw [habove]
      exact hblocked
    · rw [habove]
      exact hx

end FormLogic.Schema
