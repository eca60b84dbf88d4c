import FormLogic.Proofs.Schema.FirstFindings
import FormLogic.Proofs.Schema.Leaves
import FormLogic.Proofs.Tree.Within

/-!
# The order of findings

Where the names of fields have no empty part and lie apart, two findings at one path are those of a
leaf and of the condition of the same field, in this order.
-/

namespace FormLogic.Schema

open SchemaNode FormLogic.Path

variable {operations : Rule.Operations}

/-- Keys that are the part of a plain path. -/
def IsPart (key : String) : Prop := key ≠ "" ∧ '.' ∉ key.toList

theorem isPart_of_mem_parts {path key : String} (h : Plain path) (hkey : key ∈ parts path) :
    IsPart key := by
  refine ⟨?_, dot_not_mem_of_mem_parts hkey⟩
  rintro rfl
  exact h hkey

theorem parts_join_of_isPart {parent key : String} (hparent : Tidy parent) (hkey : IsPart key) :
    parts (join parent key) = segments parent ++ [key] := by
  rw [hparent.parts_join (plain_of_dot_not_mem hkey.2 hkey.1), parts_of_dot_not_mem hkey.2]

theorem join_ne_empty_of_isPart {parent key : String} (hparent : Tidy parent) (hkey : IsPart key) :
    join parent key ≠ "" :=
  (hparent.plain_join (plain_of_dot_not_mem hkey.2 hkey.1)).ne_empty

/-- The findings under different keys have different paths. -/
theorem ranked_checkProperties_of_nodes {scope : Json} {parent : String} {value : Option Json}
    {properties : Properties} (hparent : Tidy parent)
    (hkeyed : Keyed IsPart (.object properties))
    (h : ∀ key node, (key, node) ∈ properties →
      Ranked (node.check operations scope (join parent key) key (valueUnder key value))) :
    Ranked (checkProperties operations scope parent value properties) := by
  obtain ⟨hascending, hkeys⟩ := keyed_object_iff.mp hkeyed
  rw [checkProperties_eq_flatMap, Ranked, List.pairwise_flatMap]
  refine ⟨fun entry hentry => h entry.1 entry.2 hentry, ?_⟩
  refine List.Pairwise.imp_of_mem ?_ hascending
  intro a b ha hb hlt x hx y hy hpath
  -- Their paths extend the path of the object by different keys.
  have hparta : IsPart a.1 := (hkeys a.1 a.2 ha).1
  have hpartb : IsPart b.1 := (hkeys b.1 b.2 hb).1
  have hxa := parts_prefix_of_mem_node_check (join_ne_empty_of_isPart hparent hparta) _ hx
  have hyb := parts_prefix_of_mem_node_check (join_ne_empty_of_isPart hparent hpartb) _ hy
  rw [parts_join_of_isPart hparent hparta] at hxa
  rw [parts_join_of_isPart hparent hpartb, ← hpath] at hyb
  exact absurd (eq_of_prefix_keys hxa hyb) (String.ne_of_lt hlt)

/-- The findings at each leaf of a node are ranked. -/
def RankedLeaves (operations : Rule.Operations) (scope : Json) (path : String)
    (value : Option Json) (node : SchemaNode) : Prop :=
  ∀ keys leaf, descend keys node = some (.leaf leaf) →
    Ranked (leaf.check operations scope (under path keys) (valueAt keys value))

theorem RankedLeaves.inner {scope : Json} {parent : String} {value : Option Json}
    {properties : Properties} (hkeyed : Keyed IsPart (.object properties))
    (h : RankedLeaves operations scope parent value (.object properties)) {key : String}
    {node : SchemaNode} (hmem : (key, node) ∈ properties) :
    RankedLeaves operations scope (join parent key) (valueUnder key value) node := by
  have hlookup : Dictionary.lookup key properties = some node := hkeyed.lookup_of_mem hmem
  intro keys leaf hkeys
  exact h (key :: keys) leaf (by simp [hlookup, hkeys])

theorem ranked_check {scope : Json} (node : SchemaNode) : node.Keyed IsPart →
    ∀ {path key : String} {value : Option Json}, Tidy path →
      RankedLeaves operations scope path value node →
        Ranked (node.check operations scope path key value) := by
  induction node using SchemaNode.induction with
  | leaf l =>
      intro _ path key value _ hleaves
      rw [SchemaNode.check]
      exact hleaves [] l (descend_nil _)
  | object properties ih =>
      intro hkeyed path key value hpath hleaves
      cases hvalue : isObjectOrAbsent value with
      | false =>
          rw [check_object_of_blocked hvalue]
          exact List.pairwise_singleton _ _
      | true =>
          rw [check_object_of_open hvalue]
          apply ranked_checkProperties_of_nodes hpath hkeyed
          intro first next hmem
          obtain ⟨hpart, hnext⟩ := hkeyed.of_mem hmem
          exact ih first next hmem hnext (hpath.join (tidy_of_dot_not_mem hpart.2))
            (hleaves.inner hkeyed hmem)

/-- The findings at an object are ranked if those at each leaf are. -/
theorem ranked_checkProperties {scope : Json} {parent : String} {value : Option Json}
    {properties : Properties} (hparent : Tidy parent)
    (hkeyed : Keyed IsPart (.object properties))
    (hleaves : RankedLeaves operations scope parent value (.object properties)) :
    Ranked (checkProperties operations scope parent value properties) := by
  apply ranked_checkProperties_of_nodes hparent hkeyed
  intro key node hmem
  obtain ⟨hpart, hnode⟩ := hkeyed.of_mem hmem
  exact ranked_check node hnode (hparent.join (tidy_of_dot_not_mem hpart.2))
    (hleaves.inner hkeyed hmem)

/-- The findings at different items have different paths. -/
theorem ranked_items {scope : Json} {rules : Rules} {items : List Field} {path : String}
    {entries : List Json}
    (h : ∀ index item, Ranked
      (checkItem operations scope rules items (itemPath path index) item)) :
    Ranked (entries.zipIdx.flatMap fun (item, index) =>
      checkItem operations scope rules items (itemPath path index) item) := by
  have hindices : entries.zipIdx.Pairwise fun a b => a.2 ≠ b.2 := by
    have hnodup : (entries.zipIdx.map Prod.snd).Nodup := by
      rw [List.zipIdx_map_snd]
      exact List.nodup_range'
    exact List.pairwise_map.mp hnodup
  rw [Ranked, List.pairwise_flatMap]
  refine ⟨fun entry _ => h entry.2 entry.1, hindices.imp ?_⟩
  intro a b hne x hx y hy hpath
  have hxa := parts_prefix_of_mem_checkItem (itemPath_ne_empty path a.2) hx
  have hyb := parts_prefix_of_mem_checkItem (itemPath_ne_empty path b.2) hy
  rw [parts_itemPath] at hxa
  rw [parts_itemPath, ← hpath] at hyb
  exact absurd (digitsText_injective (eq_of_prefix_keys hxa hyb)) hne

/-- The findings at the leaf of a field are ranked if those at each of its items are. -/
theorem ranked_check_leafOf {f : Field} {scope : Json} {path : String} {value : Option Json}
    (h : ∀ info items minItems maxItems, f = .repeating info items minItems maxItems →
      ∀ index item, Ranked
        (checkItem operations scope (rulesOf f) items (itemPath path index) item)) :
    Ranked ((leafOf f).check operations scope path value) := by
  cases hobjection : (leafOf f).objection? (Json.orNull value) with
  | some o =>
      rw [check_of_objection hobjection]
      exact List.pairwise_singleton _ _
  | none =>
      cases f with
      | single info shape =>
          rw [check_leafOf_single hobjection]
          exact List.Pairwise.nil
      | repeating info items minItems maxItems =>
          obtain ⟨entries, -, hcheck⟩ :=
            check_leafOf_repeating operations scope path hobjection
          rw [hcheck]
          exact ranked_items (h info items minItems maxItems rfl)

/-- The findings at an object that holds the values of orderly fields are ranked. -/
theorem ranked_checkFields {fields : List Field} (h : Field.Orderly fields) :
    ∀ {scope : Json} {parent : String} {object : Json}, Tidy parent →
      Ranked (checkFields operations scope parent object fields) := by
  induction h with
  | @intro fields hplain hapart _ ih =>
      intro scope parent object hparent
      have hkeyed : Keyed IsPart (.object (insertAll fields [])) :=
        Keyed.insertAll (fun f hf key hkey => isPart_of_mem_parts (hplain f hf) hkey) (keyed_nil _)
      have hproperties : Ranked
          (checkProperties operations scope parent (some object) (insertAll fields [])) := by
        apply ranked_checkProperties hparent hkeyed
        intro keys leaf hkeys
        obtain ⟨f, hf, rfl, rfl⟩ := (descend_insertAll_eq_leaf_iff hapart).mp hkeys
        rw [under_parts (hplain f hf) hparent]
        apply ranked_check_leafOf
        rintro info items minItems maxItems rfl index item
        have hitem : Plain (itemPath (join parent _) index) :=
          plain_itemPath (hparent.plain_join (hplain _ hf)) index
        -- An item that is an object is checked as the fields are that it holds values of.
        cases item with
        | object entries => exact ih info items minItems maxItems hf hitem.tidy
        | _ => exact List.pairwise_singleton _ _
      -- Conditions come last, so that nothing has to be said of their paths.
      rw [checkFields, Ranked, List.pairwise_append]
      refine ⟨hproperties, ?_, ?_⟩
      · exact List.pairwise_of_forall_mem_list fun x _ y hy _ => code_of_mem_checkConditions y hy
      · intro x _ y hy _
        exact code_of_mem_checkConditions y hy

end FormLogic.Schema
