import FormLogic.Proofs.ItemLeaves
import FormLogic.Proofs.SeparateFields

/-!
# Schemas in the shape of their fields

Where the names of fields lie apart, no leaf is ever put in the way of another one.  The schema then
has the leaf of each field at its name, no other leaf, and no object that is empty, and the order in
which the leaves are put does not matter.
-/

namespace FormLogic.Schema

open FormLogic.Path SchemaNode

/-! ### Leaves put in any order -/

theorem inner_insert_of_ne {key other : String} (hne : other ≠ key) (node : SchemaNode)
    (properties : Properties) :
    inner other (Dictionary.insert key node properties) = inner other properties := by
  rw [inner, inner, Dictionary.lookup_insert_of_ne _ _ hne]

/-- A leaf is put by writing under the first key of its place, and what is written depends on what
stands under that key alone. -/
theorem exists_insertAt_cons_eq (key : String) (rest : List String) (leaf : Leaf) :
    ∃ node : Properties → SchemaNode, ∀ properties,
      insertAt (key :: rest) leaf properties =
        Dictionary.insert key (node (inner key properties)) properties := by
  by_cases hrest : rest = []
  · subst hrest
    exact ⟨fun _ => .leaf leaf, fun _ => rfl⟩
  · exact ⟨fun old => .object (insertAt rest leaf old), insertAt_cons hrest leaf⟩

/-- Leaves at places that lie apart can be put in either order. -/
theorem insertAt_comm {place other : List String} (habove : ¬ place <+: other)
    (hbelow : ¬ other <+: place) (leaf l : Leaf) (properties : Properties) :
    insertAt place leaf (insertAt other l properties) =
      insertAt other l (insertAt place leaf properties) := by
  induction place generalizing other properties with
  | nil => exact absurd List.nil_prefix habove
  | cons key rest ih =>
      cases other with
      | nil => exact absurd List.nil_prefix hbelow
      | cons next more =>
          by_cases hkey : key = next
          · -- The places share a key, and part ways below it.
            subst hkey
            rw [List.cons_prefix_cons, not_and] at habove hbelow
            have hrest : rest ≠ [] := by
              rintro rfl
              exact habove rfl List.nil_prefix
            have hmore : more ≠ [] := by
              rintro rfl
              exact hbelow rfl List.nil_prefix
            have hinner := ih (habove rfl) (hbelow rfl) (inner key properties)
            simp only [insertAt_cons hrest, insertAt_cons hmore, inner_insert_self,
              Dictionary.insert_insert_self, hinner]
          · obtain ⟨node, hnode⟩ := exists_insertAt_cons_eq key rest leaf
            obtain ⟨node', hnode'⟩ := exists_insertAt_cons_eq next more l
            rw [hnode, hnode', hnode', hnode, inner_insert_of_ne hkey,
              inner_insert_of_ne (Ne.symm hkey)]
            exact Dictionary.insert_comm hkey _ _ properties

theorem insertAll_eq_foldl (fields : List Field) (properties : Properties) :
    insertAll fields properties =
      fields.foldl (fun properties f => insert f.name (leafOf f) properties) properties := by
  induction fields generalizing properties with
  | nil => rw [insertAll, List.foldl_nil]
  | cons f fields ih => rw [insertAll, List.foldl_cons, ih]

/-- The leaves of fields whose names lie apart can be put in any order. -/
theorem insertAll_perm {fields fields' : List Field}
    (h : fields.Pairwise fun f g => Apart f.name g.name) (hperm : fields.Perm fields')
    (properties : Properties) : insertAll fields properties = insertAll fields' properties := by
  have hsymm : Std.Symm fun f g : Field => Apart f.name g.name := ⟨fun _ _ hfg => hfg.symm⟩
  rw [insertAll_eq_foldl, insertAll_eq_foldl]
  apply hperm.foldl_eq'
  intro f hf g hg properties
  by_cases heq : f = g
  · rw [heq]
  · have hapart : Apart f.name g.name := h.forall hf hg heq
    obtain ⟨hfg, hgf⟩ := apart_iff_parts.mp hapart
    exact (insertAt_comm hfg hgf (leafOf f) (leafOf g) properties).symm

/-! ### The leaves of a schema -/

mutual

/-- The keys that lead to each of the leaves at and below a node. -/
def SchemaNode.leafKeys : SchemaNode → List (List String)
  | .leaf _ => [[]]
  | .object properties => leafKeysOf properties

/-- The keys that lead to each of the leaves of an object. -/
def leafKeysOf : List (String × SchemaNode) → List (List String)
  | [] => []
  | (key, node) :: rest => node.leafKeys.map (key :: ·) ++ leafKeysOf rest

end

/-- The paths of all leaves: the keys that lead to a leaf, with dots between them. -/
def leafPaths (properties : Properties) : List String :=
  (leafKeysOf properties).map fun keys => ".".intercalate keys

theorem mem_leafKeysOf_iff {keys : List String} {properties : Properties} :
    keys ∈ leafKeysOf properties ↔
      ∃ key node rest, (key, node) ∈ properties ∧ rest ∈ node.leafKeys ∧ key :: rest = keys := by
  induction properties with
  | nil => simp [leafKeysOf]
  | cons entry properties ih =>
      obtain ⟨first, next⟩ := entry
      rw [leafKeysOf, List.mem_append, List.mem_map, ih]
      constructor
      · rintro (⟨rest, hrest, rfl⟩ | ⟨key, node, rest, hmem, hrest, rfl⟩)
        · exact ⟨first, next, rest, List.mem_cons_self .., hrest, rfl⟩
        · exact ⟨key, node, rest, List.mem_cons_of_mem _ hmem, hrest, rfl⟩
      · rintro ⟨key, node, rest, hmem, hrest, rfl⟩
        rcases List.mem_cons.mp hmem with heq | hmem
        · obtain ⟨rfl, rfl⟩ := Prod.mk.inj heq
          exact Or.inl ⟨rest, hrest, rfl⟩
        · exact Or.inr ⟨key, node, rest, hmem, hrest, rfl⟩

variable {kind : String → Prop}

/-- The leaves that are listed are those that keys lead to. -/
theorem mem_leafKeys_iff (node : SchemaNode) : node.Keyed kind → ∀ keys,
    keys ∈ node.leafKeys ↔ ∃ l, descend keys node = some (.leaf l) := by
  induction node using SchemaNode.induction with
  | leaf l =>
      intro _ keys
      cases keys <;> simp [leafKeys]
  | object properties ih =>
      intro hkeyed keys
      rw [leafKeys, mem_leafKeysOf_iff]
      constructor
      · rintro ⟨key, node, rest, hmem, hrest, rfl⟩
        obtain ⟨l, hl⟩ := (ih key node hmem (Keyed.of_mem hkeyed hmem).2 rest).mp hrest
        exact ⟨l, descend_cons_eq_some_iff.mpr ⟨properties, node, rfl,
          Keyed.lookup_of_mem hkeyed hmem, hl⟩⟩
      · rintro ⟨l, hl⟩
        cases keys with
        | nil => simp at hl
        | cons key rest =>
            obtain ⟨_, node, heq, hlookup, hnode⟩ := descend_cons_eq_some_iff.mp hl
            cases heq
            have hmem := Dictionary.mem_of_lookup_eq_some hlookup
            have hrest := (ih key node hmem (Keyed.of_mem hkeyed hmem).2 rest).mpr ⟨l, hnode⟩
            exact ⟨key, node, rest, hmem, hrest, rfl⟩

theorem nodup_leafKeysOf {properties : Properties} (hkeys : (Dictionary.keys properties).Nodup)
    (hnodes : ∀ key node, (key, node) ∈ properties → node.leafKeys.Nodup) :
    (leafKeysOf properties).Nodup := by
  induction properties with
  | nil => simp [leafKeysOf]
  | cons entry properties ih =>
      obtain ⟨key, node⟩ := entry
      rw [Dictionary.keys_cons, List.nodup_cons] at hkeys
      rw [leafKeysOf, List.nodup_append]
      have hnode : node.leafKeys.Nodup := hnodes key node (List.mem_cons_self ..)
      refine ⟨hnode.map (List.cons_injective), ?_, ?_⟩
      · exact ih hkeys.2 fun k n hmem => hnodes k n (List.mem_cons_of_mem _ hmem)
      · -- The first key does not occur among those of the other entries.
        rintro _ hfirst keys hrest rfl
        obtain ⟨rest, -, rfl⟩ := List.mem_map.mp hfirst
        obtain ⟨k, n, _, hmem, -, heq⟩ := mem_leafKeysOf_iff.mp hrest
        obtain ⟨rfl, -⟩ := List.cons.inj heq
        exact hkeys.1 (Dictionary.mem_keys_iff.mpr ⟨n, hmem⟩)

/-- No leaf is listed twice. -/
theorem nodup_leafKeys (node : SchemaNode) : node.Keyed kind → node.leafKeys.Nodup := by
  induction node using SchemaNode.induction with
  | leaf l =>
      intro _
      simp [leafKeys]
  | object properties ih =>
      intro hkeyed
      rw [leafKeys]
      apply nodup_leafKeysOf (keyed_object_iff.mp hkeyed).1.nodup_keys
      intro key node hmem
      exact ih key node hmem (Keyed.of_mem hkeyed hmem).2

/-! ### The schema of fields that lie apart -/

variable {fields : List Field}

/-- The leaves stand at the names of the fields, one for each field. -/
theorem leafPaths_perm (h : fields.Pairwise fun f g => Apart f.name g.name) :
    (leafPaths (insertAll fields [])).Perm (fields.map Field.name) := by
  have hkeyed : Keyed (fun _ => True) (.object (insertAll fields [])) :=
    Keyed.insertAll (by simp) (keyed_nil _)
  have hnodup : (fields.map fun f => parts f.name).Nodup := by
    rw [List.nodup_iff_pairwise_ne, List.pairwise_map]
    exact h.imp fun hfg heq => hfg.1 (parts_injective heq)
  have hleaf := mem_leafKeys_iff _ hkeyed
  have hleaves := nodup_leafKeys _ hkeyed
  rw [leafKeys] at hleaf hleaves
  have hkeys : (leafKeysOf (insertAll fields [])).Perm (fields.map fun f => parts f.name) := by
    rw [List.perm_ext_iff_of_nodup hleaves hnodup]
    intro keys
    simp only [hleaf, descend_insertAll_eq_leaf_iff h, List.mem_map]
    constructor
    · rintro ⟨l, f, hf, hparts, -⟩
      exact ⟨f, hf, hparts⟩
    · rintro ⟨f, hf, hparts⟩
      exact ⟨leafOf f, f, hf, hparts, rfl⟩
  have hpaths := hkeys.map fun keys => ".".intercalate keys
  rw [List.map_map] at hpaths
  simpa [leafPaths, Function.comp_def, intercalate_parts] using hpaths

/-- An object above a name holds what leads on to that name. -/
theorem object_ne_nil (h : fields.Pairwise fun f g => Apart f.name g.name) {keys : List String}
    (hkeys : keys ≠ []) {properties : Properties}
    (hobject : descend keys (.object (insertAll fields [])) = some (.object properties)) :
    properties ≠ [] := by
  obtain ⟨f, hf, ⟨rest, hrest⟩, hne⟩ :=
    (exists_descend_insertAll_eq_object_iff h hkeys).mp ⟨properties, hobject⟩
  obtain ⟨key, rest, rfl⟩ := List.exists_cons_of_ne_nil (l := rest) (by
    rintro rfl
    exact hne (by simpa using hrest))
  have hleaf := descend_insertAll_name h hf []
  rw [← hrest, descend_append, hobject] at hleaf
  rintro rfl
  cases hleaf

/-- The schema of an accepted form has the leaf of each field at its name, one leaf for each name,
and no empty object below its root; it is the same for the fields in any other order. -/
theorem ofTree_mirrors_fields {t : Tree} (h : t.Accepted) :
    (∀ f ∈ t.fields, leaf? f.name (ofTree t).properties = some (leafOf f)) ∧
      (leafPaths (ofTree t).properties).Perm (t.fields.map Field.name) ∧
      (∀ path, path ∈ leafPaths (ofTree t).properties ↔ ∃ f ∈ t.fields, f.name = path) ∧
      (∀ keys properties, keys ≠ [] →
        descend keys (.object (ofTree t).properties) = some (.object properties) →
          properties ≠ []) ∧
      ∀ fields, fields.Perm t.fields → (ofFields fields).properties = (ofTree t).properties := by
  have hapart := h.pairwise_apart
  have hperm := leafPaths_perm hapart
  refine ⟨?_, hperm, ?_, ?_, ?_⟩
  · intro f hf
    exact leafAt_eq_some_iff.mpr (descend_insertAll_name hapart hf [])
  · intro path
    rw [ofTree, ofFields, hperm.mem_iff, List.mem_map]
  · intro keys properties hkeys hobject
    exact object_ne_nil hapart hkeys hobject
  · intro fields hfields
    exact (insertAll_perm hapart hfields.symm []).symm

/-- The two spellings of one place are two leaves, below an object with a key for each. -/
theorem leafPaths_spellings :
    Spellings.form.tree.Accepted ∧
      (leafPaths (ofTree Spellings.form.tree).properties).Perm ["a.b", "a..b"] ∧
      (ofFields [Spellings.long, Spellings.short]).properties =
        (ofTree Spellings.form.tree).properties := by
  have hmirrors := ofTree_mirrors_fields Spellings.accepted_form
  have hswap : [Spellings.long, Spellings.short].Perm Spellings.form.tree.fields :=
    List.Perm.swap _ _ _
  exact ⟨Spellings.accepted_form, hmirrors.2.1, hmirrors.2.2.2.2 _ hswap⟩

end FormLogic.Schema
