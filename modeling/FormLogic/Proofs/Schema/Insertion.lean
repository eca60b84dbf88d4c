import FormLogic.Proofs.Dictionary
import FormLogic.Proofs.Path.Segments
import FormLogic.Schema.Basic

/-!
# Leaves put into a schema

Putting a leaf into a schema changes what stands at, above and below the place of the leaf, and
nothing else.  Where the names of fields lie apart, the schema therefore has the leaf of each of
them at its name, objects above these, and nothing else.
-/

namespace FormLogic.Schema

/-! ### Keys of a schema -/

namespace SchemaNode

/-- A statement on schemas holds once it holds of leaves and passes from the entries of an object to
the object. -/
theorem induction {motive : SchemaNode → Prop} (leaf : ∀ l, motive (.leaf l))
    (object : ∀ properties, (∀ key node, (key, node) ∈ properties → motive node) →
      motive (.object properties)) : ∀ node, motive node
  | .leaf l => leaf l
  | .object properties =>
      object properties fun _ node _ => induction leaf object node
termination_by node => sizeOf node
decreasing_by
  have hentry := List.sizeOf_lt_of_mem ‹_ ∈ properties›
  simp only [Prod.mk.sizeOf_spec] at hentry
  simp only [SchemaNode.object.sizeOf_spec]
  omega

/-- What keys lead to from a node. -/
def descend : List String → SchemaNode → Option SchemaNode
  | [], node => some node
  | key :: rest, .object properties => (Dictionary.lookup key properties).bind (descend rest)
  | _ :: _, .leaf _ => none

@[simp] theorem descend_nil (node : SchemaNode) : descend [] node = some node := by
  cases node <;> rfl

@[simp] theorem descend_cons_object (key : String) (rest : List String)
    (properties : Properties) :
    descend (key :: rest) (.object properties) =
      (Dictionary.lookup key properties).bind (descend rest) := rfl

@[simp] theorem descend_cons_leaf (key : String) (rest : List String) (l : Leaf) :
    descend (key :: rest) (.leaf l) = none := rfl

/-- Keys lead into an object, and from one of its entries on. -/
theorem descend_cons_eq_some_iff {key : String} {rest : List String} {node inner : SchemaNode} :
    descend (key :: rest) node = some inner ↔
      ∃ properties next, node = .object properties ∧
        Dictionary.lookup key properties = some next ∧ descend rest next = some inner := by
  cases node with
  | leaf l => simp
  | object properties => simp [Option.bind_eq_some_iff]

theorem descend_append (front back : List String) (node : SchemaNode) :
    descend (front ++ back) node = (descend front node).bind (descend back) := by
  induction front generalizing node with
  | nil => simp
  | cons key rest ih =>
      cases node with
      | leaf l => rfl
      | object properties =>
          rw [List.cons_append, descend_cons_object, descend_cons_object]
          cases Dictionary.lookup key properties with
          | none => rfl
          | some inner => exact ih inner

mutual

/-- The keys of each object ascend, and all keys are of a kind. -/
def Keyed (kind : String → Prop) : SchemaNode → Prop
  | .leaf _ => True
  | .object properties => KeyedAll kind properties

def KeyedAll (kind : String → Prop) : List (String × SchemaNode) → Prop
  | [] => True
  | (key, node) :: rest =>
      kind key ∧ (∀ other ∈ Dictionary.keys rest, key < other) ∧ node.Keyed kind ∧
        KeyedAll kind rest

end

theorem keyed_object_iff {kind : String → Prop} {properties : Properties} :
    Keyed kind (.object properties) ↔
      Dictionary.Ascending properties ∧
        ∀ key node, (key, node) ∈ properties → kind key ∧ node.Keyed kind := by
  rw [Keyed]
  induction properties with
  | nil => simp [KeyedAll, Dictionary.ascending_nil]
  | cons entry rest ih =>
      obtain ⟨key, node⟩ := entry
      rw [KeyedAll, ih, Dictionary.ascending_cons]
      constructor
      · rintro ⟨hkey, hless, hnode, hrest, hall⟩
        refine ⟨⟨hless, hrest⟩, ?_⟩
        intro k n hmem
        rcases List.mem_cons.mp hmem with heq | hmem
        · obtain ⟨rfl, rfl⟩ := Prod.mk.inj heq
          exact ⟨hkey, hnode⟩
        · exact hall k n hmem
      · rintro ⟨⟨hless, hrest⟩, hall⟩
        obtain ⟨hkey, hnode⟩ := hall key node (List.mem_cons_self ..)
        exact ⟨hkey, hless, hnode, hrest, fun k n hmem => hall k n (List.mem_cons_of_mem _ hmem)⟩

section

variable {kind : String → Prop} {properties : Properties} (h : Keyed kind (.object properties))
  {key : String} {node : SchemaNode}

include h

theorem Keyed.of_mem (hmem : (key, node) ∈ properties) : kind key ∧ node.Keyed kind :=
  (keyed_object_iff.mp h).2 key node hmem

theorem Keyed.lookup_of_mem (hmem : (key, node) ∈ properties) :
    Dictionary.lookup key properties = some node :=
  (Dictionary.lookup_eq_some_iff (keyed_object_iff.mp h).1.nodup_keys).mpr hmem

theorem Keyed.lookup (hlookup : Dictionary.lookup key properties = some node) :
    kind key ∧ node.Keyed kind :=
  Keyed.of_mem h (Dictionary.mem_of_lookup_eq_some hlookup)

end

end SchemaNode

/-! ### One leaf -/

open SchemaNode

theorem insertAt_cons {key : String} {rest : List String} (hrest : rest ≠ []) (leaf : Leaf)
    (properties : Properties) :
    insertAt (key :: rest) leaf properties =
      Dictionary.insert key (.object (insertAt rest leaf (inner key properties))) properties := by
  cases rest with
  | nil => exact absurd rfl hrest
  | cons next rest => rfl

/-- Below an entry that is no object there is nothing, as in an empty object. -/
theorem descend_cons_eq_inner {key : String} {rest : List String} (hrest : rest ≠ [])
    (properties : Properties) :
    descend (key :: rest) (.object properties) = descend rest (.object (inner key properties)) := by
  obtain ⟨next, rest, rfl⟩ := List.exists_cons_of_ne_nil hrest
  rw [descend_cons_object, inner]
  cases Dictionary.lookup key properties with
  | none => rfl
  | some node => cases node <;> rfl

theorem inner_insert_self (key : String) (new properties : Properties) :
    inner key (Dictionary.insert key (.object new) properties) = new := by
  rw [inner, Dictionary.lookup_insert_self]

theorem descend_insert_of_ne {key other : String} (hne : other ≠ key) (rest : List String)
    (node : SchemaNode) (properties : Properties) :
    descend (other :: rest) (.object (Dictionary.insert key node properties)) =
      descend (other :: rest) (.object properties) := by
  rw [descend_cons_object, descend_cons_object, Dictionary.lookup_insert_of_ne _ _ hne]

/-- The leaf stands at its place. -/
theorem descend_insertAt_self {place : List String} (hplace : place ≠ []) (leaf : Leaf)
    (properties : Properties) :
    descend place (.object (insertAt place leaf properties)) = some (.leaf leaf) := by
  induction place generalizing properties with
  | nil => exact absurd rfl hplace
  | cons key rest ih =>
      by_cases hrest : rest = []
      · -- At the last key the leaf itself is put.
        subst hrest
        simp [insertAt]
      · rw [insertAt_cons hrest, descend_cons_eq_inner hrest, inner_insert_self]
        exact ih hrest _

/-- Objects stand above the place of a leaf. -/
theorem exists_object_above_insertAt {keys place : List String} (hkeys : keys ≠ [])
    (hpre : keys <+: place) (hne : keys ≠ place) (leaf : Leaf) (properties : Properties) :
    ∃ new, descend keys (.object (insertAt place leaf properties)) = some (.object new) := by
  induction keys generalizing place properties with
  | nil => exact absurd rfl hkeys
  | cons key keys ih =>
      obtain ⟨back, rfl⟩ := hpre
      have hback : back ≠ [] := by
        rintro rfl
        exact hne (by simp)
      have hrest : keys ++ back ≠ [] := by simp [hback]
      rw [List.cons_append, insertAt_cons hrest]
      by_cases hnil : keys = []
      · subst hnil
        exact ⟨insertAt back leaf (inner key properties), by simp⟩
      · rw [descend_cons_eq_inner hnil, inner_insert_self]
        refine ih hnil (List.prefix_append ..) ?_ _
        simpa using hback

/-- Nothing changes aside of the place of a leaf. -/
theorem descend_insertAt_of_apart {keys place : List String} (habove : ¬ keys <+: place)
    (hbelow : ¬ place <+: keys) (leaf : Leaf) (properties : Properties) :
    descend keys (.object (insertAt place leaf properties)) =
      descend keys (.object properties) := by
  induction place generalizing keys properties with
  | nil => exact absurd (List.nil_prefix) hbelow
  | cons key rest ih =>
      cases keys with
      | nil => exact absurd (List.nil_prefix) habove
      | cons other keys =>
          by_cases hother : other = key
          · -- Both go on below the key, and part ways further down.
            subst hother
            rw [List.cons_prefix_cons, not_and] at habove hbelow
            have hkeys : keys ≠ [] := by
              rintro rfl
              exact habove rfl List.nil_prefix
            have hrest : rest ≠ [] := by
              rintro rfl
              exact hbelow rfl List.nil_prefix
            rw [insertAt_cons hrest, descend_cons_eq_inner hkeys, inner_insert_self,
              ih (habove rfl) (hbelow rfl), descend_cons_eq_inner hkeys]
          · by_cases hrest : rest = []
            · subst hrest
              exact descend_insert_of_ne hother keys _ properties
            · rw [insertAt_cons hrest]
              exact descend_insert_of_ne hother keys _ properties

/-- After a leaf has been put in its place, the leaves are this one and those that stood aside of
it. -/
theorem descend_insertAt_eq_leaf_iff {keys place : List String} (hplace : place ≠ [])
    {leaf l : Leaf} {properties : Properties} :
    descend keys (.object (insertAt place leaf properties)) = some (.leaf l) ↔
      keys = place ∧ l = leaf ∨
        ¬ keys <+: place ∧ ¬ place <+: keys ∧
          descend keys (.object properties) = some (.leaf l) := by
  by_cases heq : keys = place
  · subst heq
    rw [descend_insertAt_self hplace]
    simp [eq_comm]
  by_cases habove : keys <+: place
  · -- Above the place there are objects, and nothing else.
    have hobject : ∃ new, descend keys (.object (insertAt place leaf properties)) =
        some (.object new) := by
      cases keys with
      | nil => exact ⟨_, rfl⟩
      | cons key keys => exact exists_object_above_insertAt (by simp) habove heq leaf properties
    obtain ⟨new, hnew⟩ := hobject
    simp [hnew, heq, habove]
  by_cases hbelow : place <+: keys
  · -- Keys lead nowhere beyond the leaf.
    obtain ⟨rest, rfl⟩ := hbelow
    obtain ⟨key, rest, rfl⟩ := List.exists_cons_of_ne_nil (l := rest) (by simpa using heq)
    rw [descend_append, descend_insertAt_self hplace]
    simp
  · rw [descend_insertAt_of_apart habove hbelow]
    simp [heq, habove, hbelow]

theorem mem_insert_entry {key k : String} {node n : SchemaNode} {properties : Properties}
    (h : (k, n) ∈ Dictionary.insert key node properties) :
    (k, n) = (key, node) ∨ (k, n) ∈ properties := by
  induction properties with
  | nil => simpa [Dictionary.insert] using h
  | cons entry rest ih =>
      obtain ⟨first, value⟩ := entry
      rw [Dictionary.insert] at h
      split at h
      · rcases List.mem_cons.mp h with heq | hmem
        · exact Or.inl heq
        · exact Or.inr (List.mem_cons_of_mem _ hmem)
      · split at h
        · exact List.mem_cons.mp h
        · rcases List.mem_cons.mp h with heq | hmem
          · exact Or.inr (heq ▸ List.mem_cons_self ..)
          · exact (ih hmem).imp_right (List.mem_cons_of_mem _)

namespace SchemaNode

theorem keyed_nil (kind : String → Prop) : Keyed kind (.object []) :=
  keyed_object_iff.mpr ⟨Dictionary.ascending_nil, by simp⟩

theorem Keyed.insert {kind : String → Prop} {properties : Properties}
    (h : Keyed kind (.object properties)) {key : String} {node : SchemaNode} (hkey : kind key)
    (hnode : node.Keyed kind) : Keyed kind (.object (Dictionary.insert key node properties)) := by
  rw [keyed_object_iff] at h ⊢
  refine ⟨h.1.insert key node, ?_⟩
  intro k n hmem
  rcases mem_insert_entry hmem with heq | hmem
  · obtain ⟨rfl, rfl⟩ := Prod.mk.inj heq
    exact ⟨hkey, hnode⟩
  · exact h.2 k n hmem

theorem Keyed.inner {kind : String → Prop} {properties : Properties}
    (h : Keyed kind (.object properties)) (key : String) :
    Keyed kind (.object (Schema.inner key properties)) := by
  rw [Schema.inner]
  cases hlookup : Dictionary.lookup key properties with
  | none => exact keyed_nil kind
  | some node =>
      cases node with
      | leaf l => exact keyed_nil kind
      | object properties' => exact (Keyed.lookup h hlookup).2

theorem Keyed.insertAt {kind : String → Prop} {place : List String} (hplace : ∀ k ∈ place, kind k)
    (leaf : Leaf) {properties : Properties} (h : Keyed kind (.object properties)) :
    Keyed kind (.object (Schema.insertAt place leaf properties)) := by
  induction place generalizing properties with
  | nil => exact h
  | cons key rest ih =>
      rw [List.forall_mem_cons] at hplace
      by_cases hrest : rest = []
      · subst hrest
        exact Keyed.insert h hplace.1 trivial
      · rw [insertAt_cons hrest]
        exact Keyed.insert h hplace.1 (ih hplace.2 (Keyed.inner h key))

end SchemaNode

/-- The leaf at a place is the leaf that the keys lead to. -/
theorem leafAt_eq_some_iff {keys : List String} {l : Leaf} {properties : Properties} :
    leafAt keys properties = some l ↔ descend keys (.object properties) = some (.leaf l) := by
  induction keys generalizing properties with
  | nil => simp [leafAt]
  | cons key rest ih =>
      rw [descend_cons_object]
      cases rest with
      | nil =>
          rw [leafAt]
          cases Dictionary.lookup key properties with
          | none => simp
          | some node => cases node <;> simp
      | cons next rest =>
          rw [leafAt]
          cases Dictionary.lookup key properties with
          | none => simp
          | some node =>
              cases node with
              | leaf l => simp
              | object inner => exact ih
          · simp

/-! ### The leaves of fields -/

open FormLogic.Path

theorem insertAll_cons (f : Field) (fields : List Field) (properties : Properties) :
    insertAll (f :: fields) properties =
      insertAll fields (insertAt (parts f.name) (leafOf f) properties) := by
  rw [insertAll, insert]

theorem SchemaNode.Keyed.insertAll {kind : String → Prop} {fields : List Field}
    (hfields : ∀ f ∈ fields, ∀ k ∈ parts f.name, kind k) {properties : Properties}
    (h : Keyed kind (.object properties)) :
    Keyed kind (.object (Schema.insertAll fields properties)) := by
  induction fields generalizing properties with
  | nil =>
      rw [Schema.insertAll]
      exact h
  | cons f fields ih =>
      rw [List.forall_mem_cons] at hfields
      rw [insertAll_cons]
      exact ih hfields.2 (Keyed.insertAt hfields.1 (leafOf f) h)

/-- Nothing changes aside of the names of the fields. -/
theorem descend_insertAll_of_apart {keys : List String} {fields : List Field}
    (h : ∀ f ∈ fields, ¬ keys <+: parts f.name ∧ ¬ parts f.name <+: keys)
    (properties : Properties) :
    descend keys (.object (insertAll fields properties)) = descend keys (.object properties) := by
  induction fields generalizing properties with
  | nil => rw [insertAll]
  | cons f fields ih =>
      rw [List.forall_mem_cons] at h
      rw [insertAll_cons, ih h.2, descend_insertAt_of_apart h.1.1 h.1.2]

/-- An object stays one unless a leaf is put in its place or above it. -/
theorem exists_object_insertAll {keys : List String} (hkeys : keys ≠ []) {fields : List Field}
    (h : ∀ f ∈ fields, ¬ parts f.name <+: keys) {properties : Properties}
    (hobject : ∃ new, descend keys (.object properties) = some (.object new)) :
    ∃ new, descend keys (.object (insertAll fields properties)) = some (.object new) := by
  induction fields generalizing properties with
  | nil =>
      rw [insertAll]
      exact hobject
  | cons f fields ih =>
      rw [List.forall_mem_cons] at h
      rw [insertAll_cons]
      apply ih h.2
      -- The leaf is put below the object, or aside of it.
      by_cases habove : keys <+: parts f.name
      · have hne : keys ≠ parts f.name := fun heq => h.1 (heq ▸ List.prefix_rfl)
        exact exists_object_above_insertAt hkeys habove hne _ properties
      · rw [descend_insertAt_of_apart habove h.1]
        exact hobject

variable {fields : List Field}

/-- The leaf of each field stands at its name. -/
theorem descend_insertAll_name (h : fields.Pairwise fun f g => Apart f.name g.name) {f : Field}
    (hf : f ∈ fields) (properties : Properties) :
    descend (parts f.name) (.object (insertAll fields properties)) = some (.leaf (leafOf f)) := by
  induction fields generalizing properties with
  | nil => cases hf
  | cons g fields ih =>
      obtain ⟨hg, hrest⟩ := List.pairwise_cons.mp h
      rw [insertAll_cons]
      rcases List.mem_cons.mp hf with rfl | hf
      · -- The leaves that are put after this one lie aside of it.
        rw [descend_insertAll_of_apart fun other hother => apart_iff_parts.mp (hg other hother)]
        exact descend_insertAt_self (parts_ne_nil f.name) _ _
      · exact ih hrest hf _

/-- Objects stand above the name of each field. -/
theorem exists_object_above_insertAll (h : fields.Pairwise fun f g => Apart f.name g.name)
    {f : Field} (hf : f ∈ fields) {keys : List String} (hkeys : keys ≠ [])
    (hpre : keys <+: parts f.name) (hne : keys ≠ parts f.name) (properties : Properties) :
    ∃ new, descend keys (.object (insertAll fields properties)) = some (.object new) := by
  induction fields generalizing properties with
  | nil => cases hf
  | cons g fields ih =>
      obtain ⟨hg, hrest⟩ := List.pairwise_cons.mp h
      rw [insertAll_cons]
      rcases List.mem_cons.mp hf with rfl | hf
      · apply exists_object_insertAll hkeys
        · intro other hother hother_keys
          exact (apart_iff_parts.mp (hg other hother)).2 (hother_keys.trans hpre)
        · exact exists_object_above_insertAt hkeys hpre hne _ properties
      · exact ih hrest hf _

/-- Nothing else stands in the schema of fields. -/
theorem descend_insertAll_eq_none (h : fields.Pairwise fun f g => Apart f.name g.name)
    {keys : List String} (hkeys : keys ≠ []) (hfields : ∀ f ∈ fields, ¬ keys <+: parts f.name) :
    descend keys (.object (insertAll fields [])) = none := by
  by_cases hbelow : ∃ f ∈ fields, parts f.name <+: keys
  · -- The keys lead beyond a leaf.
    obtain ⟨f, hf, rest, rfl⟩ := hbelow
    rw [descend_append, descend_insertAll_name h hf]
    cases rest with
    | nil => exact absurd (by simp) (hfields f hf)
    | cons key rest => rfl
  · simp only [not_exists, not_and] at hbelow
    rw [descend_insertAll_of_apart fun f hf => ⟨hfields f hf, hbelow f hf⟩]
    obtain ⟨key, rest, rfl⟩ := List.exists_cons_of_ne_nil hkeys
    rfl

/-- The leaves in the schema of fields are those of the fields, at their names. -/
theorem descend_insertAll_eq_leaf_iff (h : fields.Pairwise fun f g => Apart f.name g.name)
    {keys : List String} {leaf : Leaf} :
    descend keys (.object (insertAll fields [])) = some (.leaf leaf) ↔
      ∃ f ∈ fields, parts f.name = keys ∧ leafOf f = leaf := by
  constructor
  · intro hleaf
    have hkeys : keys ≠ [] := by
      rintro rfl
      cases hleaf
    by_cases habove : ∃ f ∈ fields, keys <+: parts f.name
    · obtain ⟨f, hf, hpre⟩ := habove
      by_cases hne : keys = parts f.name
      · subst hne
        rw [descend_insertAll_name h hf] at hleaf
        cases hleaf
        exact ⟨f, hf, rfl, rfl⟩
      · obtain ⟨new, hnew⟩ := exists_object_above_insertAll h hf hkeys hpre hne []
        rw [hnew] at hleaf
        cases hleaf
    · simp only [not_exists, not_and] at habove
      rw [descend_insertAll_eq_none h hkeys habove] at hleaf
      cases hleaf
  · rintro ⟨f, hf, rfl, rfl⟩
    exact descend_insertAll_name h hf []

/-- The objects in the schema of fields stand above their names. -/
theorem exists_descend_insertAll_eq_object_iff
    (h : fields.Pairwise fun f g => Apart f.name g.name) {keys : List String} (hkeys : keys ≠ []) :
    (∃ new, descend keys (.object (insertAll fields [])) = some (.object new)) ↔
      ∃ f ∈ fields, keys <+: parts f.name ∧ keys ≠ parts f.name := by
  constructor
  · rintro ⟨new, hnew⟩
    by_cases habove : ∃ f ∈ fields, keys <+: parts f.name
    · obtain ⟨f, hf, hpre⟩ := habove
      refine ⟨f, hf, hpre, ?_⟩
      rintro rfl
      rw [descend_insertAll_name h hf] at hnew
      cases hnew
    · simp only [not_exists, not_and] at habove
      rw [descend_insertAll_eq_none h hkeys habove] at hnew
      cases hnew
  · rintro ⟨f, hf, hpre, hne⟩
    exact exists_object_above_insertAll h hf hkeys hpre hne []

end FormLogic.Schema
