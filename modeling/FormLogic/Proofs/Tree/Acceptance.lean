import FormLogic.Form
import FormLogic.Proofs.Path.Parts
import FormLogic.Proofs.Tree.Declared
import FormLogic.Proofs.Tree.Dependency

/-!
# Which configurations are accepted

A list of declarations makes a form exactly if each of them is in order and the fields that they
declare fit together: their names are different, no name lies below another one, and dependencies
lead to other fields and never back.  The form has one element for each declaration and keeps all
that it says.
-/

namespace FormLogic

/-- What fields of one form ask of each other. -/
structure Coherent (fields : List FieldInfo) : Prop where
  names_nodup : (fields.map FieldInfo.name).Nodup
  names_apart : ∀ f ∈ fields, ∀ g ∈ fields, ¬ Path.Below g.name f.name
  parents_known : ∀ f ∈ fields, ∀ parent ∈ f.dependsOn,
    parent ≠ f.name ∧ ∃ g ∈ fields, g.name = parent
  acyclic : ∀ name, ¬ Relation.TransGen
    (fun child parent => ∃ f ∈ fields, f.name = child ∧ f.dependsOn = some parent) name name

namespace Declaration

mutual

/-- The attributes of the fields that a declaration declares outside of repeating fields, from top
to bottom. -/
def declaredFields : Declaration → List Attributes
  | .element a _ children =>
      if a.trimmedKind = Node.containerType then declaredFieldsOptional children else [a]

def declaredFieldsOptional : Option (List Declaration) → List Attributes
  | none => []
  | some ds => declaredFieldsAll ds

def declaredFieldsAll : List Declaration → List Attributes
  | [] => []
  | d :: ds => d.declaredFields ++ declaredFieldsAll ds

end

end Declaration

/-- The declarations of a form are in order, by themselves and together. -/
structure Acceptable (catalog : Option (List String)) (ds : List Declaration) : Prop where
  nonempty : ds ≠ []
  inOrder : ∀ d ∈ ds, Declaration.InOrder catalog d
  coherent : Coherent ((Declaration.declaredFieldsAll ds).map Attributes.fieldInfo)

namespace Tree

variable {t : Tree}

/-! ### Names -/

theorem isNestedIn_eq_true_iff {nested name : String} :
    isNestedIn nested name = true ↔ Path.Below nested name := by
  rw [isNestedIn, List.isPrefixOf_iff_prefix]
  constructor
  · rintro ⟨rest, hrest⟩
    refine ⟨String.ofList rest, String.toList_injective ?_⟩
    simp [← hrest]
  · rintro ⟨rest, rfl⟩
    exact ⟨rest.toList, by simp⟩

theorem repeatedNames_eq_nil_iff {seen : List String} {fields : List Field} :
    repeatedNames seen fields = [] ↔
      (fields.map Field.name).Nodup ∧ ∀ f ∈ fields, f.name ∉ seen := by
  induction fields generalizing seen with
  | nil => simp [repeatedNames]
  | cons f fields ih =>
      rw [repeatedNames]
      by_cases hseen : f.name ∈ seen
      · simp [hseen]
      · simp only [List.contains_eq_mem, hseen, decide_false, Bool.false_eq_true, if_false, ih,
          List.mem_cons, not_or, List.map_cons, List.nodup_cons, List.mem_map, not_exists, not_and,
          forall_eq_or_imp, not_false_iff, true_and]
        constructor
        · rintro ⟨hnodup, hfields⟩
          exact ⟨⟨fun g hg => (hfields g hg).1, hnodup⟩, fun g hg => (hfields g hg).2⟩
        · rintro ⟨⟨hne, hnodup⟩, hfields⟩
          exact ⟨hnodup, fun g hg => ⟨hne g hg, hfields g hg⟩⟩

theorem mem_sortedNames {name : String} {fields : List Field} :
    name ∈ sortedNames fields ↔ ∃ f ∈ fields, f.name = name := by
  rw [sortedNames, Dictionary.mem_keys_ofList]
  simp

theorem nestedNames_eq_nil_iff {fields : List Field} :
    nestedNames fields = [] ↔ ∀ f ∈ fields, ∀ g ∈ fields, ¬ Path.Below g.name f.name := by
  simp only [nestedNames, List.filterMap_eq_nil_iff, Option.map_eq_none_iff, List.find?_eq_none,
    mem_sortedNames, isNestedIn_eq_true_iff, forall_exists_index, and_imp,
    forall_apply_eq_imp_iff₂]

/-! ### Dependencies -/

theorem mem_map_parent {fields : List Field} {child parent : String} :
    (child, parent) ∈ (fields.filterMap fun f => f.dependsOn.map fun p => (f.name, p)) ↔
      ∃ f ∈ fields, f.name = child ∧ f.dependsOn = some parent := by
  simp only [List.mem_filterMap, Option.map_eq_some_iff, Prod.mk.injEq]
  constructor
  · rintro ⟨f, hf, p, hp, rfl, rfl⟩
    exact ⟨f, hf, rfl, hp⟩
  · rintro ⟨f, hf, rfl, hp⟩
    exact ⟨f, hf, parent, hp, rfl, rfl⟩

theorem nodup_children {fields : List Field} (h : (fields.map Field.name).Nodup) :
    ((fields.filterMap fun f => f.dependsOn.map fun p => (f.name, p)).map (·.1)).Nodup := by
  rw [List.map_filterMap]
  -- The dependent fields are some of the fields, in the same order.
  refine List.Nodup.sublist ?_ h
  induction fields with
  | nil => exact List.Sublist.slnil
  | cons f fields ih =>
      rw [List.map_cons, List.nodup_cons] at h
      cases hd : f.dependsOn with
      | none => simpa [List.filterMap_cons, hd] using (ih h.2).cons _
      | some parent => simpa [List.filterMap_cons, hd] using (ih h.2).cons_cons f.name

/-- Where names are different, a field is found to depend on what it says. -/
theorem lookup_parents_eq_some_iff (h : (t.fields.map Field.name).Nodup)
    {child parent : String} :
    Dictionary.lookup child t.parents = some parent ↔
      ∃ f ∈ t.fields, f.name = child ∧ f.dependsOn = some parent := by
  rw [parents, Dictionary.lookup_ofList_eq_some_iff (nodup_children h), mem_map_parent]

theorem isSome_field?_iff {name : String} :
    (t.field? name).isSome ↔ ∃ f ∈ t.fields, f.name = name := by
  simp [field?]

theorem dependencyCause?_eq_none_iff {child parent : String}
    (hparent : Dictionary.lookup child t.parents = some parent) :
    t.dependencyCause? child parent = none ↔
      parent ≠ child ∧ (∃ g ∈ t.fields, g.name = parent) ∧
        ¬ ∃ n, (climb t.parents)^[n + 1] (some child) = some child := by
  rw [dependencyCause?]
  by_cases hself : child = parent
  · simp [hself]
  rw [if_neg hself]
  by_cases hknown : ∃ g ∈ t.fields, g.name = parent
  · have hsome : (t.field? parent).isNone = false := by
      simpa [Option.isNone_eq_false_iff] using isSome_field?_iff.mpr hknown
    rw [hsome, if_neg Bool.false_ne_true]
    by_cases hcycle : ∃ n, (climb t.parents)^[n + 1] (some child) = some child
    · rw [if_pos ((leadsTo_parent_iff hparent hself).mpr hcycle)]
      exact iff_of_false (by simp) fun h => h.2.2 hcycle
    · rw [if_neg (mt (leadsTo_parent_iff hparent hself).mp hcycle)]
      exact iff_of_true rfl ⟨Ne.symm hself, hknown, hcycle⟩
  · have hnone : (t.field? parent).isNone = true := by
      rw [Option.isNone_iff_eq_none, ← Option.not_isSome_iff_eq_none]
      exact mt isSome_field?_iff.mp hknown
    rw [hnone, if_pos rfl]
    exact iff_of_false (by simp) fun h => hknown h.2.1

theorem dependencyDefects_eq_nil_iff (h : (t.fields.map Field.name).Nodup) :
    t.dependencyDefects = [] ↔
      (∀ f ∈ t.fields, ∀ parent ∈ f.dependsOn,
        parent ≠ f.name ∧ ∃ g ∈ t.fields, g.name = parent) ∧
        ∀ name, ¬ Relation.TransGen
          (fun child parent => ∃ f ∈ t.fields, f.name = child ∧ f.dependsOn = some parent)
          name name := by
  have hkeys : t.parents.keys.Nodup := (Dictionary.ascending_ofList _).nodup_keys
  have hclimb : ∀ name, Relation.TransGen
      (fun child parent => ∃ f ∈ t.fields, f.name = child ∧ f.dependsOn = some parent) name name ↔
        ∃ n, (climb t.parents)^[n + 1] (some name) = some name := by
    intro name
    rw [← transGen_lookup_iff]
    simp only [lookup_parents_eq_some_iff h]
  -- There is no defect exactly if each entry of the dictionary of parents is without one.
  simp only [dependencyDefects, List.filterMap_eq_nil_iff, Option.map_eq_none_iff, Prod.forall,
    ← Dictionary.lookup_eq_some_iff hkeys]
  constructor
  · intro hnone
    have hcause : ∀ child parent, Dictionary.lookup child t.parents = some parent →
        parent ≠ child ∧ (∃ g ∈ t.fields, g.name = parent) ∧
          ¬ ∃ n, (climb t.parents)^[n + 1] (some child) = some child :=
      fun child parent hp => (dependencyCause?_eq_none_iff hp).mp (hnone child parent hp)
    refine ⟨?_, ?_⟩
    · intro f hf parent hp
      obtain ⟨hne, hknown, -⟩ :=
        hcause f.name parent ((lookup_parents_eq_some_iff h).mpr ⟨f, hf, rfl, hp⟩)
      exact ⟨hne, hknown⟩
    · intro name hcycle
      rw [hclimb] at hcycle
      obtain ⟨n, hn⟩ := hcycle
      -- A field on a cycle has a parent, so its dependency has been looked at.
      cases hparent : Dictionary.lookup name t.parents with
      | none =>
          rw [Function.iterate_succ_apply, climb_some, hparent, iterate_climb_none] at hn
          cases hn
      | some parent => exact (hcause name parent hparent).2.2 ⟨n, hn⟩
  · rintro ⟨hknown, hacyclic⟩ child parent hp
    rw [dependencyCause?_eq_none_iff hp]
    obtain ⟨f, hf, rfl, hdepends⟩ := (lookup_parents_eq_some_iff h).mp hp
    obtain ⟨hne, hparent⟩ := hknown f hf parent hdepends
    exact ⟨hne, hparent, mt (hclimb f.name).mpr (hacyclic f.name)⟩

/-! ### Forms as a whole -/

/-- The checks of a form as a whole find nothing exactly if its fields fit together. -/
theorem defects_eq_nil_iff :
    t.nameDefects ++ t.dependencyDefects = [] ↔ Coherent (t.fields.map Field.info) := by
  rw [List.append_eq_nil_iff, nameDefects, List.append_eq_nil_iff, repeatedNames_eq_nil_iff,
    nestedNames_eq_nil_iff]
  have hnames : (t.fields.map Field.info).map FieldInfo.name = t.fields.map Field.name := by
    rw [List.map_map]
    rfl
  constructor
  · -- Dependencies are read from a dictionary by name, which is faithful as names are different.
    rintro ⟨⟨⟨hnodup, -⟩, hapart⟩, hdependencies⟩
    obtain ⟨hknown, hacyclic⟩ := (dependencyDefects_eq_nil_iff hnodup).mp hdependencies
    exact
      { names_nodup := hnames ▸ hnodup
        names_apart := by simpa [Field.name] using hapart
        parents_known := by simpa [Field.name, Field.dependsOn] using hknown
        acyclic := by simpa [Field.name, Field.dependsOn] using hacyclic }
  · intro h
    have hnodup : (t.fields.map Field.name).Nodup := hnames ▸ h.names_nodup
    refine ⟨⟨⟨hnodup, by simp⟩, ?_⟩, (dependencyDefects_eq_nil_iff hnodup).mpr ⟨?_, ?_⟩⟩
    · simpa [Field.name] using h.names_apart
    · simpa [Field.name, Field.dependsOn] using h.parents_known
    · simpa [Field.name, Field.dependsOn] using h.acyclic

theorem build_eq_ok_iff {catalog : Option (List String)} {ds : List Declaration} :
    build catalog ds = .ok t ↔
      Declaration.checkRoots catalog ds = .ok t.roots ∧ Coherent (t.fields.map Field.info) := by
  rw [build]
  cases hroots : Declaration.checkRoots catalog ds with
  | error defects => simp [bind, Except.bind]
  | ok roots =>
      simp only [bind, Except.bind, Except.ok.injEq]
      constructor
      · intro h
        cases hdefects : nameDefects ⟨roots⟩ ++ dependencyDefects ⟨roots⟩ with
        | nil =>
            rw [hdefects] at h
            cases h
            exact ⟨rfl, defects_eq_nil_iff.mp hdefects⟩
        | cons defect defects =>
            rw [hdefects] at h
            cases h
      · rintro ⟨rfl, hcoherent⟩
        rw [defects_eq_nil_iff.mpr hcoherent]

end Tree

/-! ### The fields that declarations yield -/

namespace Declaration

theorem YieldsField.info_eq {d : Declaration} {f : Field} (h : YieldsField d f) :
    f.info = d.attributes.fieldInfo := by
  cases h <;> rfl

theorem map_info_fieldsOfAll {ds : List Declaration} {nodes : List Node}
    (hds : ∀ d ∈ ds, ∀ n, Yields d n →
      n.fields.map Field.info = d.declaredFields.map Attributes.fieldInfo)
    (h : List.Forall₂ Yields ds nodes) :
    (Node.fieldsOfAll nodes).map Field.info =
      (declaredFieldsAll ds).map Attributes.fieldInfo := by
  induction h with
  | nil => rw [Node.fieldsOfAll, declaredFieldsAll]; rfl
  | cons hyields hrest ih =>
      rw [List.forall_mem_cons] at hds
      rw [Node.fieldsOfAll, declaredFieldsAll, List.map_append, List.map_append,
        hds.1 _ hyields, ih hds.2]

theorem Yields.map_info_fields (d : Declaration) :
    ∀ n, Yields d n → n.fields.map Field.info = d.declaredFields.map Attributes.fieldInfo := by
  induction d using Declaration.induction with
  | element a items children ihItems ihChildren =>
      intro n h
      cases h with
      | container hkind hchildren =>
          rw [Node.fields, declaredFields, if_pos hkind]
          cases children with
          | none =>
              rw [declaredFieldsOptional, map_info_fieldsOfAll (by simp) hchildren,
                Option.getD_none, declaredFieldsAll]
          | some ds =>
              rw [declaredFieldsOptional]
              exact map_info_fieldsOfAll (ihChildren ds rfl) hchildren
      | field hkind hfield =>
          have hother : a.trimmedKind ≠ Node.containerType := hkind
          rw [Node.fields, declaredFields, if_neg hother]
          simp [hfield.info_eq, attributes]

end Declaration

/-- The fields of a form have the attributes that its declarations give, in their order. -/
theorem Tree.map_info_fields {t : Tree} {ds : List Declaration}
    (h : List.Forall₂ Declaration.Yields ds t.roots) :
    t.fields.map Field.info =
      (Declaration.declaredFieldsAll ds).map Attributes.fieldInfo :=
  Declaration.map_info_fieldsOfAll (fun d _ => Declaration.Yields.map_info_fields d) h

/-- Declarations make a form exactly if they are acceptable, and the form has one element for each
of them, in their order, which keeps all that the declaration says. -/
theorem Tree.build_succeeds_iff_acceptable (catalog : Option (List String))
    (ds : List Declaration) :
    ((∃ t, Tree.build catalog ds = .ok t) ↔ Acceptable catalog ds) ∧
      ∀ t, Tree.build catalog ds = .ok t → List.Forall₂ Declaration.Yields ds t.roots := by
  refine ⟨⟨?_, ?_⟩, ?_⟩
  · rintro ⟨t, ht⟩
    obtain ⟨hroots, hcoherent⟩ := Tree.build_eq_ok_iff.mp ht
    obtain ⟨hnonempty, hinOrder⟩ := Declaration.exists_checkRoots_eq_ok_iff.mp ⟨t.roots, hroots⟩
    rw [Tree.map_info_fields (Declaration.yields_of_checkRoots_eq_ok hroots)] at hcoherent
    exact ⟨hnonempty, hinOrder, hcoherent⟩
  · rintro ⟨hnonempty, hinOrder, hcoherent⟩
    obtain ⟨roots, hroots⟩ := Declaration.exists_checkRoots_eq_ok_iff.mpr ⟨hnonempty, hinOrder⟩
    refine ⟨⟨roots⟩, Tree.build_eq_ok_iff.mpr ⟨hroots, ?_⟩⟩
    rw [Tree.map_info_fields (Declaration.yields_of_checkRoots_eq_ok hroots)]
    exact hcoherent
  · intro t ht
    exact Declaration.yields_of_checkRoots_eq_ok (Tree.build_eq_ok_iff.mp ht).1

/-! ### Accepted trees -/

namespace Tree

/-- Different names of which none lies below another one lie apart. -/
theorem pairwise_apart_of_names {fields : List Field} (hnodup : (fields.map Field.name).Nodup)
    (hbelow : ∀ f ∈ fields, ∀ g ∈ fields, ¬ Path.Below f.name g.name) :
    fields.Pairwise fun f g => Path.Apart f.name g.name := by
  have hne : fields.Pairwise fun f g => f.name ≠ g.name := List.pairwise_map.mp hnodup
  refine hne.imp_of_mem ?_
  intro f g hf hg hfg
  exact ⟨hfg, hbelow f hf g hg, hbelow g hg f hf⟩

section

variable {fields : List Field} (h : fields.Pairwise fun f g => Path.Apart f.name g.name)
  {f g : Field} (hf : f ∈ fields) (hg : g ∈ fields)

include h hf hg

/-- A path lies at or below at most one of some names that lie apart. -/
theorem eq_of_prefix_parts {keys : List String} (hfkeys : Path.parts f.name <+: keys)
    (hgkeys : Path.parts g.name <+: keys) : f = g := by
  have hsymm : Std.Symm fun f g : Field => Path.Apart f.name g.name := ⟨fun _ _ h => h.symm⟩
  by_contra hne
  -- Of two fronts of the same keys one is a front of the other.
  obtain ⟨hfg, hgf⟩ := Path.apart_iff_parts.mp (h.forall hf hg hne)
  rcases List.prefix_or_prefix_of_prefix hfkeys hgkeys with hpre | hpre
  · exact hfg hpre
  · exact hgf hpre

theorem not_below_of_pairwise_apart : ¬ Path.Below g.name f.name := by
  intro hbelow
  have hfg : f = g :=
    eq_of_prefix_parts h hf hg (Path.parts_prefix_iff.mpr (Or.inr hbelow)) List.prefix_rfl
  exact Path.not_below_self f.name (hfg ▸ hbelow)

end

/-- The tree is that of a configuration in which no defect was found. -/
def Accepted (t : Tree) : Prop := ∃ catalog ds, Tree.build catalog ds = .ok t

variable {t : Tree}

theorem Accepted.coherent (h : t.Accepted) : Coherent (t.fields.map Field.info) := by
  obtain ⟨catalog, ds, hbuild⟩ := h
  exact (build_eq_ok_iff.mp hbuild).2

theorem Accepted.names_nodup (h : t.Accepted) : (t.fields.map Field.name).Nodup := by
  have hnames := h.coherent.names_nodup
  rw [List.map_map] at hnames
  exact hnames

theorem Accepted.not_below (h : t.Accepted) {f g : Field} (hf : f ∈ t.fields)
    (hg : g ∈ t.fields) : ¬ Path.Below g.name f.name :=
  h.coherent.names_apart _ (List.mem_map_of_mem hf) _ (List.mem_map_of_mem hg)

/-- The names of different fields lie apart. -/
theorem Accepted.pairwise_apart (h : t.Accepted) :
    t.fields.Pairwise fun f g => Path.Apart f.name g.name :=
  pairwise_apart_of_names h.names_nodup fun _ hf _ hg => h.not_below hg hf

/-- A path lies at or below the name of at most one field. -/
theorem Accepted.owner_unique (h : t.Accepted) {f g : Field} (hf : f ∈ t.fields)
    (hg : g ∈ t.fields) {path : String} (hpf : path = f.name ∨ Path.Below path f.name)
    (hpg : path = g.name ∨ Path.Below path g.name) : f = g :=
  eq_of_prefix_parts h.pairwise_apart hf hg (Path.parts_prefix_iff.mpr hpf)
    (Path.parts_prefix_iff.mpr hpg)

end Tree

/-- A form that was made of a configuration has the elements that are declared there, and its
options. -/
theorem Form.exists_document_of_ofConfiguration {operations : Rule.Operations}
    {catalog : Option (List String)} {configuration : Json} {form : Form}
    (h : Form.ofConfiguration operations catalog configuration = .ok form) :
    ∃ document, Document.read? configuration = some document ∧
      Tree.build catalog document.declarations = .ok form.tree ∧
        form.options = document.options ∧ form.operations = operations := by
  rw [Form.ofConfiguration] at h
  cases hread : Document.read? configuration with
  | none =>
      rw [hread] at h
      cases h
  | some document =>
      rw [hread] at h
      cases hbuild : Tree.build catalog document.declarations with
      | error defects =>
          simp [Form.treeOf, hbuild, bind, Except.bind] at h
      | ok t =>
          simp only [Form.treeOf, hbuild, bind, Except.bind, pure, Except.pure,
            Except.ok.injEq] at h
          subst h
          exact ⟨document, rfl, hbuild, rfl, rfl⟩

theorem Form.build_of_ofConfiguration {operations : Rule.Operations}
    {catalog : Option (List String)} {configuration : Json} {document : Document} {form : Form}
    (h : Form.ofConfiguration operations catalog configuration = .ok form)
    (hread : Document.read? configuration = some document) :
    Tree.build catalog document.declarations = .ok form.tree ∧
      form.options = document.options ∧ form.operations = operations := by
  obtain ⟨found, hfound, hform⟩ := Form.exists_document_of_ofConfiguration h
  obtain rfl : document = found := Option.some.inj (hread.symm.trans hfound)
  exact hform

/-- The tree of a form that was made of a configuration is accepted. -/
theorem Form.accepted_of_ofConfiguration {operations : Rule.Operations}
    {catalog : Option (List String)} {configuration : Json} {form : Form}
    (h : Form.ofConfiguration operations catalog configuration = .ok form) :
    form.tree.Accepted := by
  obtain ⟨document, -, hbuild, -, -⟩ := Form.exists_document_of_ofConfiguration h
  exact ⟨catalog, document.declarations, hbuild⟩

/-! ### A form of jobs -/

namespace Jobs

/-- A list of jobs, each at a place with a zip code, and a note that is asked for but never shown.
-/
def declarations : List Declaration :=
  [.element { kind := some "array", name := some "jobs" }
      (some [.element { kind := some "text", name := some "at.zip" } none none]) none,
    .element
      { kind := some "text", name := some "note", constraints := some { required := true },
        visible := some (.bool false) }
      none none]

/-- What a field has that says nothing but its type and its name. -/
def plainInfo (kind name : String) : FieldInfo where
  kind := kind
  name := name
  label := none
  defaultValue := none
  constraints := none
  visible := none
  dependsOn := none
  resetsWithParent := true
  metadata := none
  extra := []

def zip : Field := .single (plainInfo "text" "at.zip") .generic

def jobs : Field := .repeating (plainInfo "array" "jobs") [zip] none none

def note : Field :=
  .single
    { plainInfo "text" "note" with
      constraints := some { required := true }, visible := some (.bool false) }
    .generic

def form : Form where
  tree := ⟨[.field jobs, .field note]⟩
  options := {}
  operations := Rule.defaultOperations

theorem fields_form : form.fields = [jobs, note] := rfl

theorem accepted_form : form.tree.Accepted := ⟨none, declarations, rfl⟩

end Jobs

end FormLogic
