import FormLogic.Proofs.Path.Segments
import FormLogic.Proofs.Tree.Acceptance

/-!
# Fields at any depth

The fields of a form, those that a repeating field repeats, those that one of these repeats, and so
on.  In an accepted form the rules for fields hold at every depth.
-/

namespace FormLogic

namespace Field

/-- A statement on fields holds once it holds of single fields and passes from the items of a
repeating field to the field. -/
theorem induction {motive : Field → Prop} (single : ∀ info shape, motive (.single info shape))
    (repeating : ∀ info items minItems maxItems, (∀ f ∈ items, motive f) →
      motive (.repeating info items minItems maxItems)) (f : Field) : motive f := by
  refine @Field.rec motive (fun fields => ∀ f ∈ fields, motive f) single repeating ?_ ?_ f
  · intro f hf
    cases hf
  · intro f fields hf hfields other hmem
    rcases List.mem_cons.mp hmem with rfl | hmem
    · exact hf
    · exact hfields other hmem

/-- The field is among some fields, or repeated by one of them, at any depth. -/
inductive Within (f : Field) : List Field → Prop where
  | here {fields : List Field} (h : f ∈ fields) : Within f fields
  | inside {fields items : List Field} {info : FieldInfo} {minItems maxItems : Option Nat}
      (howner : .repeating info items minItems maxItems ∈ fields) (h : Within f items) :
      Within f fields

/-- What a field at some depth repeats lies deeper still. -/
theorem Within.trans {f : Field} {fields items : List Field} {info : FieldInfo}
    {minItems maxItems : Option Nat}
    (howner : (Field.repeating info items minItems maxItems).Within fields)
    (h : f.Within items) : f.Within fields := by
  induction howner with
  | here hmem => exact .inside hmem h
  | inside hmem _ ih => exact .inside hmem ih

/-- The names of fields have no empty part and lie apart, at every depth. -/
inductive Orderly : List Field → Prop where
  | intro {fields : List Field} (hplain : ∀ f ∈ fields, Path.Plain f.name)
      (hapart : fields.Pairwise fun f g => Path.Apart f.name g.name)
      (hitems : ∀ info items minItems maxItems,
        .repeating info items minItems maxItems ∈ fields → Orderly items) : Orderly fields

section

variable {fields : List Field} (hplain : ∀ f : Field, f.Within fields → Path.Plain f.name)
  (hapart : fields.Pairwise fun f g => Path.Apart f.name g.name)
  (hitems : ∀ info items minItems maxItems,
    (Field.repeating info items minItems maxItems).Within fields →
      items.Pairwise fun f g => Path.Apart f.name g.name)

include hplain hitems in
theorem orderly_items (f : Field) : f.Within fields → ∀ info items minItems maxItems,
    f = .repeating info items minItems maxItems → Orderly items := by
  induction f using Field.induction with
  | single info shape =>
      intro _ _ _ _ _ heq
      cases heq
  | repeating info items minItems maxItems ih =>
      intro hwithin _ _ _ _ heq
      cases heq
      refine .intro ?_ (hitems info items minItems maxItems hwithin) ?_
      · -- The items lie within the fields, as the field that repeats them does.
        intro g hg
        exact hplain g (hwithin.trans (.here hg))
      · intro info' items' lo hi hmem
        exact ih _ hmem (hwithin.trans (.here hmem)) info' items' lo hi rfl

include hplain hapart hitems in
/-- Fields are orderly if the names at every depth have no empty part and those of siblings lie
apart. -/
theorem orderly_of_within : Orderly fields := by
  refine .intro (fun f hf => hplain f (.here hf)) hapart ?_
  intro info items minItems maxItems hmem
  exact orderly_items hplain hitems _ (.here hmem) info items minItems maxItems rfl

end

end Field

/-! ### Declarations of fields at any depth -/

namespace Declaration

variable {catalog : Option (List String)}

theorem exists_of_mem_fieldsOfAll {ds : List Declaration} {nodes : List Node}
    (hds : ∀ d ∈ ds, ∀ n, Yields d n → ∀ f ∈ n.fields,
      ∃ e, FieldInOrder catalog e ∧ YieldsField e f)
    (h : List.Forall₂ Yields ds nodes) {f : Field} (hf : f ∈ Node.fieldsOfAll nodes) :
    ∃ e, FieldInOrder catalog e ∧ YieldsField e f := by
  induction h with
  | nil =>
      rw [Node.fieldsOfAll] at hf
      cases hf
  | cons hyields hrest ih =>
      rw [List.forall_mem_cons] at hds
      rw [Node.fieldsOfAll, List.mem_append] at hf
      rcases hf with hf | hf
      · exact hds.1 _ hyields f hf
      · exact ih hds.2 hf

theorem exists_of_mem_fields (d : Declaration) : InOrder catalog d → ∀ n, Yields d n →
    ∀ f ∈ n.fields, ∃ e, FieldInOrder catalog e ∧ YieldsField e f := by
  induction d using Declaration.induction with
  | element a items children ihItems ihChildren =>
      intro hinOrder n hyields f hf
      cases hyields with
      | container hkind hchildren =>
          rw [Node.fields] at hf
          cases hinOrder with
          | field _ hother _ => exact absurd hkind hother
          | container _ hds =>
              cases children with
              | none => exact exists_of_mem_fieldsOfAll (by simp) hchildren hf
              | some ds =>
                  refine exists_of_mem_fieldsOfAll ?_ hchildren hf
                  intro d hd
                  exact ihChildren ds rfl d hd (hds ds rfl d hd)
      | field hkind hfield =>
          rw [Node.fields, List.mem_singleton] at hf
          subst hf
          cases hinOrder with
          | container hcontainer _ => exact absurd hcontainer hkind
          | field _ _ hfieldInOrder => exact ⟨_, hfieldInOrder, hfield⟩

theorem map_name_eq_of_yields {ds : List Declaration} {fields : List Field}
    (h : List.Forall₂ YieldsField ds fields) : ds.map name = fields.map Field.name := by
  have hnames : List.Forall₂ (fun d f => name d = Field.name f) ds fields := by
    refine h.imp ?_
    intro d f hyields
    exact (congrArg FieldInfo.name hyields.info_eq).symm
  rwa [← List.forall₂_map_right_iff, ← List.forall₂_map_left_iff, List.forall₂_eq_eq_eq] at hnames

theorem exists_yields_of_mem {ds : List Declaration} {fields : List Field}
    (h : List.Forall₂ YieldsField ds fields) {f : Field} (hf : f ∈ fields) :
    ∃ d ∈ ds, YieldsField d f := by
  induction h with
  | nil => cases hf
  | cons hyields hrest ih =>
      rcases List.mem_cons.mp hf with rfl | hf
      · exact ⟨_, List.mem_cons_self .., hyields⟩
      · obtain ⟨d, hd, hyields⟩ := ih hf
        exact ⟨d, List.mem_cons_of_mem _ hd, hyields⟩

/-- The item fields of a field in order are in order themselves, and have different names. -/
theorem items_of_inOrder {d : Declaration} (hd : FieldInOrder catalog d) {info : FieldInfo}
    {items : List Field} {minItems maxItems : Option Nat}
    (h : YieldsField d (.repeating info items minItems maxItems)) :
    (items.map Field.name).Nodup ∧
      ∀ f ∈ items, ∃ e, FieldInOrder catalog e ∧ YieldsField e f := by
  cases h with
  | repeating hcomponent hitems =>
      -- A declaration that yields a repeating field can be in order by one rule only.
      cases hd with
      | delegate _ hgiven _ => exact absurd (Or.inl (by simp [hgiven])) hcomponent
      | choice _ _ hnone _ => exact absurd (Or.inl rfl) hnone
      | generic _ _ hnone _ => exact absurd (Or.inl rfl) hnone
      | repeating _ _ _ _ hfields _ hnames =>
          refine ⟨map_name_eq_of_yields hitems ▸ hnames, ?_⟩
          intro f hf
          obtain ⟨e, he, hyields⟩ := exists_yields_of_mem hitems hf
          exact ⟨e, hfields e he, hyields⟩

theorem exists_of_within {fields : List Field}
    (hfields : ∀ f ∈ fields, ∃ e, FieldInOrder catalog e ∧ YieldsField e f) {f : Field}
    (h : f.Within fields) : ∃ e, FieldInOrder catalog e ∧ YieldsField e f := by
  induction h with
  | here hmem => exact hfields f hmem
  | inside howner _ ih =>
      obtain ⟨e, he, hyields⟩ := hfields _ howner
      exact ih (items_of_inOrder he hyields).2

end Declaration

namespace Tree

variable {t : Tree}

/-- Each field of an accepted form, at any depth, is that of a declaration in order. -/
theorem Accepted.exists_declaration (h : t.Accepted) {f : Field} (hf : f.Within t.fields) :
    ∃ catalog d, Declaration.FieldInOrder catalog d ∧ Declaration.YieldsField d f := by
  obtain ⟨catalog, ds, hbuild⟩ := h
  have hroots := (build_eq_ok_iff.mp hbuild).1
  have hinOrder := (Declaration.exists_checkRoots_eq_ok_iff.mp ⟨t.roots, hroots⟩).2
  have hyields := Declaration.yields_of_checkRoots_eq_ok hroots
  have hfields : ∀ g ∈ t.fields, ∃ e, Declaration.FieldInOrder catalog e ∧
      Declaration.YieldsField e g := by
    intro g hg
    exact Declaration.exists_of_mem_fieldsOfAll
      (fun d hd => Declaration.exists_of_mem_fields d (hinOrder d hd)) hyields hg
  exact ⟨catalog, Declaration.exists_of_within hfields hf⟩

theorem Accepted.name_ne_empty (h : t.Accepted) {f : Field} (hf : f.Within t.fields) :
    f.name ≠ "" := by
  obtain ⟨catalog, d, hd, hyields⟩ := h.exists_declaration hf
  have hname : f.name = d.name := congrArg FieldInfo.name hyields.info_eq
  rw [hname]
  cases hd <;> assumption

/-- In an accepted form the items of each repeating field have different names. -/
theorem Accepted.item_names_nodup (h : t.Accepted) {info : FieldInfo} {items : List Field}
    {minItems maxItems : Option Nat}
    (hf : (Field.repeating info items minItems maxItems).Within t.fields) :
    (items.map Field.name).Nodup := by
  obtain ⟨catalog, d, hd, hyields⟩ := h.exists_declaration hf
  exact (Declaration.items_of_inOrder hd hyields).1

/-- The fields of an accepted form are orderly if no name has an empty part and no name of an item
field lies below that of a sibling. -/
theorem Accepted.orderly (h : t.Accepted)
    (hplain : ∀ f : Field, f.Within t.fields → Path.Plain f.name)
    (hitems : ∀ info items minItems maxItems,
      (Field.repeating info items minItems maxItems).Within t.fields →
        ∀ f ∈ items, ∀ g ∈ items, ¬ Path.Below f.name g.name) :
    Field.Orderly t.fields := by
  apply Field.orderly_of_within hplain h.pairwise_apart
  intro info items minItems maxItems hwithin
  exact pairwise_apart_of_names (h.item_names_nodup hwithin)
    (hitems info items minItems maxItems hwithin)

end Tree

end FormLogic
