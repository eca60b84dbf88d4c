import FormLogic.Proofs.Tree.Acceptance
import FormLogic.Proofs.Visibility

/-!
# Forms that are declared alike

Two lists of declarations correspond if they have the same elements in the same places, with
attributes that are related.  If the attributes differ in nothing that decides on the shape of an
element, the fields that are made of the declarations correspond in turn, and stand below containers
of the same rules.
-/

namespace FormLogic

/-- Lists whose entries come from related entries are related themselves. -/
theorem forall₂_of_forall₂ {α α' β β' : Type} {R : α → α' → Prop} {S : α → β → Prop}
    {S' : α' → β' → Prop} {T : β → β' → Prop} {xs : List α} {xs' : List α'} {ys : List β}
    {ys' : List β'} (hR : List.Forall₂ R xs xs') (hS : List.Forall₂ S xs ys)
    (hS' : List.Forall₂ S' xs' ys')
    (h : ∀ x ∈ xs, ∀ x' y y', R x x' → S x y → S' x' y' → T y y') : List.Forall₂ T ys ys' := by
  induction hR generalizing ys ys' with
  | nil =>
      cases hS
      cases hS'
      exact .nil
  | cons hx hxs ih =>
      cases hS with
      | cons hy hys =>
          cases hS' with
          | cons hy' hys' =>
              rw [List.forall_mem_cons] at h
              exact .cons (h.1 _ _ _ hx hy hy') (ih hys hys' h.2)

theorem map_eq_map_of_forall₂ {α α' β : Type} {R : α → α' → Prop} {xs : List α} {xs' : List α'}
    {f : α → β} {f' : α' → β} (h : List.Forall₂ R xs xs') (hf : ∀ x x', R x x' → f x = f' x') :
    xs.map f = xs'.map f' := by
  induction h with
  | nil => rfl
  | cons hx _ ih => rw [List.map_cons, List.map_cons, hf _ _ hx, ih]

/-! ### Attributes -/

/-- What a field has, without its label and without what it asks of its value. -/
def FieldInfo.withoutDemands (info : FieldInfo) : FieldInfo :=
  { info with label := none, constraints := none }

namespace Attributes

/-- Attributes that say the same of an element, apart from its label, from what a field asks of its
value, and from what it offers if it offers choices at all. -/
structure Akin (a a' : Attributes) : Prop where
  rest : { a with
      label := none, constraints := none, choices := none, choicesProvider := none,
      minItems := none, maxItems := none } =
    { a' with
      label := none, constraints := none, choices := none, choicesProvider := none,
      minItems := none, maxItems := none }
  choices : a.AsksForChoices ↔ a'.AsksForChoices

variable {a a' : Attributes}

theorem Akin.trimmedKind_eq (h : a.Akin a') : a.trimmedKind = a'.trimmedKind := by
  have hkind : a.kind = a'.kind := by
    simpa using congrArg Attributes.kind h.rest
  rw [trimmedKind, trimmedKind, hkind]

theorem Akin.visible_eq (h : a.Akin a') : a.visible = a'.visible := by
  simpa using congrArg Attributes.visible h.rest

theorem Akin.asksForComponent_iff (h : a.Akin a') : a.AsksForComponent ↔ a'.AsksForComponent := by
  have hcomponent : a.component = a'.component := by
    simpa using congrArg Attributes.component h.rest
  rw [AsksForComponent, AsksForComponent, hcomponent, h.trimmedKind_eq]

theorem Akin.asksForItems_iff (h : a.Akin a') {items items' : Option (List Declaration)}
    (hitems : items.isSome = items'.isSome) : a.AsksForItems items ↔ a'.AsksForItems items' := by
  rw [AsksForItems, AsksForItems, hitems, h.trimmedKind_eq]

/-- What a field has of its attributes is the same but for its label and what it asks of its value.
-/
theorem Akin.fieldInfo_eq (h : a.Akin a') :
    a.fieldInfo.withoutDemands = a'.fieldInfo.withoutDemands := by
  have hinfo := congrArg Attributes.fieldInfo h.rest
  exact hinfo

theorem asksForComponent_of_eq_some {component : String} (h : a.component = some component) :
    a.AsksForComponent := by
  left
  rw [h]
  rfl

end Attributes

/-! ### Declarations and fields -/

/-- Declarations of the same elements, where the attributes of each two are related. -/
inductive Declaration.Corresponds (r : Attributes → Attributes → Prop) :
    Declaration → Declaration → Prop where
  | element {a a' : Attributes} {items items' children children' : Option (List Declaration)}
      (h : r a a') (hitems : Option.Rel (List.Forall₂ (Corresponds r)) items items')
      (hchildren : Option.Rel (List.Forall₂ (Corresponds r)) children children') :
      Corresponds r (.element a items children) (.element a' items' children')

/-- Fields of the same shape that are made of related attributes, and so are their item fields. -/
inductive Field.Corresponds (r : Attributes → Attributes → Prop) : Field → Field → Prop where
  | delegate {a a' : Attributes} {component component' : String} (h : r a a') :
      Corresponds r (.single a.fieldInfo (.delegate component a.componentProps))
        (.single a'.fieldInfo (.delegate component' a'.componentProps))
  | repeating {a a' : Attributes} {items items' : List Field} (h : r a a')
      (hitems : List.Forall₂ (Corresponds r) items items') :
      Corresponds r (.repeating a.fieldInfo items a.minItems a.maxItems)
        (.repeating a'.fieldInfo items' a'.minItems a'.maxItems)
  | choice {a a' : Attributes} (h : r a a') :
      Corresponds r (.single a.fieldInfo a.choiceShape) (.single a'.fieldInfo a'.choiceShape)
  | generic {a a' : Attributes} (h : r a a') :
      Corresponds r (.single a.fieldInfo .generic) (.single a'.fieldInfo .generic)

namespace Field.Corresponds

variable {r : Attributes → Attributes → Prop} {f f' : Field}

/-- What corresponding fields have is made of related attributes. -/
theorem exists_info (h : Field.Corresponds r f f') :
    ∃ a a', r a a' ∧ f.info = a.fieldInfo ∧ f'.info = a'.fieldInfo := by
  cases h with
  | delegate h => exact ⟨_, _, h, rfl, rfl⟩
  | repeating h _ => exact ⟨_, _, h, rfl, rfl⟩
  | choice h => exact ⟨_, _, h, rfl, rfl⟩
  | generic h => exact ⟨_, _, h, rfl, rfl⟩

theorem info_eq (hr : ∀ a a', r a a' → a.Akin a') (h : Field.Corresponds r f f') :
    f.info.withoutDemands = f'.info.withoutDemands := by
  obtain ⟨a, a', ha, hinfo, hinfo'⟩ := h.exists_info
  rw [hinfo, hinfo']
  exact (hr a a' ha).fieldInfo_eq

theorem name_eq (hr : ∀ a a', r a a' → a.Akin a') (h : Field.Corresponds r f f') :
    f.name = f'.name := by
  have hname := congrArg FieldInfo.name (h.info_eq hr)
  exact hname

end Field.Corresponds

/-- Corresponding fields that stand below containers of the same rules. -/
structure Field.PlacedAlike (r : Attributes → Attributes → Prop)
    (place place' : Field × List (Option Json)) : Prop where
  field : Field.Corresponds r place.1 place'.1
  rules : place.2 = place'.2

namespace Declaration

variable {r : Attributes → Attributes → Prop}

section

variable (hr : ∀ a a', r a a' → a.Akin a')

include hr

/-- Corresponding declarations of fields yield corresponding fields. -/
theorem corresponds_of_yieldsField (d : Declaration) : ∀ {d' : Declaration} {f f' : Field},
    Corresponds r d d' → YieldsField d f → YieldsField d' f' → Field.Corresponds r f f' := by
  induction d using Declaration.induction with
  | element a items children ihItems ihChildren =>
      intro d' f f' hd hf hf'
      cases hd with
      | @element _ a' _ items' _ _ h hitems _ =>
          have hakin : a.Akin a' := hr a a' h
          have hsome : items.isSome = items'.isSome := by cases hitems <;> rfl
          -- The first rule that applies to a declaration applies to the other one, too.
          cases hf with
          | delegate hcomponent =>
              have hasks := Attributes.asksForComponent_of_eq_some hcomponent
              cases hf' with
              | delegate _ => exact .delegate h
              | repeating hnot _ => exact absurd (hakin.asksForComponent_iff.mp hasks) hnot
              | choice hnot _ _ => exact absurd (hakin.asksForComponent_iff.mp hasks) hnot
              | generic hnot _ _ => exact absurd (hakin.asksForComponent_iff.mp hasks) hnot
          | @repeating _ ds _ fields hcomponent hfields =>
              have hasks : a'.AsksForItems items' := Or.inl (hsome ▸ rfl)
              cases hf' with
              | delegate hcomponent' =>
                  have hasks' := Attributes.asksForComponent_of_eq_some hcomponent'
                  exact absurd (hakin.asksForComponent_iff.mpr hasks') hcomponent
              | repeating _ hfields' =>
                  cases hitems with
                  | some hitems =>
                      refine .repeating h (forall₂_of_forall₂ hitems hfields hfields' ?_)
                      intro item hitem item' g g' hcorresponds hg hg'
                      exact ihItems ds rfl item hitem hcorresponds hg hg'
              | choice _ hnot _ => exact absurd hasks hnot
              | generic _ hnot _ => exact absurd hasks hnot
          | choice hcomponent hnone hchoices =>
              cases hf' with
              | delegate hcomponent' =>
                  have hasks' := Attributes.asksForComponent_of_eq_some hcomponent'
                  exact absurd (hakin.asksForComponent_iff.mpr hasks') hcomponent
              | repeating _ _ =>
                  exact absurd ((hakin.asksForItems_iff hsome).mpr (Or.inl rfl)) hnone
              | choice _ _ _ => exact .choice h
              | generic _ _ hnot => exact absurd (hakin.choices.mp hchoices) hnot
          | generic hcomponent hnone hchoices =>
              cases hf' with
              | delegate hcomponent' =>
                  have hasks' := Attributes.asksForComponent_of_eq_some hcomponent'
                  exact absurd (hakin.asksForComponent_iff.mpr hasks') hcomponent
              | repeating _ _ =>
                  exact absurd ((hakin.asksForItems_iff hsome).mpr (Or.inl rfl)) hnone
              | choice _ _ hasks => exact absurd (hakin.choices.mpr hasks) hchoices
              | generic _ _ _ => exact .generic h

end

end Declaration

/-! ### Elements -/

namespace Node

variable {r : Attributes → Attributes → Prop}

theorem placedAlike_placedAll {nodes nodes' : List Node}
    (h : List.Forall₂ (fun n n' => List.Forall₂ (Field.PlacedAlike r) n.placed n'.placed)
      nodes nodes') :
    List.Forall₂ (Field.PlacedAlike r) (placedAll nodes) (placedAll nodes') := by
  induction h with
  | nil => exact .nil
  | cons hn _ ih =>
      rw [placedAll, placedAll]
      exact List.rel_append hn ih

end Node

namespace Declaration

variable {r : Attributes → Attributes → Prop} (hr : ∀ a a', r a a' → a.Akin a')

include hr

/-- Corresponding declarations yield elements whose fields are placed alike. -/
theorem placedAlike_of_yields (d : Declaration) : ∀ {d' : Declaration} {n n' : Node},
    Corresponds r d d' → Yields d n → Yields d' n' →
      List.Forall₂ (Field.PlacedAlike r) n.placed n'.placed := by
  induction d using Declaration.induction with
  | element a items children ihItems ihChildren =>
      intro d' n n' hd hn hn'
      have hd_all := hd
      cases hd with
      | @element _ a' _ _ _ children' h _ hchildren =>
          have hakin : a.Akin a' := hr a a' h
          -- An element and its counterpart are of the same kind: both containers or both fields.
          cases hn with
          | @container _ _ _ nodes hkind hnodes =>
              cases hn' with
              | @container _ _ _ nodes' _ hnodes' =>
                  have hforall : List.Forall₂ (Corresponds r) (children.getD [])
                      (children'.getD []) := by
                    cases hchildren with
                    | none => exact .nil
                    | some hchildren => exact hchildren
                  have hplaced : List.Forall₂
                      (fun m m' => List.Forall₂ (Field.PlacedAlike r) m.placed m'.placed)
                      nodes nodes' := by
                    refine forall₂_of_forall₂ hforall hnodes hnodes' ?_
                    intro child hchild child' m m' hcorresponds hm hm'
                    cases children with
                    | none => cases hchild
                    | some ds => exact ihChildren ds rfl child hchild hcorresponds hm hm'
                  rw [Node.placed, Node.placed, List.forall₂_map_left_iff,
                    List.forall₂_map_right_iff]
                  refine (Node.placedAlike_placedAll hplaced).imp ?_
                  intro place place' hplace
                  exact ⟨hplace.field, by rw [hakin.visible_eq, hplace.rules]⟩
              | field hother _ => exact absurd (hakin.trimmedKind_eq.symm.trans hkind) hother
          | field hother hfield =>
              cases hn' with
              | container hkind _ => exact absurd (hakin.trimmedKind_eq.trans hkind) hother
              | field _ hfield' =>
                  have hfields := corresponds_of_yieldsField hr _ hd_all hfield hfield'
                  rw [Node.placed, Node.placed]
                  exact .cons ⟨hfields, rfl⟩ .nil

end Declaration

namespace Tree

variable {r : Attributes → Attributes → Prop}

/-- The fields of two forms correspond one by one and stand below containers of the same rules. -/
def Corresponds (r : Attributes → Attributes → Prop) (t t' : Tree) : Prop :=
  List.Forall₂ (Field.PlacedAlike r) (Node.placedAll t.roots) (Node.placedAll t'.roots)

/-- Corresponding declarations make corresponding forms, whatever the catalogs are. -/
theorem corresponds_of_build (hr : ∀ a a', r a a' → a.Akin a')
    {catalog catalog' : Option (List String)} {ds ds' : List Declaration} {t t' : Tree}
    (h : List.Forall₂ (Declaration.Corresponds r) ds ds') (ht : build catalog ds = .ok t)
    (ht' : build catalog' ds' = .ok t') : t.Corresponds r t' := by
  have hyields := Declaration.yields_of_checkRoots_eq_ok (build_eq_ok_iff.mp ht).1
  have hyields' := Declaration.yields_of_checkRoots_eq_ok (build_eq_ok_iff.mp ht').1
  apply Node.placedAlike_placedAll
  refine forall₂_of_forall₂ h hyields hyields' ?_
  intro d _ d' n n' hcorresponds hn hn'
  exact Declaration.placedAlike_of_yields hr d hcorresponds hn hn'

theorem fields_eq_map_placedAll (t : Tree) : t.fields = (Node.placedAll t.roots).map (·.1) :=
  (Node.map_placedAll fun n _ => Node.map_placed n).symm

theorem Corresponds.fields {t t' : Tree} (h : t.Corresponds r t') :
    List.Forall₂ (Field.Corresponds r) t.fields t'.fields := by
  rw [fields_eq_map_placedAll, fields_eq_map_placedAll, List.forall₂_map_left_iff,
    List.forall₂_map_right_iff]
  exact h.imp fun _ _ hplace => hplace.field

end Tree

end FormLogic
