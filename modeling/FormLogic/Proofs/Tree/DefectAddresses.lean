import FormLogic.Proofs.Tree.Addresses
import FormLogic.Proofs.Tree.Cycles
import FormLogic.Proofs.Tree.Shifting

/-!
# Where defects of declarations are

Each defect of declarations by themselves is reported at the address of one of them.  The addresses
follow each other in the order in which declarations are written down, and no reported declaration
is nested in another one, as nothing more is said of a declaration once a defect has been found in
it.  The violations for which a form is refused are the wording of these defects.
-/

namespace FormLogic

open Checked

/-! ### Defects in a region -/

/-- The defects are at addresses of declarations within a region, each of which parts from the later
ones. -/
structure PointsInto (roots : List Declaration) (region : Address → Prop)
    (defects : List Defect) : Prop where
  located : ∀ x ∈ defects, ∃ a, x.address = some a ∧ region a ∧
    ∃ d, Declaration.locate? roots a = some d
  parted : defects.Pairwise fun x y => ∀ a ∈ x.address, ∀ b ∈ y.address, a.PartsBefore b

namespace PointsInto

variable {roots : List Declaration} {region other : Address → Prop} {defects rest : List Defect}
  {address : Address} {d : Declaration}

theorem nil (roots : List Declaration) (region : Address → Prop) : PointsInto roots region [] :=
  ⟨by simp, .nil⟩

theorem single (h : Declaration.locate? roots address = some d) (field : Option String)
    (cause : Cause) : PointsInto roots address.Encloses [⟨some address, field, cause⟩] := by
  refine ⟨?_, List.pairwise_singleton _ _⟩
  intro x hx
  rw [List.mem_singleton.mp hx]
  exact ⟨address, rfl, Address.encloses_refl address, d, h⟩

theorem mono (h : PointsInto roots region defects) (hregion : ∀ a, region a → other a) :
    PointsInto roots other defects := by
  refine ⟨?_, h.parted⟩
  intro x hx
  obtain ⟨a, hxa, ha, hd⟩ := h.located x hx
  exact ⟨a, hxa, hregion a ha, hd⟩

theorem append (h : PointsInto roots region defects) (hrest : PointsInto roots other rest)
    (hparted : ∀ a b, region a → other b → a.PartsBefore b) :
    PointsInto roots (fun a => region a ∨ other a) (defects ++ rest) := by
  refine ⟨?_, List.pairwise_append.mpr ⟨h.parted, hrest.parted, ?_⟩⟩
  · intro x hx
    rcases List.mem_append.mp hx with hx | hx
    · obtain ⟨a, hxa, ha, hd⟩ := h.located x hx
      exact ⟨a, hxa, Or.inl ha, hd⟩
    · obtain ⟨a, hxa, ha, hd⟩ := hrest.located x hx
      exact ⟨a, hxa, Or.inr ha, hd⟩
  · intro x hx y hy a hxa b hyb
    obtain ⟨a', hxa', ha, -⟩ := h.located x hx
    obtain ⟨b', hyb', hb, -⟩ := hrest.located y hy
    obtain rfl : a' = a := Option.some.inj (hxa'.symm.trans hxa)
    obtain rfl : b' = b := Option.some.inj (hyb'.symm.trans hyb)
    exact hparted a' b' ha hb

/-- The places of a list from an index on, and what is nested in them. -/
def From (place : Nat → Address) (index : Nat) (a : Address) : Prop :=
  ∃ k, index ≤ k ∧ (place k).Encloses a

/-- The defects of the declaration at an index of a list are followed by those of the declarations
after it. -/
theorem cons_from {place : Nat → Address} (hplace : ∀ i j, i < j → (place i).PartsBefore (place j))
    {index : Nat} (h : PointsInto roots (place index).Encloses defects)
    (hrest : PointsInto roots (From place (index + 1)) rest) :
    PointsInto roots (From place index) (defects ++ rest) := by
  refine (h.append hrest ?_).mono ?_
  · rintro a b ha ⟨k, hk, hb⟩
    exact (hplace index k hk).mono ha hb
  · rintro a (ha | ⟨k, hk, ha⟩)
    · exact ⟨index, Nat.le_refl _, ha⟩
    · exact ⟨k, Nat.le_of_succ_le hk, ha⟩

theorem within {place : Nat → Address} {index : Nat} (hplace : ∀ k, address.Encloses (place k))
    (h : PointsInto roots (From place index) defects) :
    PointsInto roots address.Encloses defects := by
  refine h.mono ?_
  rintro a ⟨k, -, ha⟩
  exact (hplace k).trans ha

end PointsInto

/-! ### Defects of one declaration -/

namespace Attributes

variable {catalog : Option (List String)} {address : Address} {a : Attributes}
  {itemFields : Option (String → Checked (List Field))} {motive : List Defect → Prop}

/-- A field has no defect, or a single one at its own address, or those of its item fields. -/
theorem field_defects_cases (none : motive [])
    (own : ∀ name cause, motive [⟨some address, name, cause⟩])
    (items : ∀ check ∈ itemFields, motive (check a.trimmedName).defects) :
    motive (a.field catalog address itemFields).defects := by
  unfold field
  by_cases hname : a.trimmedName = ""
  · rw [if_pos hname]
    exact own _ _
  rw [if_neg hname]
  split
  · -- A component is asked for.
    split
    · exact own _ _
    · split
      · split
        · exact none
        · exact own _ _
      · exact none
  · split
    · -- Item fields are asked for.
      split
      · exact own _ _
      · split
        · exact own _ _
        · rw [defects_map]
          exact items _ rfl
    · -- Choices may be asked for.
      split
      · split
        · exact own _ _
        · exact none
      · exact none

/-- An item field has no defect, or a single one at its own address, or those of the field. -/
theorem itemField_defects_cases {owner : String} {seen : List String} (none : motive [])
    (own : ∀ name cause, motive [⟨some address, name, cause⟩])
    (field : motive (a.field catalog address itemFields).defects) :
    motive (a.itemField catalog address owner seen itemFields).defects := by
  unfold itemField
  by_cases hcontainer : a.trimmedKind = Node.containerType
  · rw [if_pos hcontainer]
    exact own _ _
  by_cases hkind : a.trimmedKind = ""
  · rw [if_neg hcontainer, if_pos hkind]
    exact own _ _
  rw [if_neg hcontainer, if_neg hkind]
  cases hfield : a.field catalog address itemFields with
  | error defects =>
      rw [hfield] at field
      exact field
  | ok f =>
      simp only [bind, Except.bind]
      split
      · exact own _ _
      · split
        · exact own _ _
        · exact none

end Attributes

namespace Declaration

variable {catalog : Option (List String)} {roots : List Declaration} {address : Address}

/-- The declarations are those at an index of a list and after it. -/
def AreAt (roots : List Declaration) (place : Nat → Address) (index : Nat)
    (ds : List Declaration) : Prop :=
  ∀ k d, ds[k]? = some d → locate? roots (place (index + k)) = some d

theorem AreAt.head {place : Nat → Address} {index : Nat} {d : Declaration} {ds : List Declaration}
    (h : AreAt roots place index (d :: ds)) : locate? roots (place index) = some d := h 0 d rfl

theorem AreAt.tail {place : Nat → Address} {index : Nat} {d : Declaration} {ds : List Declaration}
    (h : AreAt roots place index (d :: ds)) : AreAt roots place (index + 1) ds := by
  intro k next hnext
  rw [Nat.add_right_comm]
  exact h (k + 1) next hnext

theorem areAt_items {a : Attributes} {items : List Declaration}
    {children : Option (List Declaration)}
    (h : locate? roots address = some (.element a (some items) children)) :
    AreAt roots address.item 0 items := by
  intro k d hd
  rw [Nat.zero_add, Address.item, locate?_snoc h]
  exact hd

theorem areAt_children {a : Attributes} {items : Option (List Declaration)}
    {children : List Declaration}
    (h : locate? roots address = some (.element a items (some children))) :
    AreAt roots address.child 0 children := by
  intro k d hd
  rw [Nat.zero_add, Address.child, locate?_snoc h]
  exact hd

theorem pointsInto_checkItems {parent : Address} {owner : String} {ds : List Declaration}
    (hds : ∀ d ∈ ds, ∀ address, locate? roots address = some d →
      PointsInto roots address.Encloses (d.checkField catalog address).defects)
    {index : Nat} (h : AreAt roots parent.item index ds) (seen : List String) :
    PointsInto roots (PointsInto.From parent.item index)
      (checkItems catalog parent owner index seen ds).defects := by
  induction ds generalizing index seen with
  | nil =>
      rw [checkItems]
      exact .nil roots _
  | cons d ds ih =>
      rw [List.forall_mem_cons] at hds
      rw [checkItems, defects_cons]
      refine .cons_from (fun i j => Address.partsBefore_item parent) ?_ (ih hds.2 h.tail _)
      obtain ⟨a, items, children⟩ := d
      rw [checkItem]
      exact Attributes.itemField_defects_cases (.nil roots _) (.single h.head)
        (hds.1 _ h.head)

theorem pointsInto_checkField (d : Declaration) :
    ∀ address, locate? roots address = some d →
      PointsInto roots address.Encloses (d.checkField catalog address).defects := by
  induction d using Declaration.induction with
  | element a items children ihItems ihChildren =>
      intro address h
      refine Attributes.field_defects_cases (.nil roots _) (.single h) ?_
      intro check hcheck
      cases items with
      | none => rw [checkOptionalItems] at hcheck; cases hcheck
      | some ds =>
          rw [checkOptionalItems] at hcheck
          cases hcheck
          exact (pointsInto_checkItems (ihItems ds rfl) (areAt_items h) []).within
            address.encloses_item

theorem pointsInto_checkNodes {place : Nat → Address}
    (hplace : ∀ i j, i < j → (place i).PartsBefore (place j)) {ds : List Declaration}
    (hds : ∀ d ∈ ds, ∀ address, locate? roots address = some d →
      PointsInto roots address.Encloses (d.checkNode catalog address).defects)
    {index : Nat} (h : AreAt roots place index ds) :
    PointsInto roots (PointsInto.From place index) (checkNodes catalog place index ds).defects := by
  induction ds generalizing index with
  | nil =>
      rw [checkNodes]
      exact .nil roots _
  | cons d ds ih =>
      rw [List.forall_mem_cons] at hds
      rw [checkNodes, defects_cons]
      exact .cons_from hplace (hds.1 _ h.head) (ih hds.2 h.tail)

theorem pointsInto_checkNode (d : Declaration) :
    ∀ address, locate? roots address = some d →
      PointsInto roots address.Encloses (d.checkNode catalog address).defects := by
  induction d using Declaration.induction with
  | element a items children ihItems ihChildren =>
      intro address h
      rw [checkNode]
      by_cases hkind : a.trimmedKind = ""
      · rw [if_pos hkind]
        exact .single h _ _
      by_cases hcontainer : a.trimmedKind = Node.containerType
      · rw [if_neg hkind, if_pos hcontainer, defects_map]
        cases children with
        | none =>
            rw [checkChildren]
            exact .nil roots _
        | some ds =>
            rw [checkChildren]
            exact (pointsInto_checkNodes (fun i j => address.partsBefore_child)
              (ihChildren ds rfl) (areAt_children h)).within address.encloses_child
      · rw [if_neg hkind, if_neg hcontainer, defects_map]
        exact pointsInto_checkField (.element a items children) address h

end Declaration

/-! ### The violations of refused declarations -/

theorem Declaration.pointsInto_ownDefects (catalog : Option (List String)) (ds : List Declaration) :
    PointsInto ds (PointsInto.From (fun index => ⟨index, []⟩) 0) (ownDefects catalog ds) := by
  refine pointsInto_checkNodes (fun i j => Or.inl) (fun d _ => pointsInto_checkNode d) ?_
  intro k d hd
  rw [Nat.zero_add, locate?_root, hd]

namespace Tree

variable {catalog : Option (List String)} {ds : List Declaration}

/-- Once declarations have defects by themselves, nothing else is reported. -/
theorem refusals_eq_ownDefects (h : Declaration.ownDefects catalog ds ≠ []) :
    refusals catalog ds = (Declaration.ownDefects catalog ds).map Defect.violation := by
  have hds : ds ≠ [] := by
    rintro rfl
    exact h (by rw [Declaration.ownDefects, Declaration.checkNodes, defects_ok])
  rw [← Declaration.defects_checkRoots hds] at h ⊢
  rw [refusals, Form.treeOf, build]
  cases hroots : Declaration.checkRoots catalog ds with
  | ok nodes => rw [hroots] at h; exact absurd rfl h
  | error defects => rfl

/-- Each violation is told of the declaration at one of the addresses.  They come in the order in
which declarations are written down, each of them once, and none is nested in another one. -/
structure Pinpoint (ds : List Declaration) (violations : List Violation)
    (addresses : List Address) : Prop where
  paths : violations.map Violation.path = addresses.map Address.text
  located : ∀ a ∈ addresses, ∃ d, Declaration.locate? ds a = some d
  ordered : addresses.Pairwise Address.Precedes
  once : addresses.Nodup
  apart : ∀ a ∈ addresses, ∀ b ∈ addresses, ¬ a.Above b

end Tree

namespace PointsInto

variable {roots : List Declaration} {region : Address → Prop} {defects : List Defect}

theorem pinpoint (h : PointsInto roots region defects) :
    Tree.Pinpoint roots (defects.map Defect.violation) (defects.filterMap Defect.address) := by
  have hparted : (defects.filterMap Defect.address).Pairwise Address.PartsBefore :=
    List.pairwise_filterMap.mpr h.parted
  have hordered : (defects.filterMap Defect.address).Pairwise Address.Precedes :=
    hparted.imp Or.inr
  refine ⟨?_, ?_, hordered, hordered.imp Address.Precedes.ne,
    Address.not_above_of_pairwise_partsBefore hparted⟩
  · -- Every defect has an address, and its path is the wording of it.
    have hpath : ∀ x ∈ defects, x.address.map Address.text = some x.violation.path := by
      intro x hx
      obtain ⟨a, ha, -⟩ := h.located x hx
      rw [Defect.violation, ha, Option.map_some, Option.getD_some]
    rw [List.map_map, List.map_filterMap, List.filterMap_congr hpath]
    exact (congrFun List.filterMap_eq_map defects).symm
  · intro a ha
    obtain ⟨x, hx, hxa⟩ := List.mem_filterMap.mp ha
    obtain ⟨b, hxb, -, hd⟩ := h.located x hx
    obtain rfl : b = a := Option.some.inj (hxb.symm.trans hxa)
    exact hd

end PointsInto

/-- Where declarations have defects by themselves, the violations for which they are refused are
told of declarations that are there, each of them once and in the order in which they are written
down, and never both of a declaration and of one nested in it.  No two declarations are written down
each before the other one, and the wording of an address leads back to it.  The defects of two lists
one after the other are those of the first one, and those of the second one with the indices of its
root elements counted on. -/
theorem Tree.violations_point_at_declarations (catalog : Option (List String)) :
    (∀ ds : List Declaration, ds ≠ [] →
      (Declaration.checkRoots catalog ds).defects = Declaration.ownDefects catalog ds ∧
        (Declaration.ownDefects catalog ds ≠ [] →
          refusals catalog ds = (Declaration.ownDefects catalog ds).map Defect.violation ∧
            ∃ addresses, Pinpoint ds (refusals catalog ds) addresses)) ∧
      (∀ a b : Address, a.Precedes b → ¬ b.Precedes a) ∧ Function.Injective Address.text ∧
      ∀ front back : List Declaration,
        Declaration.ownDefects catalog (front ++ back) =
          Declaration.ownDefects catalog front ++
            (Declaration.ownDefects catalog back).map (Defect.shift front.length) := by
  refine ⟨?_, fun a b => Address.Precedes.asymm, Address.text_injective,
    Declaration.ownDefects_append⟩
  intro ds hds
  refine ⟨Declaration.defects_checkRoots hds, ?_⟩
  intro hdefects
  have hrefusals := refusals_eq_ownDefects hdefects
  refine ⟨hrefusals, (Declaration.ownDefects catalog ds).filterMap Defect.address, ?_⟩
  rw [hrefusals]
  exact (Declaration.pointsInto_ownDefects catalog ds).pinpoint

/-! ### Defects at the root and below it -/

namespace Faulty

def plain (kind name : String) (items children : Option (List Declaration)) : Declaration :=
  .element { kind := some kind, name := some name } items children

/-- An element without a type, and a choice without choices in a container. -/
def front : List Declaration :=
  [.element { name := some "untyped" } none none,
    plain "container" "" none
      (some [plain "text" "note" none none, plain "select" "pick" none none])]

/-- A list whose items have two fields of one name. -/
def back : List Declaration :=
  [plain "array" "rows" (some [plain "text" "x" none none, plain "text" "x" none none]) none]

theorem reported_in_order :
    (Tree.refusals none (front ++ back)).map Violation.path =
        ["elements[0]", "elements[1].children[1]", "elements[2].itemFields[1]"] ∧
      (∃ addresses, Tree.Pinpoint (front ++ back) (Tree.refusals none (front ++ back)) addresses) ∧
      Declaration.ownDefects none (front ++ back) =
        Declaration.ownDefects none front ++
          [⟨some ⟨2, [.item 1]⟩, some "x", .repeatedItemName⟩] := by
  obtain ⟨hpinpoint, -, -, happend⟩ := Tree.violations_point_at_declarations none
  have hfront : Declaration.ownDefects none front =
      [⟨some ⟨0, []⟩, none, .missingType⟩, ⟨some ⟨1, [.child 1]⟩, some "pick", .missingChoices⟩] :=
    rfl
  have hback : Declaration.ownDefects none back =
      [⟨some ⟨0, [.item 1]⟩, some "x", .repeatedItemName⟩] := rfl
  have hboth : Declaration.ownDefects none (front ++ back) =
      Declaration.ownDefects none front ++
        [⟨some ⟨2, [.item 1]⟩, some "x", .repeatedItemName⟩] := by
    rw [happend, hback]
    rfl
  obtain ⟨hrefusals, haddresses⟩ := (hpinpoint (front ++ back) (by simp [front])).2
    (by rw [hboth, hfront]; simp)
  refine ⟨?_, haddresses, hboth⟩
  rw [hrefusals, hboth, hfront]
  decide

end Faulty

end FormLogic
