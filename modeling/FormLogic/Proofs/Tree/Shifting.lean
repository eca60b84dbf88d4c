import FormLogic.Proofs.Tree.Declared

/-!
# Defects of declarations one after another

The defects of declarations by themselves do not depend on the declarations before and after them.
Where two lists of root elements are put one after the other, the defects of both are found, and
those of the second list are found as far on as the first list is long.
-/

namespace FormLogic

/-! ### Defects of what has been checked -/

namespace Checked

variable {α β : Type}

/-- The defects that were found, if any. -/
def defects : Checked α → List Defect
  | .ok _ => []
  | .error defects => defects

@[simp] theorem defects_ok (a : α) : defects (.ok a) = [] := rfl

@[simp] theorem defects_error (found : List Defect) :
    defects (.error found : Checked α) = found := rfl

@[simp] theorem defects_map (f : α → β) (x : Checked α) : defects (x.map f) = x.defects := by
  cases x <;> rfl

@[simp] theorem defects_cons (x : Checked α) (xs : Checked (List α)) :
    (x.cons xs).defects = x.defects ++ xs.defects := by
  cases x <;> cases xs <;> simp [cons]

end Checked

/-! ### Addresses further on -/

/-- The address of a declaration that as many more root elements precede. -/
def Address.shift (count : Nat) (a : Address) : Address := { a with root := a.root + count }

/-- The defect of a declaration that as many more root elements precede. -/
def Defect.shift (count : Nat) (d : Defect) : Defect :=
  { d with address := d.address.map (Address.shift count) }

namespace Checked

variable {α β : Type} {count : Nat}

/-- What is found of declarations that as many more root elements precede. -/
def shift (count : Nat) (x : Checked α) : Checked α := x.mapError (List.map (Defect.shift count))

@[simp] theorem shift_ok (a : α) : shift count (.ok a) = .ok a := rfl

@[simp] theorem shift_error (found : List Defect) :
    (shift count (.error found) : Checked α) = .error (found.map (Defect.shift count)) := rfl

@[simp] theorem defects_shift (x : Checked α) :
    (x.shift count).defects = x.defects.map (Defect.shift count) := by
  cases x <;> rfl

theorem shift_map (f : α → β) (x : Checked α) :
    shift count (x.map f) = (x.shift count).map f := by
  cases x <;> rfl

theorem shift_cons (x : Checked α) (xs : Checked (List α)) :
    (x.cons xs).shift count = (x.shift count).cons (xs.shift count) := by
  cases x <;> cases xs <;> simp [cons]

end Checked

open Checked

namespace Attributes

variable {catalog : Option (List String)} {address : Address} {a : Attributes}
  {itemFields : Option (String → Checked (List Field))}

/-- At an address further on, a field is found to be the same, or its defects are further on. -/
theorem field_shift (count : Nat) :
    a.field catalog (address.shift count)
        (itemFields.map fun check name => (check name).shift count) =
      (a.field catalog address itemFields).shift count := by
  unfold field
  simp only [Option.isSome_map]
  -- The rules are gone through in the order in which they are tried; none of them asks for the
  -- address.
  split
  · rfl
  split
  · cases a.component with
    | none => rfl
    | some component =>
        cases catalog with
        | none => rfl
        | some known =>
            simp only
            split <;> rfl
  split
  · cases itemFields with
    | none => rfl
    | some check =>
        cases a.boundsDefect with
        | none => exact (shift_map ..).symm
        | some cause => rfl
  split
  · split <;> rfl
  · rfl

theorem itemField_shift (count : Nat) (owner : String) (seen : List String) :
    a.itemField catalog (address.shift count) owner seen
        (itemFields.map fun check name => (check name).shift count) =
      (a.itemField catalog address owner seen itemFields).shift count := by
  unfold itemField
  rw [field_shift]
  simp only
  split
  · rfl
  split
  · rfl
  cases a.field catalog address itemFields with
  | error defects => rfl
  | ok f =>
      simp only [bind, Except.bind, shift_ok]
      split
      · rfl
      · split <;> rfl

end Attributes

namespace Declaration

variable {catalog : Option (List String)}

theorem seenAfter_shift (count : Nat) (seen : List String) (x : Checked Field) :
    seenAfter seen (x.shift count) = seenAfter seen x := by
  cases x <;> rfl

theorem checkItems_shift (count : Nat) {parent : Address} {owner : String} {ds : List Declaration}
    (hds : ∀ d ∈ ds, ∀ address seen, d.checkItem catalog (address.shift count) owner seen =
      (d.checkItem catalog address owner seen).shift count) (index : Nat) (seen : List String) :
    checkItems catalog (parent.shift count) owner index seen ds =
      (checkItems catalog parent owner index seen ds).shift count := by
  induction ds generalizing index seen with
  | nil => rw [checkItems, checkItems, shift_ok]
  | cons d ds ih =>
      rw [List.forall_mem_cons] at hds
      have hd : checkItem catalog ((parent.shift count).item index) owner seen d =
          (checkItem catalog (parent.item index) owner seen d).shift count :=
        hds.1 (parent.item index) seen
      rw [checkItems, checkItems, shift_cons, hd, seenAfter_shift, ih hds.2]

theorem checkOptionalItems_shift (count : Nat) {items : Option (List Declaration)}
    (hitems : ∀ ds ∈ items, ∀ d ∈ ds, ∀ address owner seen,
      d.checkItem catalog (address.shift count) owner seen =
        (d.checkItem catalog address owner seen).shift count) :
    checkOptionalItems catalog (address.shift count) items =
      (checkOptionalItems catalog address items).map
        fun check name => (check name).shift count := by
  cases items with
  | none => rw [checkOptionalItems, checkOptionalItems, Option.map_none]
  | some ds =>
      rw [checkOptionalItems, checkOptionalItems, Option.map_some]
      congr 1
      funext owner
      exact checkItems_shift count (fun d hd address seen => hitems ds rfl d hd address owner seen)
        0 []

theorem checkItem_shift (count : Nat) (d : Declaration) :
    ∀ address owner seen, d.checkItem catalog (address.shift count) owner seen =
      (d.checkItem catalog address owner seen).shift count := by
  induction d using Declaration.induction with
  | element a items children ihItems ihChildren =>
      intro address owner seen
      rw [checkItem, checkItem, checkOptionalItems_shift count ihItems,
        Attributes.itemField_shift]

/-- Where the places are shifted, so are the defects. -/
theorem checkNodes_shift {count : Nat} {ds : List Declaration}
    (hds : ∀ d ∈ ds, ∀ address, d.checkNode catalog (address.shift count) =
      (d.checkNode catalog address).shift count)
    {place target : Nat → Address} {index start : Nat}
    (hplace : ∀ k, target (start + k) = (place (index + k)).shift count) :
    checkNodes catalog target start ds = (checkNodes catalog place index ds).shift count := by
  induction ds generalizing index start with
  | nil => rw [checkNodes, checkNodes, shift_ok]
  | cons d ds ih =>
      rw [List.forall_mem_cons] at hds
      have hfirst : target start = (place index).shift count := hplace 0
      have hrest : checkNodes catalog target (start + 1) ds =
          (checkNodes catalog place (index + 1) ds).shift count := by
        refine ih hds.2 fun k => ?_
        rw [Nat.add_right_comm, Nat.add_right_comm index]
        exact hplace (k + 1)
      rw [checkNodes, checkNodes, shift_cons, hfirst, hds.1, hrest]

theorem checkNode_shift (count : Nat) (d : Declaration) :
    ∀ address, d.checkNode catalog (address.shift count) =
      (d.checkNode catalog address).shift count := by
  induction d using Declaration.induction with
  | element a items children ihItems ihChildren =>
      intro address
      rw [checkNode, checkNode]
      split
      · rfl
      split
      · rw [shift_map]
        congr 1
        cases children with
        | none => rw [checkChildren, checkChildren, shift_ok]
        | some ds =>
            rw [checkChildren, checkChildren]
            exact checkNodes_shift (ihChildren ds rfl) fun k => rfl
      · rw [checkOptionalItems_shift count fun ds _ d _ => checkItem_shift count d,
          Attributes.field_shift, shift_map]

/-! ### The defects of all declarations -/

theorem defects_checkNodes_append (place : Nat → Address) (index : Nat)
    (front back : List Declaration) :
    (checkNodes catalog place index (front ++ back)).defects =
      (checkNodes catalog place index front).defects ++
        (checkNodes catalog place (index + front.length) back).defects := by
  induction front generalizing index with
  | nil => simp [checkNodes]
  | cons d front ih =>
      rw [List.cons_append, checkNodes, checkNodes, defects_cons, defects_cons, ih,
        List.append_assoc, List.length_cons, Nat.add_right_comm, Nat.add_assoc]

/-- The defects of declarations by themselves, where these are the root elements of a form. -/
def ownDefects (catalog : Option (List String)) (ds : List Declaration) : List Defect :=
  (checkNodes catalog (fun index => ⟨index, []⟩) 0 ds).defects

theorem defects_checkRoots {ds : List Declaration} (hds : ds ≠ []) :
    (checkRoots catalog ds).defects = ownDefects catalog ds := by
  rw [checkRoots, if_neg (mt List.isEmpty_iff.mp hds), ownDefects]

theorem ownDefects_append (front back : List Declaration) :
    ownDefects catalog (front ++ back) =
      ownDefects catalog front ++ (ownDefects catalog back).map (Defect.shift front.length) := by
  have hback : checkNodes catalog (fun index => ⟨index, []⟩) (0 + front.length) back =
      (checkNodes catalog (fun index => ⟨index, []⟩) 0 back).shift front.length := by
    refine checkNodes_shift (fun d _ => checkNode_shift front.length d) fun k => ?_
    rw [Address.shift, Nat.zero_add, Nat.zero_add, Nat.add_comm]
  rw [ownDefects, ownDefects, ownDefects, defects_checkNodes_append, hback, defects_shift]

end Declaration

end FormLogic
