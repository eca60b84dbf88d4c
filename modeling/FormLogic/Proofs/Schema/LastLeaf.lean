import FormLogic.Proofs.Schema.Insertion

/-!
# The last leaf under a name

Leaves are put into a schema under one name after the other.  What is found under a name in the end
is the leaf that was put there last, unless a leaf was put above or below the name afterwards: one
above it takes its place, and one below it turns it into an object.  Nothing else is found, however
often what was displaced is put there anew.
-/

namespace FormLogic.Schema

open FormLogic.Path

/-- The properties with leaves put under names one after the other. -/
def insertEach (entries : List (String × Leaf)) (properties : Properties) : Properties :=
  entries.foldl (fun properties entry => insert entry.1 entry.2 properties) properties

@[simp] theorem insertEach_nil (properties : Properties) : insertEach [] properties = properties :=
  rfl

theorem insertEach_cons (entry : String × Leaf) (entries : List (String × Leaf))
    (properties : Properties) :
    insertEach (entry :: entries) properties =
      insertEach entries (insert entry.1 entry.2 properties) := rfl

theorem insertEach_append (front back : List (String × Leaf)) (properties : Properties) :
    insertEach (front ++ back) properties = insertEach back (insertEach front properties) :=
  List.foldl_append ..

/-- The leaves of fields are put under their names. -/
theorem insertAll_eq_insertEach (fields : List Field) (properties : Properties) :
    insertAll fields properties =
      insertEach (fields.map fun f => (f.name, leafOf f)) properties := by
  induction fields generalizing properties with
  | nil => rw [insertAll, List.map_nil, insertEach_nil]
  | cons f fields ih => rw [insertAll, List.map_cons, insertEach_cons, ih]

/-- One more leaf is found under its own name, and takes away those above and below it. -/
theorem leaf?_insert_eq_some_iff {name other : String} {leaf l : Leaf} {properties : Properties} :
    leaf? other (insert name leaf properties) = some l ↔
      other = name ∧ l = leaf ∨ Apart other name ∧ leaf? other properties = some l := by
  have hname : parts other = parts name ↔ other = name := ⟨parts_injective, congrArg parts⟩
  rw [leaf?, leafAt_eq_some_iff, insert, descend_insertAt_eq_leaf_iff (parts_ne_nil name), hname,
    apart_iff_parts, and_assoc, leaf?, leafAt_eq_some_iff]

/-- The leaf is put under the name, and all that are put later lie apart from it. -/
def Outlasts (entries : List (String × Leaf)) (name : String) (leaf : Leaf) : Prop :=
  ∃ front back, entries = front ++ (name, leaf) :: back ∧ ∀ later ∈ back, Apart name later.1

theorem outlasts_cons_iff {entry : String × Leaf} {entries : List (String × Leaf)} {name : String}
    {leaf : Leaf} :
    Outlasts (entry :: entries) name leaf ↔
      Outlasts entries name leaf ∨
        entry = (name, leaf) ∧ ∀ later ∈ entries, Apart name later.1 := by
  constructor
  · rintro ⟨front, back, hentries, hback⟩
    cases front with
    | nil =>
        obtain ⟨rfl, rfl⟩ := List.cons.inj hentries
        exact Or.inr ⟨rfl, hback⟩
    | cons first front => exact Or.inl ⟨front, back, (List.cons.inj hentries).2, hback⟩
  · rintro (⟨front, back, rfl, hback⟩ | ⟨rfl, hlater⟩)
    · exact ⟨entry :: front, back, rfl, hback⟩
    · exact ⟨[], entries, rfl, hlater⟩

theorem Outlasts.mem {entries : List (String × Leaf)} {name : String} {leaf : Leaf}
    (h : Outlasts entries name leaf) : (name, leaf) ∈ entries := by
  obtain ⟨front, back, rfl, -⟩ := h
  exact List.mem_append_right _ (List.mem_cons_self ..)

/-- A leaf is found after others have been put if it was put among them and outlasts them, or if it
was found before and all of them lie apart from it. -/
theorem leaf?_insertEach_eq_some_iff {entries : List (String × Leaf)} {name : String} {leaf : Leaf}
    {properties : Properties} :
    leaf? name (insertEach entries properties) = some leaf ↔
      Outlasts entries name leaf ∨
        (∀ entry ∈ entries, Apart name entry.1) ∧ leaf? name properties = some leaf := by
  induction entries generalizing properties with
  | nil => simp [Outlasts]
  | cons entry entries ih =>
      rw [insertEach_cons, ih, leaf?_insert_eq_some_iff, outlasts_cons_iff, List.forall_mem_cons,
        Prod.ext_iff, eq_comm (a := entry.1), eq_comm (a := entry.2)]
      tauto

theorem leaf?_nil (name : String) : leaf? name [] = none := by
  obtain ⟨key, rest, hparts⟩ := List.exists_cons_of_ne_nil (parts_ne_nil name)
  rw [leaf?, hparts]
  cases rest <;> rfl

theorem leaf?_insertEach_nil_eq_some_iff {entries : List (String × Leaf)} {name : String}
    {leaf : Leaf} :
    leaf? name (insertEach entries []) = some leaf ↔ Outlasts entries name leaf := by
  rw [leaf?_insertEach_eq_some_iff, leaf?_nil]
  simp

/-- What is put under some name is put there a last time. -/
theorem exists_last_entry {entries : List (String × Leaf)} {name : String}
    (h : ∃ entry ∈ entries, entry.1 = name) :
    ∃ front leaf back, entries = front ++ (name, leaf) :: back ∧
      ∀ later ∈ back, later.1 ≠ name := by
  induction entries with
  | nil => simp at h
  | cons entry entries ih =>
      by_cases hlater : ∃ later ∈ entries, later.1 = name
      · obtain ⟨front, leaf, back, rfl, hback⟩ := ih hlater
        exact ⟨entry :: front, leaf, back, rfl, hback⟩
      · obtain ⟨other, hother, rfl⟩ := h
        simp only [not_exists, not_and] at hlater
        rcases List.mem_cons.mp hother with rfl | hmem
        · exact ⟨[], other.2, entries, rfl, hlater⟩
        · exact absurd rfl (hlater other hmem)

/-- The leaf that is put under a name a last time outlasts the others, or is displaced by a later
one above or below it. -/
theorem outlasts_or_displaced (front : List (String × Leaf)) {back : List (String × Leaf)}
    {name : String} (leaf : Leaf) (hback : ∀ later ∈ back, later.1 ≠ name) :
    Outlasts (front ++ (name, leaf) :: back) name leaf ∨
      ∃ later ∈ back, Below later.1 name ∨ Below name later.1 := by
  rw [or_iff_not_imp_right]
  intro hapart
  simp only [not_exists, not_and, not_or] at hapart
  refine ⟨front, back, rfl, ?_⟩
  intro later hlater
  exact ⟨(hback later hlater).symm, (hapart later hlater).2, (hapart later hlater).1⟩

/-- Once the last leaf under a name has been displaced, none is found there. -/
theorem not_outlasts_of_displaced {front back : List (String × Leaf)} {name : String}
    {leaf l : Leaf} (hback : ∀ later ∈ back, later.1 ≠ name)
    (hdisplaced : ∃ later ∈ back, Below later.1 name ∨ Below name later.1) :
    ¬ Outlasts (front ++ (name, leaf) :: back) name l := by
  rw [← leaf?_insertEach_nil_eq_some_iff, insertEach_append, insertEach_cons,
    leaf?_insertEach_eq_some_iff]
  rintro (houtlasts | ⟨hapart, -⟩)
  · exact hback _ houtlasts.mem rfl
  · obtain ⟨later, hlater, hbelow⟩ := hdisplaced
    exact hbelow.elim (hapart later hlater).2.2 (hapart later hlater).2.1

/-- Of the leaves that are put into an empty schema, the one that was put last under a name is found
there if the names of all later ones lie apart from it; if some later name lies below this one or
above it, or if nothing was put under it, nothing is found. -/
theorem last_leaf_is_found_iff (entries : List (String × Leaf)) (name : String) :
    (∀ leaf, leaf? name (insertEach entries []) = some leaf ↔
        ∃ front back, entries = front ++ (name, leaf) :: back ∧
          ∀ later ∈ back, later.1 ≠ name ∧ ¬ Below later.1 name ∧ ¬ Below name later.1) ∧
      (leaf? name (insertEach entries []) = none ↔
        (∀ entry ∈ entries, entry.1 ≠ name) ∨
          ∃ front leaf back, entries = front ++ (name, leaf) :: back ∧
            (∀ later ∈ back, later.1 ≠ name) ∧
            ∃ later ∈ back, Below later.1 name ∨ Below name later.1) := by
  refine ⟨?_, ?_, ?_⟩
  · intro leaf
    rw [leaf?_insertEach_nil_eq_some_iff, Outlasts]
    simp only [Apart, ne_comm (a := name), and_comm (a := ¬ Below name _)]
  · intro hnone
    rw [or_iff_not_imp_left]
    intro hname
    obtain ⟨front, leaf, back, rfl, hback⟩ := exists_last_entry (by simpa using hname)
    refine ⟨front, leaf, back, rfl, hback, ?_⟩
    rcases outlasts_or_displaced front leaf hback with houtlasts | hdisplaced
    · rw [leaf?_insertEach_nil_eq_some_iff.mpr houtlasts] at hnone
      cases hnone
    · exact hdisplaced
  · intro h
    rw [Option.eq_none_iff_forall_ne_some]
    intro leaf hleaf
    have houtlasts := leaf?_insertEach_nil_eq_some_iff.mp hleaf
    rcases h with hname | ⟨front, last, back, rfl, hback, hdisplaced⟩
    · exact hname _ houtlasts.mem rfl
    · exact not_outlasts_of_displaced hback hdisplaced houtlasts

/-- A leaf that was put into the value of another name comes back, and those beside it do not. -/
example (city zip note : Leaf) :
    let properties :=
      insertEach [("at.city", city), ("at.zip", zip), ("at", note), ("at.zip", zip)] []
    leaf? "at.city" properties = none ∧ leaf? "at" properties = none ∧
      leaf? "at.zip" properties = some zip :=
  by cbv

end FormLogic.Schema
