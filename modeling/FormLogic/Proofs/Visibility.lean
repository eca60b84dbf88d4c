import FormLogic.Proofs.Path.Parts
import FormLogic.Proofs.Dictionary
import FormLogic.Visibility

/-!
# Owners of paths

A path shares the visibility of the closest field at or above it.  Where only one field of the state
lies at or above a path, this is the field that decides.  The state of a form is made of one entry
for each field.
-/

namespace FormLogic

/-- A statement on elements holds of all of them once it holds of fields and passes from the
elements in a container to the container. -/
theorem Node.induction {motive : Node → Prop} (field : ∀ f, motive (.field f))
    (container : ∀ variant visible metadata children, (∀ n ∈ children, motive n) →
      motive (.container variant visible metadata children)) (n : Node) : motive n := by
  refine @Node.rec motive (fun nodes => ∀ n ∈ nodes, motive n) field container ?_ ?_ n
  · intro n hn
    cases hn
  · intro n nodes hn hnodes other hmem
    rcases List.mem_cons.mp hmem with rfl | hmem
    · exact hn
    · exact hnodes other hmem

namespace Visibility

/-! ### The paths above a path -/

theorem mem_beforeDots {cs backwards : List Char} :
    cs ∈ beforeDots backwards ↔ ∃ rest, backwards = rest ++ '.' :: cs := by
  induction backwards with
  | nil => simp [beforeDots]
  | cons c backwards ih =>
      have hcons : (∃ rest, c :: backwards = rest ++ '.' :: cs) ↔
          (c = '.' ∧ backwards = cs) ∨ ∃ rest, backwards = rest ++ '.' :: cs := by
        constructor
        · rintro ⟨rest, h⟩
          cases rest with
          | nil => exact Or.inl (List.cons.inj h)
          | cons d rest => exact Or.inr ⟨rest, (List.cons.inj h).2⟩
        · rintro (⟨rfl, rfl⟩ | ⟨rest, rfl⟩)
          · exact ⟨[], rfl⟩
          · exact ⟨c :: rest, rfl⟩
      rw [hcons, beforeDots]
      by_cases hc : c = '.'
      · rw [if_pos hc, List.mem_cons, ih]
        simp [hc, eq_comm]
      · rw [if_neg hc, ih]
        simp [hc]

/-- The owners of a path are the path itself and what it lies below. -/
theorem mem_owners {owner path : String} :
    owner ∈ owners path ↔ path = owner ∨ Path.Below path owner := by
  simp only [owners, List.map_cons, List.reverse_reverse, String.ofList_toList, List.mem_cons,
    List.mem_map, mem_beforeDots]
  refine or_congr eq_comm ⟨?_, ?_⟩
  · rintro ⟨cs, ⟨rest, hrest⟩, rfl⟩
    refine ⟨String.ofList rest.reverse, String.toList_injective ?_⟩
    rw [← List.reverse_reverse path.toList, hrest]
    simp
  · rintro ⟨rest, rfl⟩
    exact ⟨owner.toList.reverse, ⟨rest.toList.reverse, by simp⟩, by simp⟩

/-! ### The way of a path -/

theorem beforeDots_append_dot {cs : List Char} (h : '.' ∉ cs) (rest : List Char) :
    beforeDots (cs ++ '.' :: rest) = rest :: beforeDots rest := by
  induction cs with
  | nil => rfl
  | cons c cs ih =>
      rw [List.mem_cons, not_or] at h
      rw [List.cons_append, beforeDots, if_neg (Ne.symm h.1), ih h.2]

theorem length_beforeDots (cs : List Char) : (beforeDots cs).length = cs.count '.' := by
  induction cs with
  | nil => rfl
  | cons c cs ih =>
      rw [beforeDots]
      by_cases hc : c = '.'
      · rw [if_pos hc, List.length_cons, ih, hc, List.count_cons_self]
      · rw [if_neg hc, ih, List.count_cons_of_ne hc]

/-- There is one look-up more than the path has dots. -/
theorem length_owners (path : String) : (owners path).length = path.toList.count '.' + 1 := by
  rw [owners, List.length_map, List.length_cons, length_beforeDots, List.count_reverse]

theorem owners_of_dot_not_mem {path : String} (h : '.' ∉ path.toList) : owners path = [path] := by
  have hnone : beforeDots path.toList.reverse = [] := by
    rw [← List.length_eq_zero_iff, length_beforeDots, List.count_reverse, List.count_eq_zero]
    exact h
  rw [owners, hnone]
  simp

theorem owners_append_dot (parent : String) {last : String} (h : '.' ∉ last.toList) :
    owners (parent ++ "." ++ last) = (parent ++ "." ++ last) :: owners parent := by
  have hback : (parent ++ "." ++ last).toList.reverse =
      last.toList.reverse ++ '.' :: parent.toList.reverse := by
    simp
  have hlast : '.' ∉ last.toList.reverse := by
    rwa [List.mem_reverse]
  rw [owners, owners, hback, beforeDots_append_dot hlast, List.map_cons, ← hback,
    List.reverse_reverse, String.ofList_toList]

variable {state : Visibility} {path owner : String}

theorem showsPath_of_dot_not_mem (h : '.' ∉ path.toList) :
    state.showsPath path = (Dictionary.lookup path state).getD true := by
  rw [showsPath, owners_of_dot_not_mem h, List.findSome?_singleton]

/-- A path without an entry of its own is as visible as what stands before its last dot. -/
theorem showsPath_append_dot (parent : String) {last : String} (h : '.' ∉ last.toList) :
    state.showsPath (parent ++ "." ++ last) =
      (Dictionary.lookup (parent ++ "." ++ last) state).getD (state.showsPath parent) := by
  rw [showsPath, owners_append_dot parent h, List.findSome?_cons]
  cases Dictionary.lookup (parent ++ "." ++ last) state <;> rfl

/-! ### Closest owners -/

/-- The owner is the longest name of the state that is the path, or the path up to one of its dots.
-/
structure IsClosestOwner (state : Visibility) (path owner : String) : Prop where
  entered : owner ∈ Dictionary.keys state
  owns : path = owner ∨ Path.Below path owner
  longest : ∀ other ∈ Dictionary.keys state, (path = other ∨ Path.Below path other) →
    other.length ≤ owner.length

theorem isClosestOwner_self (h : path ∈ Dictionary.keys state) :
    IsClosestOwner state path path := by
  refine ⟨h, Or.inl rfl, ?_⟩
  rintro other - (rfl | hbelow)
  · exact Nat.le_refl _
  · exact Nat.le_of_lt (Path.length_lt_of_below hbelow)

/-- A path that has no entry shares its owners with what stands before its last dot. -/
theorem owns_append_dot_iff {parent last other : String} (hlast : '.' ∉ last.toList)
    (hpath : parent ++ "." ++ last ∉ Dictionary.keys state)
    (hother : other ∈ Dictionary.keys state) :
    (parent ++ "." ++ last = other ∨ Path.Below (parent ++ "." ++ last) other) ↔
      (parent = other ∨ Path.Below parent other) := by
  have hne : other ≠ parent ++ "." ++ last := by
    rintro rfl
    exact hpath hother
  rw [← mem_owners, owners_append_dot parent hlast, List.mem_cons, or_iff_right hne, mem_owners]

/-- Two closest owners are the same. -/
theorem IsClosestOwner.unique {other : String} (h : IsClosestOwner state path owner)
    (hother : IsClosestOwner state path other) : owner = other := by
  have hlength : owner.length = other.length :=
    Nat.le_antisymm (hother.longest owner h.entered h.owns)
      (h.longest other hother.entered hother.owns)
  -- Of two names on the way of one path, one lies at or below the other.
  rcases List.prefix_or_prefix_of_prefix (Path.parts_prefix_iff.mpr h.owns)
    (Path.parts_prefix_iff.mpr hother.owns) with hpre | hpre
  · rcases Path.parts_prefix_iff.mp hpre with heq | hbelow
    · exact heq.symm
    · exact absurd hlength (Nat.ne_of_lt (Path.length_lt_of_below hbelow))
  · rcases Path.parts_prefix_iff.mp hpre with heq | hbelow
    · exact heq
    · exact absurd hlength.symm (Nat.ne_of_lt (Path.length_lt_of_below hbelow))

/-- Either the closest owner decides, or the path has no owner and is visible. -/
theorem decided_or_visible (state : Visibility) (path : String) :
    (∃ owner, IsClosestOwner state path owner ∧
        Dictionary.lookup owner state = some (state.showsPath path)) ∨
      (∀ owner ∈ Dictionary.keys state, ¬ (path = owner ∨ Path.Below path owner)) ∧
        state.showsPath path = true := by
  induction path using Path.induction_last_dot with
  | dotless path hdot =>
      rw [showsPath_of_dot_not_mem hdot]
      cases hlookup : Dictionary.lookup path state with
      | some shown =>
          have hkey : path ∈ Dictionary.keys state :=
            Dictionary.exists_lookup_eq_some_iff.mp ⟨shown, hlookup⟩
          exact Or.inl ⟨path, isClosestOwner_self hkey, hlookup⟩
      | none =>
          refine Or.inr ⟨?_, rfl⟩
          intro owner howner howns
          rw [← mem_owners, owners_of_dot_not_mem hdot, List.mem_singleton] at howns
          exact Dictionary.lookup_eq_none_iff.mp hlookup (howns ▸ howner)
  | below parent last hlast ih =>
      rw [showsPath_append_dot parent hlast]
      cases hlookup : Dictionary.lookup (parent ++ "." ++ last) state with
      | some shown =>
          have hkey : parent ++ "." ++ last ∈ Dictionary.keys state :=
            Dictionary.exists_lookup_eq_some_iff.mp ⟨shown, hlookup⟩
          exact Or.inl ⟨_, isClosestOwner_self hkey, hlookup⟩
      | none =>
          -- The path is passed over, and the way goes on before its last dot.
          have hpath := Dictionary.lookup_eq_none_iff.mp hlookup
          rw [Option.getD_none]
          rcases ih with ⟨owner, hclosest, hshown⟩ | ⟨hnone, hshown⟩
          · refine Or.inl ⟨owner, ⟨hclosest.entered, ?_, ?_⟩, hshown⟩
            · exact (owns_append_dot_iff hlast hpath hclosest.entered).mpr hclosest.owns
            · intro other hother howns
              exact hclosest.longest other hother
                ((owns_append_dot_iff hlast hpath hother).mp howns)
          · refine Or.inr ⟨?_, hshown⟩
            intro owner howner howns
            exact hnone owner howner ((owns_append_dot_iff hlast hpath howner).mp howns)

/-- Where a single entry of the state lies at or above a path, it decides. -/
theorem showsPath_of_unique_owner {name : String} {shown : Bool}
    (hlookup : Dictionary.lookup name state = some shown)
    (howner : path = name ∨ Path.Below path name)
    (hunique : ∀ owner, (path = owner ∨ Path.Below path owner) → owner ∈ Dictionary.keys state →
      owner = name) :
    state.showsPath path = shown := by
  rcases decided_or_visible state path with ⟨owner, hclosest, hshown⟩ | ⟨hnone, -⟩
  · rw [hunique owner hclosest.owns hclosest.entered, hlookup] at hshown
    exact (Option.some.inj hshown).symm
  · exact absurd howner
      (hnone name (Dictionary.exists_lookup_eq_some_iff.mp ⟨shown, hlookup⟩))

end Visibility

/-! ### The fields that are entered -/

namespace Node

mutual

/-- The fields of an element from top to bottom, each with the rules of the containers around it. -/
def placed : Node → List (Field × List (Option Json))
  | field f => [(f, [])]
  | container _ visible _ children =>
      (placedAll children).map fun entry => (entry.1, visible :: entry.2)

def placedAll : List Node → List (Field × List (Option Json))
  | [] => []
  | node :: nodes => node.placed ++ placedAll nodes

end

theorem map_placedAll {nodes : List Node}
    (h : ∀ n ∈ nodes, n.placed.map (·.1) = n.fields) :
    (placedAll nodes).map (·.1) = fieldsOfAll nodes := by
  induction nodes with
  | nil => rw [placedAll, fieldsOfAll, List.map_nil]
  | cons n nodes ih =>
      rw [List.forall_mem_cons] at h
      rw [placedAll, fieldsOfAll, List.map_append, h.1, ih h.2]

theorem map_placed (n : Node) : n.placed.map (·.1) = n.fields := by
  induction n using Node.induction with
  | field f => rw [placed, fields, List.map_singleton]
  | container variant visible metadata children ih =>
      rw [placed, fields, List.map_map]
      exact map_placedAll ih

end Node

namespace Visibility

variable (operations : Rule.Operations) (data : Json)

/-- What is entered for a field below containers of some rules. -/
def entry (shown : Bool) (place : Field × List (Option Json)) : String × Bool :=
  (place.1.name, shown && (place.2.all (permits operations data) &&
    permits operations data place.1.info.visible))

variable {operations data}

/-- Entering elements writes the entries of their fields one after the other. -/
theorem enterAll_eq_foldl {nodes : List Node}
    (h : ∀ n ∈ nodes, ∀ shown state, enter operations data shown state n =
      (n.placed.map (entry operations data shown)).foldl
        (fun state entry => Dictionary.insert entry.1 entry.2 state) state)
    (shown : Bool) (state : Visibility) :
    enterAll operations data shown state nodes =
      ((Node.placedAll nodes).map (entry operations data shown)).foldl
        (fun state entry => Dictionary.insert entry.1 entry.2 state) state := by
  induction nodes generalizing state with
  | nil => rw [enterAll, Node.placedAll, List.map_nil, List.foldl_nil]
  | cons n nodes ih =>
      rw [List.forall_mem_cons] at h
      rw [enterAll, Node.placedAll, List.map_append, List.foldl_append, ih h.2, h.1]

theorem enter_eq_foldl (n : Node) : ∀ shown state, enter operations data shown state n =
    (n.placed.map (entry operations data shown)).foldl
      (fun state entry => Dictionary.insert entry.1 entry.2 state) state := by
  induction n using Node.induction with
  | field f =>
      intro shown state
      simp [enter, Node.placed, entry]
  | container variant visible metadata children ih =>
      intro shown state
      have hentry : ∀ place : Field × List (Option Json),
          entry operations data shown (place.1, visible :: place.2) =
            entry operations data (shown && permits operations data visible) place := by
        intro place
        simp [entry, Bool.and_assoc]
      rw [enter, Node.placed, List.map_map, enterAll_eq_foldl ih]
      simp only [Function.comp_def, hentry]

/-- The visibility is made of one entry for each field. -/
theorem ofTree_eq_ofList (t : Tree) :
    ofTree operations t data =
      Dictionary.ofList ((Node.placedAll t.roots).map (entry operations data true)) :=
  enterAll_eq_foldl (fun n _ => enter_eq_foldl n) true []

theorem ascending_ofTree (t : Tree) : Dictionary.Ascending (ofTree operations t data) := by
  rw [ofTree_eq_ofList]
  exact Dictionary.ascending_ofList _

/-- The entries have the names of the fields, in their order. -/
theorem map_entry_placedAll (t : Tree) :
    ((Node.placedAll t.roots).map (entry operations data true)).map (·.1) =
      t.fields.map Field.name := by
  rw [Tree.fields, ← Node.map_placedAll fun n _ => Node.map_placed n, List.map_map, List.map_map]
  rfl

/-- The names in the state are those of the fields. -/
theorem mem_keys_ofTree {name : String} {t : Tree} :
    name ∈ Dictionary.keys (ofTree operations t data) ↔ ∃ f ∈ t.fields, f.name = name := by
  rw [ofTree_eq_ofList, Dictionary.mem_keys_ofList, map_entry_placedAll, List.mem_map]

end Visibility

end FormLogic
