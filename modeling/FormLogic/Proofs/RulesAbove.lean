import FormLogic.Proofs.Tree.Acceptance
import FormLogic.Proofs.Visibility

/-!
# Rules on the way to a field

A field is visible exactly if its own rule and the rules of all containers around it hold.  Since
the names of an accepted form differ, no field overwrites the entry of another one.
-/

namespace FormLogic

namespace Node

/-- The element lies among some elements, below containers with the given rules, from the outermost
container to the innermost. -/
inductive LiesBelow (node : Node) : List (Option Json) → List Node → Prop where
  | here {nodes : List Node} (h : node ∈ nodes) : LiesBelow node [] nodes
  | inside {nodes children : List Node} {variant : Option String} {visible : Option Json}
      {metadata : Option (Dictionary Json)} {above : List (Option Json)}
      (hcontainer : .container variant visible metadata children ∈ nodes)
      (h : LiesBelow node above children) : LiesBelow node (visible :: above) nodes

/-- What lies below a container lies below the containers around that one, too. -/
theorem LiesBelow.trans {node : Node} {nodes children : List Node} {variant : Option String}
    {visible : Option Json} {metadata : Option (Dictionary Json)} {above inner : List (Option Json)}
    (hcontainer : (Node.container variant visible metadata children).LiesBelow above nodes)
    (h : node.LiesBelow inner children) : node.LiesBelow (above ++ visible :: inner) nodes := by
  induction hcontainer with
  | here hmem => exact .inside hmem h
  | inside hmem _ ih => exact .inside hmem ih

theorem LiesBelow.mono {node : Node} {nodes nodes' : List Node} {above : List (Option Json)}
    (h : node.LiesBelow above nodes) (hsubset : nodes ⊆ nodes') : node.LiesBelow above nodes' := by
  cases h with
  | here hmem => exact .here (hsubset hmem)
  | inside hmem hchildren => exact .inside (hsubset hmem) hchildren

/-- The fields are listed with the rules of the containers that they lie below. -/
theorem liesBelow_of_mem_placedAll {nodes : List Node} {f : Field} {above : List (Option Json)}
    (h : ∀ n ∈ nodes, ∀ above, (f, above) ∈ n.placed → (Node.field f).LiesBelow above [n])
    (hmem : (f, above) ∈ placedAll nodes) : (Node.field f).LiesBelow above nodes := by
  induction nodes with
  | nil =>
      rw [placedAll] at hmem
      cases hmem
  | cons n nodes ih =>
      rw [List.forall_mem_cons] at h
      rw [placedAll, List.mem_append] at hmem
      rcases hmem with hmem | hmem
      · exact (h.1 above hmem).mono (by simp)
      · exact (ih h.2 hmem).mono (List.subset_cons_self n nodes)

theorem liesBelow_of_mem_placed {f : Field} (n : Node) : ∀ above, (f, above) ∈ n.placed →
    (Node.field f).LiesBelow above [n] := by
  induction n using Node.induction with
  | field g =>
      intro above hmem
      rw [placed, List.mem_singleton] at hmem
      obtain ⟨rfl, rfl⟩ := Prod.mk.inj hmem
      exact .here (List.mem_singleton_self _)
  | container variant visible metadata children ih =>
      intro above hmem
      rw [placed] at hmem
      obtain ⟨⟨g, inner⟩, hinner, heq⟩ := List.mem_map.mp hmem
      obtain ⟨rfl, rfl⟩ := Prod.mk.inj heq
      exact .inside (List.mem_singleton_self _) (liesBelow_of_mem_placedAll ih hinner)

theorem mem_placedAll_of_mem {nodes : List Node} {n : Node} (hn : n ∈ nodes)
    {entry : Field × List (Option Json)} (h : entry ∈ n.placed) : entry ∈ placedAll nodes := by
  induction nodes with
  | nil => cases hn
  | cons first nodes ih =>
      rw [placedAll, List.mem_append]
      rcases List.mem_cons.mp hn with rfl | hn
      · exact Or.inl h
      · exact Or.inr (ih hn)

theorem mem_placedAll_of_liesBelow {nodes : List Node} {f : Field} {above : List (Option Json)}
    (h : (Node.field f).LiesBelow above nodes) : (f, above) ∈ placedAll nodes := by
  induction h with
  | here hmem =>
      apply mem_placedAll_of_mem hmem
      rw [placed]
      exact List.mem_singleton_self _
  | inside hmem _ ih =>
      apply mem_placedAll_of_mem hmem
      rw [placed]
      exact List.mem_map.mpr ⟨_, ih, rfl⟩

theorem mem_placedAll_iff {nodes : List Node} {f : Field} {above : List (Option Json)} :
    (f, above) ∈ placedAll nodes ↔ (Node.field f).LiesBelow above nodes :=
  ⟨liesBelow_of_mem_placedAll fun n _ => liesBelow_of_mem_placed n, mem_placedAll_of_liesBelow⟩

/-- The fields are those that lie below containers of some rules. -/
theorem mem_fieldsOfAll_iff {nodes : List Node} {f : Field} :
    f ∈ fieldsOfAll nodes ↔ ∃ above, (Node.field f).LiesBelow above nodes := by
  rw [← map_placedAll fun n _ => map_placed n, List.mem_map]
  constructor
  · rintro ⟨⟨g, above⟩, hmem, rfl⟩
    exact ⟨above, mem_placedAll_iff.mp hmem⟩
  · rintro ⟨above, h⟩
    exact ⟨(f, above), mem_placedAll_iff.mpr h, rfl⟩

end Node

namespace Visibility

variable {operations : Rule.Operations} {data : Json}

theorem permits_eq_true_iff {visible : Option Json} :
    permits operations data visible = true ↔
      ∀ rule ∈ visible, Rule.holds operations data rule = true := by
  cases visible <;> simp [permits]

variable {t : Tree} (h : t.Accepted) {f : Field} {above : List (Option Json)}

include h

/-- What is entered for a field of an accepted form is not overwritten. -/
theorem lookup_ofTree_of_liesBelow (hf : (Node.field f).LiesBelow above t.roots) :
    Dictionary.lookup f.name (ofTree operations t data) =
      some (above.all (permits operations data) && permits operations data f.info.visible) := by
  have hnodup : (((Node.placedAll t.roots).map (entry operations data true)).map (·.1)).Nodup :=
    map_entry_placedAll t ▸ h.names_nodup
  rw [ofTree_eq_ofList, Dictionary.lookup_ofList_eq_some_iff hnodup]
  exact List.mem_map.mpr ⟨(f, above), Node.mem_placedAll_iff.mpr hf, rfl⟩

theorem lookup_ofTree_eq_true_iff (hf : (Node.field f).LiesBelow above t.roots) :
    Dictionary.lookup f.name (ofTree operations t data) = some true ↔
      ∀ visible ∈ f.info.visible :: above, ∀ rule ∈ visible,
        Rule.holds operations data rule = true := by
  rw [lookup_ofTree_of_liesBelow h hf, Option.some.injEq, Bool.and_eq_true, List.all_eq_true,
    List.forall_mem_cons, and_comm]
  simp only [permits_eq_true_iff]

theorem lookup_ofTree_eq_false_iff (hf : (Node.field f).LiesBelow above t.roots) :
    Dictionary.lookup f.name (ofTree operations t data) = some false ↔
      ∃ rule, some rule ∈ f.info.visible :: above ∧ Rule.holds operations data rule = false := by
  have hvisible : Dictionary.lookup f.name (ofTree operations t data) = some true ↔ _ :=
    lookup_ofTree_eq_true_iff h hf
  rw [lookup_ofTree_of_liesBelow h hf] at hvisible ⊢
  rw [Option.some.injEq, ← Bool.not_eq_true, ← Option.some.injEq, hvisible]
  constructor
  · intro hnot
    push Not at hnot
    obtain ⟨visible, hmem, rule, rfl, hrule⟩ := hnot
    exact ⟨rule, hmem, by simpa using hrule⟩
  · rintro ⟨rule, hmem, hrule⟩ hall
    rw [hall _ hmem rule rfl] at hrule
    cases hrule

/-- The visibility of an accepted form has one entry for each field.  A field is visible exactly if
its own rule and the rules of all containers around it hold, where they have one.  So all fields in
a container whose rule fails are hidden, at any depth, and each hidden field has a rule that fails,
its own or one around it. -/
theorem visible_iff_rules_hold (operations : Rule.Operations) (data : Json) :
    ((ofTree operations t data).keys.Perm (t.fields.map Field.name)) ∧
      (∀ f, f ∈ t.fields ↔ ∃ above, (Node.field f).LiesBelow above t.roots) ∧
      (∀ f above, (Node.field f).LiesBelow above t.roots →
        (Dictionary.lookup f.name (ofTree operations t data) = some true ↔
          ∀ visible ∈ f.info.visible :: above, ∀ rule ∈ visible,
            Rule.holds operations data rule = true) ∧
        (Dictionary.lookup f.name (ofTree operations t data) = some false ↔
          ∃ rule, some rule ∈ f.info.visible :: above ∧
            Rule.holds operations data rule = false)) ∧
      ∀ variant rule metadata children above,
        (Node.container variant (some rule) metadata children).LiesBelow above t.roots →
          Rule.holds operations data rule = false →
            ∀ f ∈ Node.fieldsOfAll children,
              Dictionary.lookup f.name (ofTree operations t data) = some false := by
  refine ⟨?_, fun f => Node.mem_fieldsOfAll_iff, ?_, ?_⟩
  · rw [List.perm_ext_iff_of_nodup (ascending_ofTree t).nodup_keys h.names_nodup]
    intro name
    rw [mem_keys_ofTree, List.mem_map]
  · intro f above hf
    exact ⟨lookup_ofTree_eq_true_iff h hf, lookup_ofTree_eq_false_iff h hf⟩
  · intro variant rule metadata children above hcontainer hrule f hf
    obtain ⟨inner, hinner⟩ := Node.mem_fieldsOfAll_iff.mp hf
    rw [lookup_ofTree_eq_false_iff h (hcontainer.trans hinner)]
    exact ⟨rule, by simp, hrule⟩

end Visibility

/-! ### A hidden container -/

namespace Drawer

/-- A text that is always visible by its own rule, in a container without a rule, in one that is
never visible. -/
def declarations : List Declaration :=
  [.element { kind := some "container", visible := some (.bool false) } none
    (some
      [.element { kind := some "container" } none
        (some
          [.element { kind := some "text", name := some "note", visible := some (.bool true) }
            none none])])]

def note : Field :=
  .single { Jobs.plainInfo "text" "note" with visible := some (.bool true) } .generic

def inner : Node := .container none none none [.field note]

def tree : Tree := ⟨[.container none (some (.bool false)) none [inner]]⟩

theorem accepted_tree : tree.Accepted := ⟨none, declarations, rfl⟩

/-- The outer container hides the text, whatever its own rule says. -/
theorem note_is_hidden :
    Dictionary.lookup "note" (Visibility.ofTree Rule.defaultOperations tree .null) =
      some false := by
  have hcontainer : (Node.container none (some (.bool false)) none [inner]).LiesBelow []
      tree.roots := .here (List.mem_singleton_self _)
  have hnote : note ∈ Node.fieldsOfAll [inner] := List.mem_singleton_self _
  have hvisible := Visibility.visible_iff_rules_hold accepted_tree Rule.defaultOperations .null
  exact hvisible.2.2.2 none _ none [inner] [] hcontainer rfl note hnote

end Drawer

end FormLogic
