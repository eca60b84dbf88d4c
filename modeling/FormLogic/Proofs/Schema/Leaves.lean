import FormLogic.Proofs.Schema.Findings

/-!
# What is found at a leaf

A leaf objects to a value as a whole, or it is that of a repeating field and each item is checked on
its own.  An item that is an object is checked as the form itself is, with a path and a scope of its
own.
-/

namespace FormLogic.Schema

open FormLogic.Path

variable {operations : Rule.Operations} {scope : Json} {x : Finding} {o : Objection}

/-! ### Objections -/

theorem Rules.code_of_absent {r : Rules} (h : r.absent = some o) : o.code = .required := by
  unfold absent at h
  split at h <;> cases h
  rfl

theorem Rules.code_of_text {r : Rules} {s : String} (h : r.text s = some o) :
    o.code = .minLength ∨ o.code = .maxLength ∨ o.code = .pattern := by
  unfold text at h
  dsimp only at h
  split at h
  · cases h
    exact Or.inl rfl
  split at h
  · cases h
    exact Or.inr (Or.inl rfl)
  split at h
  · split at h <;> cases h
    exact Or.inr (Or.inr rfl)
  · cases h

theorem Rules.code_of_count {r : Rules} {lo hi : Option Nat} {n : Nat}
    (h : r.count lo hi n = some o) :
    o.code = .required ∨ o.code = .minItems ∨ o.code = .maxItems := by
  unfold count at h
  split at h
  · cases h
    exact Or.inl rfl
  split at h
  · cases h
    exact Or.inr (Or.inl rfl)
  split at h
  · cases h
    exact Or.inr (Or.inr rfl)
  · cases h

/-- Where there are items at all, only their number can be at fault. -/
theorem Rules.code_of_count_of_pos {r : Rules} {lo hi : Option Nat} {n : Nat} (hn : 0 < n)
    (h : r.count lo hi n = some o) : o.code = .minItems ∨ o.code = .maxItems := by
  have hsome : ¬ (n = 0 && r.required) := by simp [Nat.ne_of_gt hn]
  rw [count, if_neg hsome] at h
  split at h
  · cases h
    exact Or.inl rfl
  split at h
  · cases h
    exact Or.inr rfl
  · cases h

theorem code_of_notAllowed {allowed : Option (List Json)} {v : Json}
    (h : notAllowed allowed v = some o) : o.code = .invalidOption := by
  unfold notAllowed at h
  split at h <;> cases h
  rfl

theorem code_of_mismatch (h : mismatch = some o) : o.code = .typeMismatch := by
  cases h
  rfl

/-- A base and a value settle what the rules are asked for: whether the value may be missing,
whether a text is in order, or nothing, where only a plain refusal is left. -/
theorem Base.cases_of_value (base : Base) (v : Json) :
    (∀ r : Rules, base.objection r v = r.absent) ∨
      (∃ s, ∀ r : Rules, base.objection r v = r.text s) ∨
        ∃ refusal, (∀ r : Rules, base.objection r v = refusal) ∧
          ∀ o, refusal = some o → o.code = .typeMismatch ∨ o.code = .invalidOption := by
  have hmismatch : ∀ o, mismatch = some o → o.code = .typeMismatch ∨ o.code = .invalidOption :=
    fun o ho => Or.inl (code_of_mismatch ho)
  have hallowed : ∀ allowed w o, notAllowed allowed w = some o →
      o.code = .typeMismatch ∨ o.code = .invalidOption :=
    fun allowed w o ho => Or.inr (code_of_notAllowed ho)
  have hnone : ∀ o : Objection, none = some o →
      o.code = .typeMismatch ∨ o.code = .invalidOption := by
    intro o ho
    cases ho
  -- By the base, and then by the values that its check tells apart.
  cases base with
  | text =>
      cases v with
      | null => exact Or.inl fun _ => rfl
      | text s =>
          by_cases hs : s = ""
          · exact Or.inl fun r => by rw [objection, if_pos hs]
          · exact Or.inr (Or.inl ⟨s, fun r => by rw [objection, if_neg hs]⟩)
      | _ => exact Or.inr (Or.inr ⟨_, fun _ => rfl, hmismatch⟩)
  | number =>
      cases v with
      | null => exact Or.inl fun _ => rfl
      | text s =>
          by_cases hs : s = ""
          · exact Or.inl fun r => by rw [objection, if_pos hs]
          · exact Or.inr (Or.inr ⟨_, fun r => by rw [objection, if_neg hs], hmismatch⟩)
      | number n => exact Or.inr (Or.inr ⟨_, fun _ => rfl, hnone⟩)
      | _ => exact Or.inr (Or.inr ⟨_, fun _ => rfl, hmismatch⟩)
  | boolean =>
      cases v with
      | null => exact Or.inl fun _ => rfl
      | bool b =>
          cases b with
          | false => exact Or.inl fun _ => rfl
          | true => exact Or.inr (Or.inr ⟨_, fun _ => rfl, hnone⟩)
      | _ => exact Or.inr (Or.inr ⟨_, fun _ => rfl, hmismatch⟩)
  | any =>
      cases v with
      | null => exact Or.inl fun _ => rfl
      | text s =>
          by_cases hs : s = ""
          · exact Or.inl fun r => by rw [objection, if_pos hs]
          · exact Or.inr (Or.inl ⟨s, fun r => by rw [objection, if_neg hs]⟩)
      | _ => exact Or.inr (Or.inr ⟨_, fun _ => rfl, hnone⟩)
  | choice allowed multiple =>
      cases multiple with
      | true =>
          cases v with
          | null => exact Or.inl fun _ => rfl
          | array items =>
              cases items with
              | nil => exact Or.inl fun _ => rfl
              | cons item items =>
                  refine Or.inr (Or.inr ⟨if (item :: items).all (isAllowed allowed) then none
                    else some { code := .invalidOption }, fun _ => rfl, ?_⟩)
                  intro o ho
                  split at ho <;> cases ho
                  exact Or.inr rfl
          | _ => exact Or.inr (Or.inr ⟨_, fun _ => rfl, hmismatch⟩)
      | false =>
          cases v with
          | null => exact Or.inl fun _ => rfl
          | text s =>
              by_cases hs : s = ""
              · exact Or.inl fun r => by rw [objection, if_pos hs]
              · exact Or.inr (Or.inr ⟨_, fun r => by rw [objection, if_neg hs], hallowed _ _⟩)
          | bool b => exact Or.inr (Or.inr ⟨_, fun _ => rfl, hallowed _ _⟩)
          | number n => exact Or.inr (Or.inr ⟨_, fun _ => rfl, hallowed _ _⟩)
          | _ => exact Or.inr (Or.inr ⟨_, fun _ => rfl, hmismatch⟩)

/-- An objection to a value is that to a missing value, one to a text, or a plain refusal. -/
theorem Base.cases_of_objection {r : Rules} {base : Base} {v : Json}
    (h : base.objection r v = some o) :
    r.absent = some o ∨ (∃ s, r.text s = some o) ∨ o.code = .typeMismatch ∨
      o.code = .invalidOption := by
  rcases base.cases_of_value v with habsent | ⟨s, htext⟩ | ⟨refusal, hrefusal, hcode⟩
  · exact Or.inl (habsent r ▸ h)
  · exact Or.inr (Or.inl ⟨s, htext r ▸ h⟩)
  · exact Or.inr (Or.inr (hcode o (hrefusal r ▸ h)))

/-- No value fails a condition by itself. -/
theorem Base.code_ne_condition {r : Rules} {base : Base} {v : Json}
    (h : base.objection r v = some o) : o.code ≠ .condition := by
  rcases cases_of_objection h with habsent | ⟨s, htext⟩ | hcode | hcode
  · rw [Rules.code_of_absent habsent]
    decide
  · rcases Rules.code_of_text htext with hcode | hcode | hcode <;> rw [hcode] <;> decide
  · rw [hcode]
    decide
  · rw [hcode]
    decide

namespace Leaf

/-- The objection to the value of a leaf as a whole, whatever the items of a list are. -/
def objection? : Leaf → Json → Option Objection
  | single rules base, v => base.objection rules v
  | repeating rules minItems maxItems _ _, v =>
      match itemsOf v with
      | none => mismatch
      | some items => rules.count minItems maxItems items.length

theorem code_ne_condition {leaf : Leaf} {v : Json} (h : leaf.objection? v = some o) :
    o.code ≠ .condition := by
  cases leaf with
  | single rules base => exact Base.code_ne_condition h
  | repeating rules minItems maxItems properties conditions =>
      rw [objection?] at h
      split at h
      · rw [code_of_mismatch h]
        decide
      · rcases Rules.code_of_count h with h | h | h <;> rw [h] <;> decide

end Leaf

/-! ### Objects in the shape of fields -/

/-- The findings at an object that holds the values of fields, in the order in which they are found.
-/
def checkFields (operations : Rule.Operations) (scope : Json) (parent : String) (object : Json)
    (fields : List Field) : List Finding :=
  checkProperties operations scope parent (some object) (insertAll fields []) ++
    checkConditions operations scope parent (fields.filterMap conditionOf)

/-- The findings at an item of a repeating field with some item fields. -/
def checkItem (operations : Rule.Operations) (scope : Json) (rules : Rules) (items : List Field)
    (path : String) : Json → List Finding
  | .object entries =>
      checkFields operations (merge scope (.object entries)) path (.object entries) items
  | _ => [rules.finding path { code := .typeMismatch }]

/-- The path of an item of a list. -/
def itemPath (path : String) (index : Nat) : String :=
  path ++ "." ++ Binary64.digitsText index

/-- A leaf that objects to a value has no other finding. -/
theorem check_of_objection {leaf : Leaf} {path : String} {value : Option Json}
    (h : leaf.objection? (Json.orNull value) = some o) :
    leaf.check operations scope path value = [leaf.rules.finding path o] := by
  cases leaf with
  | single rules base =>
      rw [Leaf.objection?] at h
      rw [Leaf.check, h]
      rfl
  | repeating rules minItems maxItems properties conditions =>
      rw [Leaf.objection?] at h
      rw [Leaf.check]
      cases hitems : itemsOf (Json.orNull value) with
      | none =>
          rw [hitems] at h
          cases h
          rfl
      | some entries =>
          rw [hitems] at h
          simp only [h]
          rfl

theorem check_leafOf_single {info : FieldInfo} {shape : Shape} {path : String}
    {value : Option Json}
    (h : (leafOf (.single info shape)).objection? (Json.orNull value) = none) :
    (leafOf (.single info shape)).check operations scope path value = [] := by
  rw [leafOf, Leaf.objection?] at h
  rw [leafOf, Leaf.check, h]
  rfl

/-- The leaf of a repeating field that does not object to a list has the findings at its items. -/
theorem check_leafOf_repeating (operations : Rule.Operations) (scope : Json) (path : String)
    {info : FieldInfo} {items : List Field} {minItems maxItems : Option Nat} {value : Option Json}
    (h : (leafOf (.repeating info items minItems maxItems)).objection? (Json.orNull value) = none) :
    ∃ entries, itemsOf (Json.orNull value) = some entries ∧
      (leafOf (.repeating info items minItems maxItems)).check operations scope path value =
        entries.zipIdx.flatMap fun (item, index) =>
          checkItem operations scope (rulesOf (.repeating info items minItems maxItems)) items
            (itemPath path index) item := by
  rw [leafOf, Leaf.objection?] at h
  rw [leafOf, Leaf.check]
  cases hitems : itemsOf (Json.orNull value) with
  | none =>
      rw [hitems] at h
      cases h
  | some entries =>
      rw [hitems] at h
      refine ⟨entries, rfl, ?_⟩
      simp only [h]
      rfl

theorem itemsOf_eq_some_iff {v : Json} {entries : List Json} :
    itemsOf v = some entries ↔ v = .array entries ∨ v = .null ∧ entries = [] := by
  cases v <;> simp [itemsOf, eq_comm]

/-- What is found at the leaf of a field is its objection, or it is found at an item. -/
theorem mem_check_leafOf_iff {f : Field} {path : String} {value : Option Json} :
    x ∈ (leafOf f).check operations scope path value ↔
      (∃ o, (leafOf f).objection? (Json.orNull value) = some o ∧
          x = (leafOf f).rules.finding path o) ∨
        (leafOf f).objection? (Json.orNull value) = none ∧
          ∃ info items minItems maxItems, f = .repeating info items minItems maxItems ∧
            ∃ entries index item, value = some (.array entries) ∧ entries[index]? = some item ∧
              x ∈ checkItem operations scope (rulesOf f) items (itemPath path index) item := by
  cases hobjection : (leafOf f).objection? (Json.orNull value) with
  | some o =>
      rw [check_of_objection hobjection]
      simp
  | none =>
      cases f with
      | single info shape =>
          rw [check_leafOf_single hobjection]
          simp
      | repeating info items minItems maxItems =>
          obtain ⟨entries, hentries, hcheck⟩ :=
            check_leafOf_repeating operations scope path hobjection
          rw [hcheck, List.mem_flatMap]
          constructor
          · rintro ⟨⟨item, index⟩, hmem, hx⟩
            have hitem : entries[index]? = some item := List.mk_mem_zipIdx_iff_getElem?.mp hmem
            refine Or.inr ⟨rfl, info, items, minItems, maxItems, rfl, entries, index, item, ?_,
              hitem, hx⟩
            -- A missing list has no items.
            rcases itemsOf_eq_some_iff.mp hentries with harray | ⟨-, rfl⟩
            · cases value with
              | none => cases harray
              | some v => exact congrArg some harray
            · cases hitem
          · rintro (⟨o, ho, -⟩ | ⟨-, info', items', lo, hi, heq, entries', index, item, rfl, hitem,
              hx⟩)
            · cases ho
            · cases heq
              obtain rfl : entries' = entries := Option.some.inj hentries
              exact ⟨(item, index), List.mk_mem_zipIdx_iff_getElem?.mpr hitem, hx⟩

/-! ### Paths of findings -/

theorem itemPath_ne_empty (path : String) (index : Nat) : itemPath path index ≠ "" :=
  append_dot_ne_empty path (Binary64.digitsText index)

theorem parts_itemPath (path : String) (index : Nat) :
    parts (itemPath path index) = parts path ++ [Binary64.digitsText index] := by
  rw [itemPath, parts_append_dot, parts_of_dot_not_mem (dot_not_mem_digitsText index)]

theorem plain_itemPath {path : String} (h : Plain path) (index : Nat) :
    Plain (itemPath path index) :=
  h.append_dot (plain_digitsText index)

/-- The finding of a condition that does not hold. -/
def unmet (parent : String) (c : Condition) : Finding where
  path := join parent c.path
  objection := { code := .condition }
  label := c.label
  template := c.message

theorem mem_checkConditions_iff {parent : String} {conditions : List Condition} :
    x ∈ checkConditions operations scope parent conditions ↔
      ∃ c ∈ conditions, Rule.holds operations scope c.rule = false ∧ x = unmet parent c := by
  rw [checkConditions, List.mem_filterMap]
  refine exists_congr fun c => and_congr_right fun _ => ?_
  cases Rule.holds operations scope c.rule <;> simp [unmet, eq_comm]

theorem code_of_mem_checkConditions {scope : Json} {parent : String} {conditions : List Condition} :
    ∀ x ∈ checkConditions operations scope parent conditions, x.objection.code = .condition := by
  intro x hx
  obtain ⟨c, -, -, rfl⟩ := mem_checkConditions_iff.mp hx
  rfl

theorem parts_prefix_of_mem_checkConditions {parent : String} (hparent : parent ≠ "")
    {conditions : List Condition}
    (hx : x ∈ checkConditions operations scope parent conditions) :
    parts parent <+: parts x.path := by
  obtain ⟨c, -, -, rfl⟩ := mem_checkConditions_iff.mp hx
  exact parts_prefix_join hparent c.path

mutual

theorem parts_prefix_of_mem_leaf_check {scope : Json} {path : String} {value : Option Json} :
    ∀ leaf : Leaf, x ∈ leaf.check operations scope path value → parts path <+: parts x.path
  | .single rules base => by
      intro hx
      rw [Leaf.check, Option.mem_toList, Option.map_eq_some_iff] at hx
      obtain ⟨o, -, rfl⟩ := hx
      exact List.prefix_rfl
  | .repeating rules minItems maxItems properties conditions => by
      intro hx
      rw [Leaf.check] at hx
      split at hx
      · rw [List.mem_singleton] at hx
        subst hx
        exact List.prefix_rfl
      split at hx
      · rw [List.mem_singleton] at hx
        subst hx
        exact List.prefix_rfl
      rw [List.mem_flatMap] at hx
      obtain ⟨⟨item, index⟩, -, hx⟩ := hx
      have hitem : parts path <+: parts (itemPath path index) := by
        rw [parts_itemPath]
        exact List.prefix_append ..
      refine hitem.trans ?_
      cases item with
      | object entries =>
          rcases List.mem_append.mp hx with hx | hx
          · exact parts_prefix_of_mem_checkProperties (itemPath_ne_empty path index) properties hx
          · exact parts_prefix_of_mem_checkConditions (itemPath_ne_empty path index) hx
      | _ =>
          rw [List.mem_singleton] at hx
          subst hx
          exact List.prefix_rfl

theorem parts_prefix_of_mem_node_check {scope : Json} {path key : String} {value : Option Json}
    (hpath : path ≠ "") : ∀ node : SchemaNode, x ∈ node.check operations scope path key value →
      parts path <+: parts x.path
  | .leaf leaf => by
      intro hx
      rw [SchemaNode.check] at hx
      exact parts_prefix_of_mem_leaf_check leaf hx
  | .object properties => by
      intro hx
      rw [SchemaNode.check] at hx
      split at hx
      · exact parts_prefix_of_mem_checkProperties hpath properties hx
      · rw [List.mem_singleton] at hx
        subst hx
        exact List.prefix_rfl

theorem parts_prefix_of_mem_checkProperties {scope : Json} {parent : String}
    {value : Option Json} (hparent : parent ≠ "") : ∀ properties : List (String × SchemaNode),
      x ∈ checkProperties operations scope parent value properties →
        parts parent <+: parts x.path
  | [] => by
      intro hx
      rw [checkProperties] at hx
      cases hx
  | (key, node) :: rest => by
      intro hx
      rw [checkProperties, List.mem_append] at hx
      rcases hx with hx | hx
      · exact (parts_prefix_join hparent key).trans
          (parts_prefix_of_mem_node_check (join_ne_empty hparent key) node hx)
      · exact parts_prefix_of_mem_checkProperties hparent rest hx

end

theorem parts_prefix_of_mem_checkItem {scope : Json} {rules : Rules} {items : List Field}
    {path : String} (hpath : path ≠ "") {item : Json}
    (hx : x ∈ checkItem operations scope rules items path item) : parts path <+: parts x.path := by
  cases item with
  | object entries =>
      rw [checkItem, checkFields, List.mem_append] at hx
      rcases hx with hx | hx
      · exact parts_prefix_of_mem_checkProperties hpath _ hx
      · exact parts_prefix_of_mem_checkConditions hpath hx
  | _ =>
      rw [checkItem, List.mem_singleton] at hx
      · subst hx
        exact List.prefix_rfl
      · intro entries heq
        cases heq

end FormLogic.Schema
