import FormLogic.Proofs.ErrorMap
import FormLogic.Proofs.Schema.LastLeaf

/-!
# The leaves of item fields

The names of item fields are checked for being different, but one of them may lead into the value of
a sibling.  Of two such fields the schema of the items keeps the leaf of the later one.  What the
leaves that are kept object to is reported at the items of all lists that are not too short or too
long.
-/

namespace FormLogic

namespace Schema

open FormLogic.Path

/-! ### Leaves that are kept -/

/-- What the leaf of a repeating field asks of an item. -/
def Leaf.itemProperties : Leaf → Properties
  | .single _ _ => []
  | .repeating _ _ _ properties _ => properties

/-- The leaf of a field, and no other, stands at its name. -/
def Keeps (properties : Properties) (f : Field) : Prop :=
  leaf? f.name properties = some (leafOf f)

theorem keeps_iff {properties : Properties} {f : Field} :
    Keeps properties f ↔
      SchemaNode.descend (parts f.name) (.object properties) = some (.leaf (leafOf f)) :=
  leafAt_eq_some_iff

theorem itemProperties_leafOf (info : FieldInfo) (items : List Field)
    (minItems maxItems : Option Nat) :
    (leafOf (.repeating info items minItems maxItems)).itemProperties = insertAll items [] := by
  rw [leafOf, Leaf.itemProperties]

/-- The leaf of a field is kept exactly if the names of all later fields lie apart from its own. -/
theorem keeps_insertAll_iff {front back : List Field} {f : Field}
    (h : ((front ++ f :: back).map Field.name).Nodup) :
    Keeps (insertAll (front ++ f :: back) []) f ↔ ∀ g ∈ back, Apart f.name g.name := by
  have hnames : f.name ∉ back.map Field.name := by
    rw [List.map_append, List.map_cons, List.nodup_append, List.nodup_cons] at h
    exact h.2.1.1
  -- A later field of the same name could give the same leaf; there is none.
  have hlater : ¬ Outlasts (back.map fun g => (g.name, leafOf g)) f.name (leafOf f) := by
    intro houtlasts
    obtain ⟨g, hg, heq⟩ := List.mem_map.mp houtlasts.mem
    have hname : g.name = f.name := congrArg Prod.fst heq
    exact hnames (hname ▸ List.mem_map_of_mem hg)
  rw [Keeps, insertAll_eq_insertEach, List.map_append, List.map_cons, insertEach_append,
    insertEach_cons, leaf?_insertEach_eq_some_iff, or_iff_right hlater, List.forall_mem_map,
    and_iff_left (leaf?_insert_eq_some_iff.mpr (Or.inl ⟨rfl, rfl⟩))]

/-- All leaves are kept exactly if no name leads into the value of another field. -/
theorem forall_keeps_insertAll_iff {fields : List Field} (h : (fields.map Field.name).Nodup) :
    (∀ f ∈ fields, Keeps (insertAll fields []) f) ↔
      ∀ f ∈ fields, ∀ g ∈ fields, ¬ Below f.name g.name := by
  constructor
  · intro hkeeps f hf g hg hbelow
    obtain ⟨front, back, rfl⟩ := List.append_of_mem hf
    rcases List.mem_append.mp hg with hfront | hback
    · -- The leaf of `g` is put in first, and would be replaced by an object.
      obtain ⟨front, middle, rfl⟩ := List.append_of_mem hfront
      rw [List.append_assoc, List.cons_append] at h hkeeps
      have hapart := (keeps_insertAll_iff h).mp (hkeeps g (by simp))
      exact (hapart f (by simp)).2.2 hbelow
    · rcases List.mem_cons.mp hback with rfl | hback
      · exact not_below_self g.name hbelow
      · have hapart := (keeps_insertAll_iff h).mp (hkeeps f (by simp))
        exact (hapart g hback).2.1 hbelow
  · intro hbelow f hf
    have hapart := Tree.pairwise_apart_of_names h hbelow
    exact keeps_iff.mpr (descend_insertAll_name hapart hf [])

/-! ### Items -/

/-- A field repeats some item fields, and an item stands at an index of the list at its name. -/
structure HasItem (f : Field) (object : Json) (items : List Field) (index : Nat)
    (item : Json) : Prop where
  clear : Clear f.name (some object)
  repeats : ∃ info minItems maxItems, f = .repeating info items minItems maxItems
  present : ∃ list, valueOf f object = some (.array list) ∧ list[index]? = some item

/-- There is an object with some entries among the items of a list at a path, at any depth, where a
path and an object are given together with the fields whose values the object holds.  The item
fields of the list are given, too; the leaves of all lists on the way are kept. -/
inductive ItemAt : String → Json → List Field → String → List (String × Json) → List Field → Prop
    where
  | here {parent : String} {object : Json} {fields items : List Field} {f : Field} {index : Nat}
      {entries : List (String × Json)} (hf : f ∈ fields) (hkeeps : Keeps (insertAll fields []) f)
      (h : HasItem f object items index (.object entries)) :
      ItemAt parent object fields (itemPath (under parent (parts f.name)) index) entries items
  | inside {parent path : String} {object : Json} {fields items inner : List Field} {f : Field}
      {index : Nat} {entries innerEntries : List (String × Json)} (hf : f ∈ fields)
      (hkeeps : Keeps (insertAll fields []) f)
      (h : HasItem f object items index (.object entries))
      (hinner : ItemAt (itemPath (under parent (parts f.name)) index) (.object entries) items path
        innerEntries inner) :
      ItemAt parent object fields path innerEntries inner

variable {operations : Rule.Operations} {scope object item : Json} {parent path : String}
variable {fields items : List Field} {f g : Field} {index : Nat} {x : Finding} {o : Objection}
variable {entries : List (String × Json)}

theorem HasItem.code_of_objection (h : HasItem f object items index item)
    (ho : (leafOf f).objection? (Json.orNull (valueOf f object)) = some o) :
    o.code = .minItems ∨ o.code = .maxItems := by
  obtain ⟨info, minItems, maxItems, rfl⟩ := h.repeats
  obtain ⟨list, hlist, hitem⟩ := h.present
  have hpos : 0 < list.length := Nat.zero_lt_of_lt (List.getElem?_eq_some_iff.mp hitem).1
  rw [hlist, leafOf] at ho
  exact Rules.code_of_count_of_pos hpos ho

/-- What is found at a leaf that is kept and can be reached is found. -/
theorem Keeps.mem_checkFields (h : Keeps (insertAll fields []) f)
    (hclear : Clear f.name (some object))
    (hx : x ∈ (leafOf f).check operations scope (under parent (parts f.name)) (valueOf f object)) :
    x ∈ checkFields operations scope parent object fields := by
  refine List.mem_append_left _ (mem_checkProperties_of_descend (keeps_iff.mp h) hclear ?_)
  rw [SchemaNode.check]
  exact hx

variable (operations scope parent) in
/-- An item is checked, unless its list is refused for the number of items. -/
theorem HasItem.checked_or_refused (h : HasItem f object items index item)
    (hkeeps : Keeps (insertAll fields []) f) :
    (∀ x ∈ checkItem operations scope (rulesOf f) items
        (itemPath (under parent (parts f.name)) index) item,
      x ∈ checkFields operations scope parent object fields) ∨
      ∃ x ∈ checkFields operations scope parent object fields,
        x.path = under parent (parts f.name) ∧
          (x.objection.code = .minItems ∨ x.objection.code = .maxItems) := by
  obtain ⟨info, minItems, maxItems, heq⟩ := h.repeats
  obtain ⟨list, hlist, hitem⟩ := h.present
  cases hobjection : (leafOf f).objection? (Json.orNull (valueOf f object)) with
  | none =>
      refine .inl fun x hx => hkeeps.mem_checkFields h.clear ?_
      exact mem_check_leafOf_iff.mpr (.inr ⟨hobjection, info, items, minItems, maxItems, heq, list,
        index, item, hlist, hitem, hx⟩)
  | some o =>
      have hmem : (leafOf f).rules.finding (under parent (parts f.name)) o ∈
          checkFields operations scope parent object fields :=
        hkeeps.mem_checkFields h.clear (mem_check_leafOf_iff.mpr (.inl ⟨o, hobjection, rfl⟩))
      exact .inr ⟨_, hmem, rfl, h.code_of_objection hobjection⟩

theorem ItemAt.parts_prefix (h : ItemAt parent object fields path entries items) :
    parent ≠ "" → parts parent <+: parts path := by
  have hlist : ∀ (parent : String) (f : Field) (index : Nat), parent ≠ "" →
      parts parent <+: parts (itemPath (under parent (parts f.name)) index) := by
    intro parent f index hparent
    rw [parts_itemPath]
    exact (parts_prefix_under hparent _).trans (List.prefix_append ..)
  induction h with
  | here => exact hlist _ _ _
  | inside _ _ _ _ ih =>
      intro hparent
      exact (hlist _ _ _ hparent).trans (ih (itemPath_ne_empty _ _))

variable (operations) in
/-- Item by item, what is found at an object is found in the data as a whole, unless a list on the
way is refused for the number of items. -/
theorem ItemAt.checked_or_refused (h : ItemAt parent object fields path entries items) :
    ∀ scope, (∃ inner, ∀ x ∈ checkFields operations inner path (.object entries) items,
        x ∈ checkFields operations scope parent object fields) ∨
      ∃ x ∈ checkFields operations scope parent object fields, Below path x.path ∧
        (x.objection.code = .minItems ∨ x.objection.code = .maxItems) := by
  induction h with
  | @here parent object fields items f index entries hf hkeeps h =>
      intro scope
      rcases h.checked_or_refused operations scope parent hkeeps with hchecked |
        ⟨x, hx, hpath, hcode⟩
      · exact .inl ⟨_, hchecked⟩
      · exact .inr ⟨x, hx, ⟨_, by rw [hpath, itemPath]⟩, hcode⟩
  | @inside parent path object fields items inner f index entries innerEntries hf hkeeps h hinner
      ih =>
      intro scope
      rcases h.checked_or_refused operations scope parent hkeeps with hchecked |
        ⟨x, hx, hpath, hcode⟩
      · rcases ih (Path.merge scope (.object entries)) with ⟨inner, hfound⟩ | ⟨x, hx, hrefused⟩
        · exact .inl ⟨inner, fun x hx => hchecked x (hfound x hx)⟩
        · exact .inr ⟨x, hchecked x hx, hrefused⟩
      · have hpre := hinner.parts_prefix (itemPath_ne_empty _ index)
        rw [parts_itemPath, ← hpath] at hpre
        exact .inr ⟨x, hx, below_of_prefix_parts hpre, hcode⟩

end Schema

namespace Form

open Schema

/-- What is found is reported; in a form of orderly names the error has the code of what is found,
unless this is a failed condition. -/
theorem exists_error_of_mem {form : Form} {data : Json} {x : Finding}
    (hx : x ∈ form.schema.check form.operations data) :
    ∃ e, Dictionary.lookup x.path (form.errors data) = some e ∧
      (Field.Orderly form.fields → x.objection.code ≠ .condition →
        e.code = x.objection.code.name) := by
  obtain ⟨y, hy⟩ := exists_firstAt_of_mem hx
  refine ⟨.ofFinding form.messages y, by rw [form.lookup_errors, hy, Option.map_some], ?_⟩
  intro horderly hcode
  have hranked : Ranked (form.schema.check form.operations data) :=
    ranked_checkFields horderly Path.tidy_empty
  have hreports : Reports (form.schema.check form.operations data) x.path x.objection.code :=
    ⟨x, hx, rfl, rfl, fun hcondition => absurd hcondition hcode⟩
  obtain ⟨z, hz, hsame⟩ := (exists_firstAt_iff_reports hranked).mpr hreports
  obtain rfl : y = z := Option.some.inj (hy.symm.trans hz)
  rw [FieldError.ofFinding, hsame]

/-- The schema of the items of a list, at any depth of an accepted form, keeps the leaf of an item
field exactly if the names of all later ones lie apart from its own; it keeps all leaves exactly if
no name leads into the value of a sibling.  What a leaf that is kept objects to is reported at each
item that is an object and can be reached, unless a list on the way has too few or too many items
and is reported itself. -/
theorem item_leaves_kept_iff {form : Form} (h : form.tree.Accepted) :
    (∀ info items minItems maxItems,
      (Field.repeating info items minItems maxItems).Within form.fields →
        (∀ front g back, items = front ++ g :: back →
          (Keeps (leafOf (.repeating info items minItems maxItems)).itemProperties g ↔
            ∀ k ∈ back, Path.Apart g.name k.name)) ∧
        ((∀ g ∈ items, Keeps (leafOf (.repeating info items minItems maxItems)).itemProperties g) ↔
          ∀ g ∈ items, ∀ k ∈ items, ¬ Path.Below g.name k.name)) ∧
      ∀ data path entries items, ItemAt "" data form.fields path entries items →
        ∀ g ∈ items, Keeps (insertAll items []) g → Clear g.name (some (.object entries)) →
          ∀ o, (leafOf g).objection? (Json.orNull (valueOf g (.object entries))) = some o →
            ∃ x ∈ form.schema.check form.operations data,
              (x.path = Path.under path (Path.parts g.name) ∧ x.objection = o ∨
                Path.Below path x.path ∧
                  (x.objection.code = .minItems ∨ x.objection.code = .maxItems)) ∧
              ∃ e, Dictionary.lookup x.path (form.errors data) = some e ∧
                (Field.Orderly form.fields → e.code = x.objection.code.name) := by
  constructor
  · intro info items minItems maxItems hwithin
    have hnames : (items.map Field.name).Nodup := h.item_names_nodup hwithin
    rw [itemProperties_leafOf]
    refine ⟨?_, forall_keeps_insertAll_iff hnames⟩
    rintro front g back rfl
    exact keeps_insertAll_iff hnames
  · intro data path entries items hitem g hg hkeeps hclear o ho
    rcases hitem.checked_or_refused form.operations data with
      ⟨inner, hchecked⟩ | ⟨x, hx, hbelow, hcode⟩
    · have hfound : (leafOf g).rules.finding (Path.under path (Path.parts g.name)) o ∈
          checkFields form.operations inner path (.object entries) items :=
        hkeeps.mem_checkFields hclear (mem_check_leafOf_iff.mpr (.inl ⟨o, ho, rfl⟩))
      obtain ⟨e, he, horderly⟩ := exists_error_of_mem (hchecked _ hfound)
      have hcode : o.code ≠ .condition := Leaf.code_ne_condition ho
      exact ⟨_, hchecked _ hfound, .inl ⟨rfl, rfl⟩, e, he, fun hform => horderly hform hcode⟩
    · obtain ⟨e, he, horderly⟩ := exists_error_of_mem hx
      have hne : x.objection.code ≠ .condition := by
        rcases hcode with hcode | hcode <;> rw [hcode] <;> decide
      exact ⟨x, hx, .inr ⟨hbelow, hcode⟩, e, he, fun hform => horderly hform hne⟩

end Form

/-! ### An item field within the value of another one -/

namespace Overlap

/-- Rows with a text that is required, and a further text in its place. -/
def declarations : List Declaration :=
  [.element { kind := some "array", name := some "rows" }
    (some
      [.element
          { kind := some "text", name := some "a", constraints := some { required := true } }
          none none,
        .element { kind := some "text", name := some "a.b" } none none])
    none]

def outer : Field :=
  .single { Jobs.plainInfo "text" "a" with constraints := some { required := true } } .generic

def inner : Field := .single (Jobs.plainInfo "text" "a.b") .generic

def rows : Field := .repeating (Jobs.plainInfo "array" "rows") [outer, inner] none none

def form : Form where
  tree := ⟨[.field rows]⟩
  options := {}
  operations := Rule.defaultOperations

theorem accepted_form : form.tree.Accepted := ⟨none, declarations, rfl⟩

/-- The rows have lost the leaf of the text that is required. -/
theorem not_keeps_outer : ¬ Schema.Keeps (Schema.leafOf rows).itemProperties outer := by
  have hwithin : rows.Within form.fields := .here (List.mem_singleton_self rows)
  have hleaves := (Form.item_leaves_kept_iff accepted_form).1 _ _ _ _ hwithin
  have hkeeps := hleaves.1 [] outer [inner] rfl
  have hbelow : Path.Below inner.name outer.name := ⟨"b", rfl⟩
  intro h
  exact (hkeeps.mp h inner (List.mem_singleton_self inner)).2.2 hbelow

end Overlap

end FormLogic
