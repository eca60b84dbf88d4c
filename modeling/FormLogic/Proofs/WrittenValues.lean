import FormLogic.Proofs.Path.Merging
import FormLogic.Proofs.Schema.Leaves
import FormLogic.Proofs.Schema.Obstruction
import FormLogic.Proofs.Schema.Writing
import FormLogic.Proofs.Tree.Within

/-!
# Judging what is written

A value that is written under the name of a field is the value that the leaf of the field judges,
unless a name with an empty part comes in between: values are written without regard to empty parts,
but the schema keeps them.  A form is told here for which this makes no difference.
-/

namespace FormLogic

/-- Codes are told apart by their names. -/
theorem Code.name_injective {c c' : Code} (h : c.name = c'.name) : c = c' := by
  cases c <;> cases c' <;> first | rfl | exact absurd h (by decide)

namespace Schema

open FormLogic.Path

variable {operations : Rule.Operations} {scope : Json} {fields : List Field} {f g : Field}
  {x : Finding} {o : Objection}

/-! ### Objections to missing values and to values of no use -/

/-- A missing value is no mismatch. -/
theorem code_of_null {f : Field} (h : (leafOf f).objection? .null = some o) :
    o.code ≠ .typeMismatch := by
  cases f with
  | single info shape =>
      rw [leafOf, Leaf.objection?] at h
      have habsent : ∀ {r : Rules} {base : Base}, base.objection r .null = r.absent := by
        intro r base
        cases base with
        | choice allowed multiple => cases multiple <;> rfl
        | _ => rfl
      rw [habsent] at h
      rw [Rules.code_of_absent h]
      decide
  | repeating info items minItems maxItems =>
      rw [leafOf, Leaf.objection?] at h
      rcases Rules.code_of_count h with h | h | h <;> rw [h] <;> decide

theorem objection_of_repeating (info : FieldInfo) (items : List Field)
    (minItems maxItems : Option Nat) :
    (leafOf (.repeating info items minItems maxItems)).objection? (.bool true) =
      some { code := .typeMismatch } := by
  rw [leafOf]
  rfl

/-- Names with an empty part make no difference: the leaves of fields with such names object to
nothing, and no such name leads through a value that is reported at the name of another field. -/
structure Unaffected (fields : List Field) : Prop where
  lenient : ∀ f ∈ fields, ¬ Plain f.name → ∀ v, (leafOf f).objection? v = none
  unobstructed : ∀ f ∈ fields, Plain f.name → ∀ g ∈ fields, ∀ above, Below g.name above →
    segments above ≠ parts f.name

section

variable (hapart : fields.Pairwise fun f g => Apart f.name g.name)
  (hlenient : ∀ f ∈ fields, ¬ Plain f.name → ∀ v, (leafOf f).objection? v = none)

include hapart hlenient

/-- Where leaves of fields with empty parts in their names object to nothing, only the leaf of a
field itself has findings at the name of the field. -/
theorem rejects_of_mem_check_leafOf {value : Option Json} (hf : f ∈ fields) (hg : g ∈ fields)
    (hx : x ∈ (leafOf g).check operations scope (under "" (parts g.name)) value)
    (hpath : x.path = f.name) :
    g = f ∧ Plain f.name ∧ (leafOf f).objection? (Json.orNull value) = some x.objection := by
  rcases mem_check_leafOf_iff.mp hx with ⟨o, ho, rfl⟩ |
    ⟨-, info, items, minItems, maxItems, rfl, entries, index, item, -, -, hx⟩
  · have hplain : Plain g.name := by
      by_contra hnot
      rw [hlenient g hg hnot] at ho
      cases ho
    have hname : g.name = f.name := by
      rw [← hpath]
      exact (under_parts hplain tidy_empty).symm
    obtain rfl : g = f :=
      Tree.eq_of_prefix_parts hapart hg hf List.prefix_rfl (hname ▸ List.prefix_rfl)
    exact ⟨rfl, hplain, ho⟩
  · have hplain : Plain (Field.repeating info items minItems maxItems).name := by
      by_contra hnot
      have hnone := hlenient _ hg hnot (.bool true)
      rw [objection_of_repeating] at hnone
      cases hnone
    have hpre := parts_prefix_of_mem_checkItem (itemPath_ne_empty _ index) hx
    rw [parts_itemPath, under_parts hplain tidy_empty, join_empty_left, hpath] at hpre
    exact absurd (below_of_prefix_parts hpre) (Tree.not_below_of_pairwise_apart hapart hg hf)

/-- At the name of a field no leaf but its own has a finding. -/
theorem mismatchesAside_insertAll (hf : f ∈ fields) (value : Option Json) :
    MismatchesAside operations scope f.name (parts f.name) "" value
      (.object (insertAll fields [])) := by
  intro keys leaf hne hleaf x hx hpath
  obtain ⟨g, hg, rfl, rfl⟩ := (descend_insertAll_eq_leaf_iff hapart).mp hleaf
  obtain ⟨rfl, -⟩ := rejects_of_mem_check_leafOf hapart hlenient hf hg hx hpath
  exact absurd rfl hne

end

theorem plain_of_under_eq {path name : String} (hname : name ≠ "")
    (h : under "" (parts path) = name) : Plain name := by
  have htidy : Tidy name := h ▸ tidy_empty.under (dotless_parts path)
  exact htidy.resolve_left hname

/-- What is found at the name of a field, failed conditions of the form apart, is the objection of
the leaf of the field. -/
theorem Unaffected.objection_of_mem (h : Unaffected fields)
    (hapart : fields.Pairwise fun f g => Apart f.name g.name) {value : Option Json}
    (hx : x ∈ checkProperties operations scope "" value (insertAll fields [])) (hf : f ∈ fields)
    (hname : f.name ≠ "") (hpath : x.path = f.name) :
    Plain f.name ∧
      (leafOf f).objection? (Json.orNull (valueAt (parts f.name) value)) = some x.objection := by
  rcases cases_of_mem_checkProperties hapart hx with ⟨g, hg, -, hx⟩ |
    ⟨g, hg, above, label, hbelow, -, -, rfl⟩
  · obtain ⟨rfl, hplain, ho⟩ := rejects_of_mem_check_leafOf hapart h.lenient hf hg hx hpath
    exact ⟨hplain, ho⟩
  · have hplain : Plain f.name := plain_of_under_eq hname hpath
    have hsegments : segments above = parts f.name := by
      rw [← segments_under_parts, ← segments_of_plain hplain]
      exact congrArg segments hpath
    exact absurd hsegments (h.unobstructed f hf hplain g hg above hbelow)

/-- A value in the way of the name of a field is first at the name of another field if it is
reported there. -/
theorem firstMismatch_of_obstacle (operations : Rule.Operations)
    (hapart : fields.Pairwise fun f g => Apart f.name g.name)
    (hlenient : ∀ f ∈ fields, ¬ Plain f.name → ∀ v, (leafOf f).objection? v = none)
    (hf : f ∈ fields) (hplain : Plain f.name) (hg : g ∈ fields) {above : String}
    (habove : Below g.name above) (hsegments : segments above = parts f.name) (value : Json) :
    let data := Path.set (writeAt (parts above) (.bool true) .null) f.name value
    FirstMismatch f.name
      (checkProperties operations data "" (some data) (insertAll fields [])) := by
  intro data
  -- The name and the path of the value in the way have the same segments, but lie apart: they part
  -- ways at an empty part of the path, which comes before the other one in the order of keys.
  have hnot_below : ¬ parts f.name <+: parts above := by
    intro hpre
    exact Tree.not_below_of_pairwise_apart hapart hf hg (habove.of_prefix_parts hpre)
  obtain ⟨front, back, key, rest, hkeys, hplace, hkey⟩ :=
    exists_first_empty (hsegments ▸ hnot_below)
  have hplace : parts f.name = front ++ key :: rest := hsegments.symm.trans hplace
  have hnot_above : ¬ parts above <+: parts f.name := by
    intro hpre
    exact hplain (hpre.subset (by simp [hkeys]))
  have hdata : data = writeAt (parts f.name) value (writeAt (parts above) (.bool true) .null) := by
    show Path.set _ _ _ = _
    rw [Path.set, segments_of_plain hplain]
  have hvalue : valueAt (parts above) (some data) = some (.bool true) := by
    rw [hdata]
    exact valueAt_writeAt_writeAt hnot_above hnot_below _ value .null
  have hopen : OpenAbove (parts above) (some data) := by
    rw [hdata]
    exact openAbove_writeAt_writeAt hnot_below _ value .null
  have hpath : under "" (parts above) = f.name := by
    apply (tidy_empty.under (dotless_parts above)).eq_of_segments_eq hplain.tidy
    rw [segments_under_parts, hsegments, segments_of_plain hplain]
  have haside : MismatchesAside operations data f.name (parts f.name) "" (some data)
      (.object (insertAll fields [])) :=
    mismatchesAside_insertAll hapart hlenient hf (some data)
  obtain ⟨hpre, hne⟩ := below_iff_prefix_ne.mp habove
  obtain ⟨new, hnew⟩ :=
    exists_object_above_insertAll hapart hg (parts_ne_nil above) hpre hne []
  have hroot : isObjectOrAbsent (some data) = true :=
    hopen [] List.nil_prefix (parts_ne_nil above).symm
  have hcheck : SchemaNode.check operations data "" "" (some data) (.object (insertAll fields [])) =
      checkProperties operations data "" (some data) (insertAll fields []) :=
    check_object_of_open hroot
  rw [← hcheck]
  rw [hkeys] at hvalue hopen hpath hnew
  rw [hplace] at haside
  exact firstMismatch_check front (keyed_insertAll fields) (empty_lt_of_ne_empty hkey) hnew hopen
    (by rw [hvalue]; rfl) hpath haside

theorem firstAt_checkFields_of_checkProperties {object : Json} {parent path : String}
    (h : firstAt path
      (checkProperties operations scope parent (some object) (insertAll fields [])) = some x) :
    firstAt path (checkFields operations scope parent object fields) = some x := by
  rw [checkFields, firstAt_append, h, Option.some_or]

/-- What is first at a path is a failed condition unless it is found at the values. -/
theorem firstAt_checkFields {object : Json} {parent path : String}
    (h : firstAt path (checkFields operations scope parent object fields) = some x) :
    firstAt path (checkProperties operations scope parent (some object) (insertAll fields [])) =
        some x ∨ x.objection.code = .condition := by
  rw [checkFields, firstAt_append] at h
  rcases Option.or_eq_some_iff.mp h with hfirst | ⟨-, hfirst⟩
  · exact Or.inl hfirst
  · exact Or.inr (code_of_mem_checkConditions x (mem_of_firstAt_eq_some hfirst).1)

end Schema

namespace Form

open Schema FormLogic.Path

variable {form : Form} {f : Field}

/-- After a value has been written under the name of a field, the leaf of the field is found to
judge this value: where it objects, the error at the name has the code of the objection, and where
it does not, there is no error at the name but a failed condition. -/
def JudgesWritten (form : Form) (f : Field) : Prop :=
  ∀ data v,
    (∀ o, (leafOf f).objection? v = some o →
      ∃ e, Dictionary.lookup f.name (form.errors (Path.set data f.name v)) = some e ∧
        e.code = o.code.name) ∧
    ((leafOf f).objection? v = none →
      ∀ e, Dictionary.lookup f.name (form.errors (Path.set data f.name v)) = some e →
        e.code = Code.condition.name)

theorem exists_lookup_errors_iff {data : Json} {path code : String} :
    (∃ e, Dictionary.lookup path (form.errors data) = some e ∧ e.code = code) ↔
      ∃ x, firstAt path (checkFields form.operations data "" data form.fields) = some x ∧
        x.objection.code.name = code := by
  rw [form.lookup_errors]
  simp only [Option.map_eq_some_iff]
  constructor
  · rintro ⟨e, ⟨x, hx, rfl⟩, hcode⟩
    exact ⟨x, hx, hcode⟩
  · rintro ⟨x, hx, hcode⟩
    exact ⟨_, ⟨x, hx, rfl⟩, hcode⟩

/-- Where names with an empty part make no difference, the leaf of a field judges the value at its
name: where it objects, the error at the name has the code of the objection, and where it does not,
there is no error at the name but a failed condition. -/
theorem errors_at_name (haccepted : form.tree.Accepted) (h : Unaffected form.fields)
    (hf : f ∈ form.fields) {data : Json} (hclear : Plain f.name → Clear f.name (some data)) :
    (∀ o, (leafOf f).objection? (Json.orNull (valueAt (parts f.name) (some data))) = some o →
      ∃ e, Dictionary.lookup f.name (form.errors data) = some e ∧ e.code = o.code.name) ∧
    ((leafOf f).objection? (Json.orNull (valueAt (parts f.name) (some data))) = none →
      ∀ e, Dictionary.lookup f.name (form.errors data) = some e →
        e.code = Code.condition.name) := by
  have hapart : form.fields.Pairwise fun f g => Apart f.name g.name := haccepted.pairwise_apart
  have hname : f.name ≠ "" := haccepted.name_ne_empty (.here hf)
  -- Whatever is found at the name is the objection to the value there.
  have hfound :
      ∀ x ∈ checkProperties form.operations data "" (some data) (insertAll form.fields []),
        x.path = f.name → (leafOf f).objection?
          (Json.orNull (valueAt (parts f.name) (some data))) = some x.objection := by
    intro x hx hpath
    exact (h.objection_of_mem hapart hx hf hname hpath).2
  constructor
  · intro o ho
    have hplain : Plain f.name := by
      by_contra hnot
      rw [h.lenient f hf hnot] at ho
      cases ho
    have hpath : under "" (parts f.name) = f.name := under_parts hplain tidy_empty
    have hmem : (leafOf f).rules.finding f.name o ∈
        checkProperties form.operations data "" (some data) (insertAll form.fields []) := by
      apply mem_checkProperties_of_leaf hapart hf (hclear hplain)
      rw [hpath]
      exact mem_check_leafOf_iff.mpr (Or.inl ⟨o, ho, rfl⟩)
    obtain ⟨x, hx⟩ := exists_firstAt_of_mem hmem
    obtain ⟨hxmem, hxpath⟩ := mem_of_firstAt_eq_some hx
    have hobjection : o = x.objection :=
      Option.some.inj (ho.symm.trans (hfound x hxmem hxpath))
    rw [exists_lookup_errors_iff]
    exact ⟨x, firstAt_checkFields_of_checkProperties hx, by rw [hobjection]⟩
  · intro hnone e he
    obtain ⟨x, hx, hcode⟩ := exists_lookup_errors_iff.mp ⟨e, he, rfl⟩
    rcases firstAt_checkFields hx with hfirst | hcondition
    · obtain ⟨hxmem, hxpath⟩ := mem_of_firstAt_eq_some hfirst
      have hobjection := hfound x hxmem hxpath
      rw [hnone] at hobjection
      cases hobjection
    · rw [← hcode, hcondition]

/-- Where names with an empty part make no difference, the error at the name of a field has a code,
failed conditions apart, exactly if the leaf of the field objects with this code to the value there.
-/
theorem exists_code_at_name_iff (haccepted : form.tree.Accepted) (h : Unaffected form.fields)
    (hf : f ∈ form.fields) {data v : Json} (hv : valueAt (parts f.name) (some data) = some v)
    {code : Code} (hcode : code ≠ .condition) :
    (∃ e, Dictionary.lookup f.name (form.errors data) = some e ∧ e.code = code.name) ↔
      ∃ o, (leafOf f).objection? v = some o ∧ o.code = code := by
  obtain ⟨hsome, hnone⟩ := errors_at_name haccepted h hf fun _ => clear_of_valueAt hv
  rw [hv] at hsome hnone
  constructor
  · rintro ⟨e, he, hname⟩
    cases ho : (leafOf f).objection? v with
    | none => exact absurd (Code.name_injective (hname.symm.trans (hnone ho e he))) hcode
    | some o =>
        obtain ⟨e', he', hname'⟩ := hsome o ho
        obtain rfl : e = e' := Option.some.inj (he.symm.trans he')
        exact ⟨o, rfl, Code.name_injective (hname'.symm.trans hname)⟩
  · rintro ⟨o, ho, rfl⟩
    exact hsome o ho

/-- Written values are judged where names with an empty part make no difference. -/
theorem judgesWritten_of_unaffected (haccepted : form.tree.Accepted)
    (h : Unaffected form.fields) (hf : f ∈ form.fields) : form.JudgesWritten f := by
  intro data v
  have hclear : Plain f.name → Clear f.name (some (Path.set data f.name v)) :=
    fun hplain => clear_set hplain data v
  have hjudged := errors_at_name haccepted h hf hclear
  by_cases hplain : Plain f.name
  · rwa [valueAt_set hplain] at hjudged
  · have hnone := h.lenient f hf hplain
    exact ⟨fun o ho => absurd ((hnone v).symm.trans ho) (by simp), fun _ => hjudged.2 (hnone _)⟩

/-! ### Where names with an empty part make a difference -/

/-- In data where nothing but a value under the name of a field has been written, no item of a list
that another field repeats has a path at or above this name. -/
theorem not_itemPath_above_written {fields : List Field}
    (hapart : fields.Pairwise fun f g => Apart f.name g.name) (hf : f ∈ fields) {g : Field}
    (hg : g ∈ fields) {v found : Json}
    (hvalue : valueAt (parts g.name) (some (Path.set .null f.name v)) = some found) (index : Nat) :
    ¬ parts (itemPath (under "" (parts g.name)) index) <+: parts f.name := by
  intro hpre
  rcases prefix_of_valueAt_writeAt_null hvalue with habove | hbelow
  · -- The name of the list has no empty part, and the field lies below it.
    have hplain : Plain g.name := by
      intro hempty
      simpa [segments] using habove.subset hempty
    rw [parts_itemPath, under_parts hplain tidy_empty, join_empty_left] at hpre
    exact Tree.not_below_of_pairwise_apart hapart hg hf (below_of_prefix_parts hpre)
  · -- The path of the item has more segments than the name of the field.
    have hfg : (segments f.name).length ≤ (segments g.name).length :=
      length_segments_le_of_prefix_parts hbelow
    have hgf : (segments g.name).length + 1 ≤ (segments f.name).length := by
      have hfilter := (hpre.filter fun part => part != "").length_le
      rw [← segments, ← segments, itemPath, segments_append_dot, segments_digitsText,
        segments_under_parts, List.length_append, List.length_singleton] at hfilter
      exact hfilter
    omega

/-- Written values are not judged unless the leaves of fields with an empty part in their names
object to nothing. -/
theorem lenient_of_judgesWritten (haccepted : form.tree.Accepted)
    (h : ∀ f ∈ form.fields, form.JudgesWritten f) (hf : f ∈ form.fields)
    (hnot : ¬ Plain f.name) (v : Json) : (leafOf f).objection? v = none := by
  have hapart : form.fields.Pairwise fun f g => Apart f.name g.name := haccepted.pairwise_apart
  have hname : f.name ≠ "" := haccepted.name_ne_empty (.here hf)
  cases ho : (leafOf f).objection? v with
  | none => rfl
  | some o =>
      -- The error that is due would have to be found at a path with an empty part; there is none.
      exfalso
      obtain ⟨x, hx, hcode⟩ := exists_lookup_errors_iff.mp ((h f hf .null v).1 o ho)
      have hcode : x.objection.code = o.code := Code.name_injective hcode
      rcases firstAt_checkFields hx with hfirst | hcondition
      · obtain ⟨hmem, hpath⟩ := mem_of_firstAt_eq_some hfirst
        rcases cases_of_mem_checkProperties hapart hmem with ⟨g, hg, -, hx⟩ |
          ⟨g, hg, above, label, -, -, -, rfl⟩
        · rcases mem_check_leafOf_iff.mp hx with ⟨o', -, rfl⟩ |
            ⟨-, info, items, minItems, maxItems, -, entries, index, item, hvalue, -, hx⟩
          · exact hnot (plain_of_under_eq hname hpath)
          · have hpre := parts_prefix_of_mem_checkItem (itemPath_ne_empty _ index) hx
            rw [hpath] at hpre
            exact not_itemPath_above_written hapart hf hg hvalue index hpre
        · exact hnot (plain_of_under_eq hname hpath)
      · rw [hcondition] at hcode
        exact Leaf.code_ne_condition ho hcode.symm

/-- Written values are not judged if the name of a field leads through a value that is reported at
the name of another field. -/
theorem unobstructed_of_judgesWritten (haccepted : form.tree.Accepted)
    (h : ∀ f ∈ form.fields, form.JudgesWritten f) (hf : f ∈ form.fields) (hplain : Plain f.name)
    {g : Field} (hg : g ∈ form.fields) {above : String} (habove : Below g.name above) :
    segments above ≠ parts f.name := by
  have hapart : form.fields.Pairwise fun f g => Apart f.name g.name := haccepted.pairwise_apart
  have hlenient : ∀ f ∈ form.fields, ¬ Plain f.name → ∀ v, (leafOf f).objection? v = none :=
    fun f hf hnot => lenient_of_judgesWritten haccepted h hf hnot
  intro hsegments
  -- The data with a value in the way, and with nothing written under the name of the field.
  let obstacle := writeAt (parts above) (.bool true) .null
  obtain ⟨x, hx, hcode⟩ :=
    firstMismatch_of_obstacle form.operations hapart hlenient hf hplain hg habove hsegments .null
  have htotal : firstAt f.name (checkFields form.operations (Path.set obstacle f.name .null) ""
      (Path.set obstacle f.name .null) form.fields) = some x :=
    firstAt_checkFields_of_checkProperties hx
  cases ho : (leafOf f).objection? .null with
  | none =>
      -- There is an error where only a failed condition could be one.
      have hlookup := (h f hf obstacle .null).2 ho (FieldError.ofFinding form.messages x)
        (by rw [form.lookup_errors]; exact congrArg _ htotal)
      have hcondition : x.objection.code = .condition := Code.name_injective hlookup
      rw [hcode] at hcondition
      cases hcondition
  | some o =>
      -- The error that is due is no mismatch, but a mismatch comes first.
      obtain ⟨y, hy, hycode⟩ := exists_lookup_errors_iff.mp ((h f hf obstacle .null).1 o ho)
      obtain rfl : x = y := Option.some.inj (htotal.symm.trans hy)
      exact code_of_null ho ((Code.name_injective hycode).symm.trans hcode)

/-- Where no name has an empty part, such names make no difference. -/
theorem unaffected_of_plain (haccepted : form.tree.Accepted)
    (hplain : ∀ f ∈ form.fields, Plain f.name) : Unaffected form.fields := by
  constructor
  · intro g hg hnot
    exact absurd (hplain g hg) hnot
  · intro g hg _ k hk above habove hsegments
    rw [segments_of_plain ((hplain k hk).of_below habove)] at hsegments
    have hgk : ¬ Below k.name g.name :=
      Tree.not_below_of_pairwise_apart haccepted.pairwise_apart hg hk
    exact hgk (parts_injective hsegments ▸ habove)

/-- Values that are written under names without empty parts are judged. -/
theorem judgesWritten_of_plain (haccepted : form.tree.Accepted)
    (hplain : ∀ f ∈ form.fields, Plain f.name) (hf : f ∈ form.fields) : form.JudgesWritten f :=
  judgesWritten_of_unaffected haccepted (unaffected_of_plain haccepted hplain) hf

/-- In an accepted form the values that are written under the names of fields are judged exactly if
names with an empty part make no difference. -/
theorem judges_written_iff_unaffected (haccepted : form.tree.Accepted) :
    (∀ f ∈ form.fields, form.JudgesWritten f) ↔ Unaffected form.fields := by
  constructor
  · intro h
    refine ⟨?_, ?_⟩
    · intro f hf hnot
      exact lenient_of_judgesWritten haccepted h hf hnot
    · intro f hf hplain g hg above habove
      exact unobstructed_of_judgesWritten haccepted h hf hplain hg habove
  · intro h f hf
    exact judgesWritten_of_unaffected haccepted h hf

end Form

namespace Dotted

open Schema FormLogic.Path

/-- A text field with an empty part in its name. -/
def declarations : List Declaration :=
  [.element { kind := some "text", name := some "a..b" } none none]

def field : Field :=
  .single
    { kind := "text", name := "a..b", label := none, defaultValue := none, constraints := none,
      visible := none, dependsOn := none, resetsWithParent := true, metadata := none, extra := [] }
    .generic

def form : Form where
  tree := ⟨[.field field]⟩
  options := {}
  operations := Rule.defaultOperations

theorem accepted_form : form.tree.Accepted := ⟨none, declarations, rfl⟩

/-- A value that is no text goes unnoticed under this name. -/
theorem not_judges_written : ¬ ∀ f ∈ form.fields, form.JudgesWritten f := by
  rw [Form.judges_written_iff_unaffected accepted_form]
  intro h
  have hnot : ¬ Plain field.name := by
    unfold Plain
    decide +kernel
  have hnone := h.lenient field (List.mem_singleton_self _) hnot (.bool true)
  cases hnone

end Dotted

end FormLogic
