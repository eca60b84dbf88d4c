import FormLogic.Proofs.ErrorMap
import FormLogic.Proofs.Policies

/-!
# Errors that block

Where errors of hidden fields are skipped or turned into warnings, an error that still blocks
belongs to a visible field, at whose name it is, or above it or below.  There is one exception: a
value in place of an object that the names of hidden fields lead through.  Its path is covered by no
field, and such a path counts as shown.
-/

namespace FormLogic

namespace Schema

open FormLogic.Path

/-! ### Where errors are -/

/-- The path is at, above or below the place of a field whose name has an empty part. -/
def NearUneven (fields : List Field) (path : String) : Prop :=
  ∃ f ∈ fields, ¬ Plain f.name ∧
    (segments f.name <+: segments path ∨ segments path <+: segments f.name)

variable {operations : Rule.Operations} {scope object : Json} {fields : List Field} {f : Field}
variable {x : Finding}

/-- What is found at a leaf is found at the name of its field or below, unless the name has an empty
part. -/
theorem below_or_uneven_of_mem_leaf (hf : f ∈ fields)
    (hx : x ∈ (leafOf f).check operations scope (under "" (parts f.name)) (valueOf f object)) :
    (x.path = f.name ∨ Below x.path f.name) ∨ NearUneven fields x.path := by
  have hpre : parts (under "" (parts f.name)) <+: parts x.path :=
    parts_prefix_of_mem_leaf_check (leafOf f) hx
  by_cases hplain : Plain f.name
  · rw [under_parts hplain tidy_empty, join_empty_left] at hpre
    exact .inl (parts_prefix_iff.mp hpre)
  · have hsegments := segments_prefix_of_parts hpre
    rw [segments_under_parts] at hsegments
    exact .inr ⟨f, hf, hplain, .inl hsegments⟩

/-- What is found at a value in place of an object is found above the name of its field, unless the
name has an empty part. -/
theorem above_or_uneven_of_blocked (hf : f ∈ fields) {above : String} (habove : Below f.name above)
    (hvalue : isObjectOrAbsent (valueAt (parts above) (some object)) = false) (label : String) :
    (Below f.name (blocked (under "" (parts above)) label).path ∧
        isObjectOrAbsent
          (valueAt (parts (blocked (under "" (parts above)) label).path) (some object)) = false) ∨
      NearUneven fields (blocked (under "" (parts above)) label).path := by
  by_cases hplain : Plain f.name
  · have hpath : under "" (parts above) = above := by
      rw [under_parts (hplain.of_below habove) tidy_empty, join_empty_left]
    rw [hpath]
    exact .inl ⟨habove, hvalue⟩
  · have hsegments : segments (under "" (parts above)) <+: segments f.name := by
      rw [segments_under_parts]
      exact segments_prefix_of_parts (parts_prefix_iff.mpr (.inr habove))
    exact .inr ⟨f, hf, hplain, .inr hsegments⟩

/-- All that is found in the data of a form is found at the name of a field or below, or it is a
value in place of an object above the name of a field, unless a name has an empty part. -/
theorem place_of_mem_checkFields (hapart : fields.Pairwise fun f g => Apart f.name g.name)
    (hx : x ∈ checkFields operations scope "" object fields) :
    (∃ f ∈ fields, x.path = f.name ∨ Below x.path f.name) ∨
      (x.objection.code = .typeMismatch ∧ (∃ f ∈ fields, Below f.name x.path) ∧
        isObjectOrAbsent (valueAt (parts x.path) (some object)) = false) ∨
      NearUneven fields x.path := by
  rw [checkFields, List.mem_append] at hx
  rcases hx with hvalue | hcondition
  · rcases cases_of_mem_checkProperties hapart hvalue with ⟨f, hf, -, hleaf⟩ |
      ⟨f, hf, above, label, habove, -, hblocked, rfl⟩
    · rcases below_or_uneven_of_mem_leaf hf hleaf with hbelow | huneven
      · exact .inl ⟨f, hf, hbelow⟩
      · exact .inr (.inr huneven)
    · rcases above_or_uneven_of_blocked hf habove hblocked label with ⟨hbelow, hmismatch⟩ | huneven
      · exact .inr (.inl ⟨rfl, ⟨f, hf, hbelow⟩, hmismatch⟩)
      · exact .inr (.inr huneven)
  · -- A condition answers at the very name of its field.
    obtain ⟨f, hf, -, rfl⟩ := mem_checkConditions_fields_iff.mp hcondition
    exact .inl ⟨f, hf, .inl (join_empty_left f.name)⟩

end Schema

/-! ### Which errors block -/

/-- An error that blocks although hidden errors do not is an error at a path that is shown. -/
theorem FieldErrors.lookup_of_blocking {policy : Policy} (hpolicy : policy ≠ .validate)
    {state : Visibility} {errors : FieldErrors} {path : String} {e : FieldError}
    (he : Dictionary.lookup path (errors.filter policy state) = some e)
    (hblocking : e.isBlocking = true) :
    state.showsPath path = true ∧ Dictionary.lookup path errors = some e := by
  cases hshown : state.showsPath path with
  | true =>
      rw [lookup_filter_of_showsPath policy hshown] at he
      exact ⟨rfl, he⟩
  | false =>
      cases policy with
      | validate => exact absurd rfl hpolicy
      | skip =>
          rw [lookup_filter_skip, hshown] at he
          cases he
      | warn =>
          rw [lookup_filter_warn, Option.map_eq_some_iff] at he
          obtain ⟨original, -, rfl⟩ := he
          rw [hshown] at hblocking
          cases hblocking

namespace Form

open Schema FormLogic.Path

variable {form : Form} {data : Json}

theorem exists_lookup_visibility {f : Field} (hf : f ∈ form.fields) (data : Json) :
    ∃ shown, Dictionary.lookup f.name (form.visibility data) = some shown :=
  Dictionary.exists_lookup_eq_some_iff.mpr (Visibility.mem_keys_ofTree.mpr ⟨f, hf, rfl⟩)

/-- The path is at, below or above the name of a visible field. -/
def BelongsToVisible (form : Form) (data : Json) (path : String) : Prop :=
  ∃ f ∈ form.fields, Dictionary.lookup f.name (form.visibility data) = some true ∧
    (path = f.name ∨ Below path f.name ∨ Below f.name path)

/-- The path is above the name of a hidden field, and there is a value in place of an object. -/
def ObstructsHidden (form : Form) (data : Json) (path : String) : Prop :=
  (∃ f ∈ form.fields, Dictionary.lookup f.name (form.visibility data) = some false ∧
      Below f.name path) ∧
    isObjectOrAbsent (valueAt (parts path) (some data)) = false

variable {policy : Policy} {path : String} {e : FieldError}

theorem belongs_of_blocking (h : form.tree.Accepted) (hpolicy : policy ≠ .validate)
    (he : Dictionary.lookup path (form.resolveWith policy (form.visibility data) data) = some e)
    (hblocking : e.isBlocking = true) :
    form.BelongsToVisible data path ∨
      (e.code = "type_mismatch" ∧ form.ObstructsHidden data path) ∨
      NearUneven form.fields path := by
  obtain ⟨hshows, herror⟩ := FieldErrors.lookup_of_blocking hpolicy he hblocking
  rw [form.lookup_errors, Option.map_eq_some_iff] at herror
  obtain ⟨x, hx, rfl⟩ := herror
  obtain ⟨hmem, rfl⟩ := mem_of_firstAt_eq_some hx
  rcases place_of_mem_checkFields h.pairwise_apart hmem with ⟨f, hf, hpath⟩ |
    ⟨hcode, ⟨f, hf, hbelow⟩, hmismatch⟩ | huneven
  · -- The path is shown, and so is the field.
    obtain ⟨shown, hshown⟩ := exists_lookup_visibility hf data
    rw [showsPath_of_field h hf hshown hpath] at hshows
    subst hshows
    exact .inl ⟨f, hf, hshown, hpath.imp_right .inl⟩
  · obtain ⟨shown, hshown⟩ := exists_lookup_visibility hf data
    cases shown with
    | true => exact .inl ⟨f, hf, hshown, .inr (.inr hbelow)⟩
    | false =>
        have hname : x.objection.code.name = "type_mismatch" := by rw [hcode]; rfl
        exact .inr (.inl ⟨hname, ⟨f, hf, hshown, hbelow⟩, hmismatch⟩)
  · exact .inr (.inr huneven)

/-- All errors that skipping leaves block. -/
theorem isBlocking_of_skip
    (he : Dictionary.lookup path (form.resolveWith .skip (form.visibility data) data) = some e) :
    e.isBlocking = true := by
  rw [resolveWith, FieldErrors.lookup_filter_skip] at he
  split at he
  · have hseverity : e.severity = .error :=
      severity_of_mem_errors (Dictionary.mem_of_lookup_eq_some he)
    rw [FieldError.isBlocking, hseverity]
    rfl
  · cases he

/-- Where only hidden errors are kept from blocking, each error that blocks belongs to a visible
field, or it is a mismatch above a hidden one, unless a name has an empty part.  If all fields are
hidden, these mismatches are all that skipping leaves and all that blocks. -/
theorem blocking_errors_belong (h : form.tree.Accepted) (data : Json) (policy : Policy)
    (hpolicy : policy ≠ .validate) :
    (∀ path e,
      Dictionary.lookup path (form.resolveWith policy (form.visibility data) data) = some e →
        e.isBlocking = true →
          form.BelongsToVisible data path ∨
            (e.code = "type_mismatch" ∧ form.ObstructsHidden data path) ∨
            NearUneven form.fields path) ∧
      ((∀ f ∈ form.fields, Dictionary.lookup f.name (form.visibility data) = some false) →
        (∀ f ∈ form.fields, Plain f.name) → ∀ path e,
          Dictionary.lookup path (form.resolveWith policy (form.visibility data) data) = some e →
            policy = .skip ∨ e.isBlocking = true →
              e.code = "type_mismatch" ∧ form.ObstructsHidden data path) := by
  refine ⟨fun path e he hblocking => belongs_of_blocking h hpolicy he hblocking, ?_⟩
  intro hhidden hplain path e he hkept
  have hblocking : e.isBlocking = true := by
    rcases hkept with rfl | hblocking
    · exact isBlocking_of_skip he
    · exact hblocking
  rcases belongs_of_blocking h hpolicy he hblocking with ⟨f, hf, hvisible, -⟩ | hmismatch |
    ⟨f, hf, huneven, -⟩
  · rw [hhidden f hf] at hvisible
    cases hvisible
  · exact hmismatch
  · exact absurd (hplain f hf) huneven

end Form

/-! ### A value above a hidden field -/

namespace Concealed

/-- A text that is never shown, below an object. -/
def declarations : List Declaration :=
  [.element { kind := some "text", name := some "a.b", visible := some (.bool false) } none none]

def text : Field :=
  .single { Jobs.plainInfo "text" "a.b" with visible := some (.bool false) } .generic

def form : Form where
  tree := ⟨[.field text]⟩
  options := {}
  operations := Rule.defaultOperations

/-- A number in place of the object. -/
def data : Json := .object [("a", .number (.integer 5))]

theorem accepted_form : form.tree.Accepted := ⟨none, declarations, rfl⟩

theorem hidden_fields :
    ∀ f ∈ form.fields, Dictionary.lookup f.name (form.visibility data) = some false := by
  intro f hf
  rw [List.mem_singleton.mp hf]
  decide +kernel

/-- All fields are hidden, and still there is an error that blocks. -/
theorem number_blocks :
    form.tree.Accepted ∧
      (∀ f ∈ form.fields, Dictionary.lookup f.name (form.visibility data) = some false) ∧
      (Dictionary.lookup "a" (form.resolveWith .skip (form.visibility data) data)).map
          FieldError.isBlocking = some true ∧
      (Dictionary.lookup "a" (form.resolveWith .warn (form.visibility data) data)).map
          FieldError.isBlocking = some true := by
  refine ⟨accepted_form, hidden_fields, ?_, ?_⟩ <;> decide +kernel

/-- The error is a mismatch above the hidden field. -/
theorem number_obstructs : form.ObstructsHidden data "a" := by
  have hplain : ∀ f ∈ form.fields, Path.Plain f.name := by
    intro f hf
    rw [List.mem_singleton.mp hf, Path.Plain]
    decide +kernel
  have hpolicy : Policy.skip ≠ Policy.validate := by decide
  have herror : (Dictionary.lookup "a"
      (form.resolveWith .skip (form.visibility data) data)).isSome = true := by
    decide +kernel
  obtain ⟨e, he⟩ := Option.isSome_iff_exists.mp herror
  have hall := (Form.blocking_errors_belong accepted_form data .skip hpolicy).2 hidden_fields hplain
  exact (hall "a" e he (.inl rfl)).2

end Concealed

end FormLogic
