import FormLogic.Proofs.FreshData
import FormLogic.Proofs.Path.Merging

/-!
# Fresh data with overrides

The data of a fresh form hold the reset value of each field.  Overrides are merged into them: each
value of the overrides is there, down to those that are not objects, and a field that the overrides
do not name keeps its reset value, unless something other than an object stands above it there.
-/

namespace FormLogic

/-- Resets leave an object if each of them is at a place within the data. -/
theorem Reset.exists_applyAll_eq_object {resets : List Reset}
    (h : ∀ r ∈ resets, Path.segments r.field ≠ []) (entries : Dictionary Json) :
    ∃ left, applyAll (.object entries) resets = .object left := by
  induction resets generalizing entries with
  | nil => exact ⟨entries, rfl⟩
  | cons r resets ih =>
      rw [List.forall_mem_cons] at h
      obtain ⟨key, rest, hfield⟩ := List.exists_cons_of_ne_nil h.1
      rw [applyAll_cons, Path.set, hfield, Path.writeAt]
      exact ih h.2 _

namespace Form

open FormLogic.Path

/-- Fresh data hold the reset values of all fields, and an empty object overrides none of them.
Each value of the overrides that is not an object is read where it is in the overrides.  A field
that they have no value for, below objects alone, keeps its reset value. -/
theorem initialData_holds {form : Form} (h : form.tree.Accepted)
    (hplain : ∀ f ∈ form.fields, Plain f.name) :
    (∀ f ∈ form.fields, get (form.initialData .null) f.name = some f.resetValue) ∧
      form.initialData (.object []) = form.initialData .null ∧
      ∀ overrides : Dictionary Json,
        (∀ path value, get (.object overrides) path = some value →
          (∀ entries, value ≠ .object entries) →
            get (form.initialData (.object overrides)) path = some value) ∧
        (∀ f ∈ form.fields, get (.object overrides) f.name = none →
          (∀ above, Below f.name above → ∀ value, get (.object overrides) above = some value →
            ∃ entries, value = .object entries) →
              get (form.initialData (.object overrides)) f.name = some f.resetValue) := by
  have hseparate : form.SeparatesFields := separatesFields_of_plain h hplain
  have hmerge : ∀ overrides, form.initialData (.object overrides) =
      merge (form.initialData .null) (.object overrides) := fun _ => rfl
  refine ⟨?_, ?_, ?_⟩
  · intro f hf
    exact hseparate.keepsResets.get_initialData h hf
  · have hresets : ∀ r ∈ form.resets, segments r.field ≠ [] := by
      intro r hr
      obtain ⟨f, hf, rfl⟩ := List.mem_map.mp hr
      show segments f.name ≠ []
      rw [segments_of_plain (hplain f hf)]
      exact parts_ne_nil f.name
    obtain ⟨left, hleft⟩ : ∃ left, form.initialData .null = .object left :=
      Reset.exists_applyAll_eq_object hresets []
    rw [hmerge, hleft, merge_object, mergeEntries]
  · intro overrides
    rw [hmerge]
    refine ⟨?_, ?_⟩
    · intro path value hread hvalue
      exact readAt_merge_of_overlay hread hvalue
    · intro f hf hnone habove
      exact get_merge_of_missing (hplain f hf) (hseparate.valueAt_initialData h hf) hnone habove

end Form

/-! ### An address with a default -/

namespace Address

open FormLogic.Path

def declarations : List Declaration :=
  [.element { kind := some "text", name := some "address.country" } none none,
    .element { kind := some "text", name := some "address.district",
               defaultValue := some (.text "center") } none none]

def country : Field := .single (Jobs.plainInfo "text" "address.country") .generic

def district : Field :=
  .single { Jobs.plainInfo "text" "address.district" with defaultValue := some (.text "center") }
    .generic

def form : Form where
  tree := ⟨[.field country, .field district]⟩
  options := {}
  operations := Rule.defaultOperations

theorem accepted_form : form.tree.Accepted := ⟨none, declarations, rfl⟩

/-- A country, and an entry that no field is named for. -/
def overrides : Dictionary Json :=
  [("address", .object [("country", .text "ua")]), ("extra", .ofNat 1)]

/-- The country is overridden, the district beside it keeps its default. -/
theorem country_is_overridden :
    get (form.initialData .null) "address.country" = some (.text "") ∧
      form.initialData (.object []) = form.initialData .null ∧
      get (form.initialData (.object overrides)) "address.country" = some (.text "ua") ∧
      get (form.initialData (.object overrides)) "address.district" = some (.text "center") := by
  have hplain : ∀ f ∈ form.fields, Plain f.name := Form.plain_of_names (by decide +kernel)
  obtain ⟨hdefaults, hempty, hoverrides⟩ := Form.initialData_holds accepted_form hplain
  obtain ⟨hkept, hmissing⟩ := hoverrides overrides
  have hcountry : country ∈ form.fields := List.mem_cons_self ..
  have hdistrict : district ∈ form.fields := List.mem_cons_of_mem _ (List.mem_singleton_self _)
  have habove : ∀ above, Below "address.district" above → ∀ value,
      get (.object overrides) above = some value → ∃ entries, value = .object entries := by
    intro above hbelow value hvalue
    obtain ⟨rest, hrest, hparts⟩ := below_iff_parts.mp hbelow
    have hkeys : parts "address.district" = ["address"] ++ ["district"] := by decide +kernel
    have haddress : parts "address" = ["address"] := by decide +kernel
    rw [hkeys] at hparts
    -- Each side of the two keys has one, as neither is empty.
    have hlength : ["address"].length = (parts above).length := by
      have hall := congrArg List.length hparts
      have hfirst := List.length_pos_iff.mpr (parts_ne_nil above)
      have hlast := List.length_pos_iff.mpr hrest
      simp only [List.length_append, List.length_singleton] at hall ⊢
      omega
    obtain ⟨hfront, -⟩ := List.append_inj hparts hlength
    obtain rfl : "address" = above := parts_injective (haddress.trans hfront)
    cases hvalue
    exact ⟨_, rfl⟩
  exact ⟨hdefaults country hcountry, hempty, hkept "address.country" _ rfl nofun,
    hmissing district hdistrict rfl habove⟩

end Address

end FormLogic
