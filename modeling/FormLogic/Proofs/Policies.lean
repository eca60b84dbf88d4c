import FormLogic.Proofs.Schema.FirstFindings
import FormLogic.Proofs.Tree.Acceptance
import FormLogic.Proofs.Visibility

/-!
# Policies for hidden fields

What each policy makes of the errors at and below a field depends on the visibility of that field
alone.  The policies are tied to each other: skipping leaves those errors that warning keeps as
errors, and warning reports what validating reports.
-/

namespace FormLogic

namespace Form

variable {form : Form} {data : Json}

/-- The visibility of a path at or below a field is that of the field. -/
theorem showsPath_of_field (h : form.tree.Accepted) {f : Field} (hf : f ∈ form.fields)
    {shown : Bool} (hshown : Dictionary.lookup f.name (form.visibility data) = some shown)
    {path : String} (hpath : path = f.name ∨ Path.Below path f.name) :
    (form.visibility data).showsPath path = shown := by
  apply Visibility.showsPath_of_unique_owner hshown hpath
  intro owner howner hkey
  obtain ⟨g, hg, rfl⟩ := Visibility.mem_keys_ofTree.mp hkey
  rw [h.owner_unique hg hf howner hpath]

end Form

namespace FieldErrors

variable {state : Visibility} {errors : FieldErrors}

theorem lookup_filter_skip (path : String) :
    Dictionary.lookup path (filter .skip state errors) =
      if state.showsPath path then Dictionary.lookup path errors else none :=
  Dictionary.lookup_filter state.showsPath path errors

theorem lookup_filter_warn (path : String) :
    Dictionary.lookup path (filter .warn state errors) =
      (Dictionary.lookup path errors).map fun e =>
        if state.showsPath path then e else { e with severity := .warning } := by
  rw [filter, Dictionary.lookup_mapValues]

/-- No policy touches an error at a path that is shown. -/
theorem lookup_filter_of_showsPath (policy : Policy) {path : String}
    (h : state.showsPath path = true) :
    Dictionary.lookup path (filter policy state errors) = Dictionary.lookup path errors := by
  cases policy with
  | skip => rw [lookup_filter_skip, if_pos h]
  | validate => rfl
  | warn => simp [lookup_filter_warn, h]

theorem ascending_filter (policy : Policy) (h : Dictionary.Ascending errors) :
    Dictionary.Ascending (filter policy state errors) := by
  cases policy with
  | skip => exact List.Pairwise.filter _ h
  | warn =>
      rw [filter]
      exact h.mapValues _
  | validate => exact h

/-- Of errors, skipping leaves those that warning does not turn into warnings. -/
theorem filter_skip_eq (h : ∀ entry ∈ errors, entry.2.severity = .error) :
    filter .skip state errors =
      List.filter (fun entry => entry.2.severity == .error) (filter .warn state errors) := by
  induction errors with
  | nil => rfl
  | cons entry errors ih =>
      rw [List.forall_mem_cons] at h
      have hrest := ih h.2
      -- An error at a path that is hidden is left out on both sides.
      simp only [filter, Dictionary.mapValues] at hrest ⊢
      cases hshown : state.showsPath entry.1 with
      | true => simp [hshown, h.1, hrest]
      | false => simp [hshown, hrest]

/-- Warning changes severities only. -/
theorem map_filter_warn :
    (filter .warn state errors).map (fun entry => (entry.1, entry.2.code, entry.2.message)) =
      errors.map fun entry => (entry.1, entry.2.code, entry.2.message) := by
  simp only [filter, Dictionary.mapValues, List.map_map, List.map_inj_left]
  intro entry _
  cases hshown : state.showsPath entry.1 <;> simp [hshown]

theorem filter_filter (policy : Policy) :
    filter policy state (filter policy state errors) = filter policy state errors := by
  cases policy with
  | skip => simp [filter, List.filter_filter]
  | validate => rfl
  | warn =>
      simp only [filter, Dictionary.mapValues, List.map_map, List.map_inj_left]
      intro entry _
      cases hshown : state.showsPath entry.1 <;> simp [hshown]

/-- Whether an error is left that blocks does not depend on whether hidden errors are skipped or
turned into warnings. -/
theorem blocks_filter_skip (h : ∀ entry ∈ errors, entry.2.severity = .error) :
    (filter .skip state errors).blocks = (filter .warn state errors).blocks := by
  rw [filter_skip_eq h, blocks, blocks, List.any_filter]
  simp only [FieldError.isBlocking, Bool.and_self]

/-- No policy makes an error blocking. -/
theorem blocks_filter_of_blocks (policy : Policy) (h : (filter policy state errors).blocks = true) :
    errors.blocks = true := by
  rw [blocks, List.any_eq_true] at h ⊢
  obtain ⟨entry, hmem, hblocking⟩ := h
  cases policy with
  | skip => exact ⟨entry, List.mem_of_mem_filter hmem, hblocking⟩
  | validate => exact ⟨entry, hmem, hblocking⟩
  | warn =>
      -- Where a warning has been made of an error, it blocks no longer.
      obtain ⟨original, horiginal, rfl⟩ := List.mem_map.mp hmem
      refine ⟨original, horiginal, ?_⟩
      cases hshown : state.showsPath original.1 with
      | true => simpa [hshown] using hblocking
      | false => simp [hshown, FieldError.isBlocking] at hblocking

end FieldErrors

/-- What the policies make of the errors at and below a hidden field and a visible one, and how they
relate to each other for any errors. -/
theorem Form.policies_respect_visibility {form : Form} (h : form.tree.Accepted) (data : Json) :
    (∀ f ∈ form.fields, Dictionary.lookup f.name (form.visibility data) = some false →
      ∀ path, (path = f.name ∨ Path.Below path f.name) →
        path ∉ (form.resolveWith .skip (form.visibility data) data).keys ∧
          ∀ e, Dictionary.lookup path (form.errors data) = some e →
            Dictionary.lookup path (form.resolveWith .warn (form.visibility data) data) =
              some { e with severity := .warning }) ∧
      (∀ f ∈ form.fields, Dictionary.lookup f.name (form.visibility data) = some true →
        ∀ path, (path = f.name ∨ Path.Below path f.name) →
          ∀ e, Dictionary.lookup path (form.errors data) = some e →
            e.severity = .error ∧ ∀ policy,
              Dictionary.lookup path (form.resolveWith policy (form.visibility data) data) =
                some e) ∧
      ∀ (errors : FieldErrors) (state : Visibility),
        (∀ entry ∈ errors, entry.2.severity = .error) →
          errors.filter .skip state =
              List.filter (fun entry => entry.2.severity == .error) (errors.filter .warn state) ∧
            (errors.filter .warn state).map
                (fun entry => (entry.1, entry.2.code, entry.2.message)) =
              (errors.filter .validate state).map
                (fun entry => (entry.1, entry.2.code, entry.2.message)) ∧
            (∀ policy, (errors.filter policy state).filter policy state =
              errors.filter policy state) ∧
            (errors.filter .skip state).blocks = (errors.filter .warn state).blocks ∧
            ((errors.filter .validate state).blocks = false →
              ∀ policy, (errors.filter policy state).blocks = false) := by
  refine ⟨?_, ?_, ?_⟩
  · intro f hf hhidden path hpath
    have hshown := showsPath_of_field h hf hhidden hpath
    refine ⟨?_, ?_⟩
    · rw [← Dictionary.lookup_eq_none_iff, resolveWith, FieldErrors.lookup_filter_skip, hshown]
      rfl
    · intro e he
      rw [resolveWith, FieldErrors.lookup_filter_warn, he, hshown]
      rfl
  · intro f hf hvisible path hpath e he
    have hshown := showsPath_of_field h hf hvisible hpath
    refine ⟨severity_of_mem_errors (Dictionary.mem_of_lookup_eq_some he), ?_⟩
    intro policy
    rw [resolveWith, FieldErrors.lookup_filter_of_showsPath policy hshown, he]
  · intro errors state herrors
    refine ⟨FieldErrors.filter_skip_eq herrors, FieldErrors.map_filter_warn,
      FieldErrors.filter_filter, FieldErrors.blocks_filter_skip herrors, ?_⟩
    intro hnone policy
    rw [← Bool.not_eq_true] at hnone ⊢
    exact mt (FieldErrors.blocks_filter_of_blocks policy) hnone

/-- There is an error at the note that is never shown, and it is skipped. -/
theorem Jobs.note_is_skipped :
    "note" ∈ (form.errors (.object [])).keys ∧
      "note" ∉ (form.resolveWith .skip (form.visibility (.object [])) (.object [])).keys := by
  refine ⟨by decide +kernel, ?_⟩
  have hnote : note ∈ form.fields := List.mem_cons_of_mem _ (List.mem_singleton_self _)
  have hhidden : Dictionary.lookup note.name (form.visibility (.object [])) = some false := by
    decide +kernel
  exact ((Form.policies_respect_visibility accepted_form (.object [])).1 note hnote hhidden
    "note" (Or.inl rfl)).1

end FormLogic
