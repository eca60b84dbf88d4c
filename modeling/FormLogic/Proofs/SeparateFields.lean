import FormLogic.Proofs.Reset

/-!
# Fields with places of their own

The names of an accepted form lie apart as texts.  Their places in the data are separate exactly if
the names still lie apart once empty parts are left out, and this is what it takes for no field to
be overwritten when others are written.
-/

namespace FormLogic

namespace Form

open FormLogic.Path

/-- The names of different fields lead to separate places in the data. -/
def SeparatesFields (form : Form) : Prop :=
  ∀ f ∈ form.fields, ∀ g ∈ form.fields, f ≠ g →
    segments f.name ≠ [] ∧ segments g.name ≠ [] ∧ Separate f.name g.name

/-- A value that a reset leaves at the name of a field stays there when other fields are reset. -/
def KeepsResets (form : Form) : Prop :=
  ∀ (data : Json) (front back : List Reset) (r : Reset), (∃ f ∈ form.fields, f.name = r.field) →
    (∀ s ∈ back, s.field ≠ r.field ∧ ∃ g ∈ form.fields, g.name = s.field) →
      Path.get (Reset.applyAll data (front ++ r :: back)) r.field = some r.value

variable {form : Form}

theorem separatesFields_of_separate
    (h : ∀ f ∈ form.fields, ∀ g ∈ form.fields, f ≠ g → Separate f.name g.name) :
    form.SeparatesFields := by
  intro f hf g hg hne
  have hsep := h f hf g hg hne
  exact ⟨hsep.segments_ne_nil, hsep.symm.segments_ne_nil, hsep⟩

theorem SeparatesFields.separate_of_ne (h : form.SeparatesFields) {f g : Field}
    (hf : f ∈ form.fields) (hg : g ∈ form.fields) (hne : f.name ≠ g.name) :
    Separate f.name g.name :=
  (h f hf g hg fun heq => hne (congrArg Field.name heq)).2.2

theorem plain_of_names (h : ∀ name ∈ form.fields.map Field.name, "" ∉ parts name) :
    ∀ f ∈ form.fields, Plain f.name := by
  intro f hf
  exact h f.name (List.mem_map_of_mem hf)

/-- Names without empty parts lead to separate places. -/
theorem separatesFields_of_plain (haccepted : form.tree.Accepted)
    (hplain : ∀ f ∈ form.fields, Plain f.name) : form.SeparatesFields := by
  have hsymm : Std.Symm fun f g : Field => Apart f.name g.name := ⟨fun _ _ h => h.symm⟩
  apply separatesFields_of_separate
  intro f hf g hg hne
  have hapart : Apart f.name g.name := haccepted.pairwise_apart.forall hf hg hne
  exact hapart.separate (hplain f hf) (hplain g hg)

theorem SeparatesFields.keepsResets (h : form.SeparatesFields) : form.KeepsResets := by
  rintro data front back r ⟨f, hf, hname⟩ hback
  apply Reset.get_applyAll
  intro s hs
  obtain ⟨hne, g, hg, hgname⟩ := hback s hs
  rw [← hname, ← hgname] at hne ⊢
  exact h.separate_of_ne hf hg hne.symm

theorem KeepsResets.separatesFields (haccepted : form.tree.Accepted) (h : form.KeepsResets) :
    form.SeparatesFields := by
  apply separatesFields_of_separate
  intro f hf g hg hne
  have hname : g.name ≠ f.name :=
    fun heq => hne (Tree.eq_of_name_eq haccepted.names_nodup hf hg heq.symm)
  -- The two fields are reset one after the other.
  apply separate_of_get_set_set
  intro value new data
  refine h data [] [⟨g.name, new⟩] ⟨f.name, value⟩ ⟨f, hf, rfl⟩ ?_
  intro s hs
  rw [List.mem_singleton.mp hs]
  exact ⟨hname, g, hg, rfl⟩

/-- The data of a fresh form are left by the resets of its fields in their order, so that those of
other fields come before and after that of each field. -/
theorem exists_resets_of_mem (haccepted : form.tree.Accepted) {f : Field} (hf : f ∈ form.fields) :
    ∃ front back, form.initialData .null =
        Reset.applyAll (.object []) (front ++ f.reset :: back) ∧
      ∀ s ∈ back, s.field ≠ f.name ∧ ∃ g ∈ form.fields, g.name = s.field := by
  obtain ⟨front, back, hfields⟩ := List.append_of_mem hf
  have hnodup : ((front ++ f :: back).map Field.name).Nodup := hfields ▸ haccepted.names_nodup
  refine ⟨front.map Field.reset, back.map Field.reset, ?_, ?_⟩
  · rw [initialData, resets, hfields, List.map_append, List.map_cons]
  · intro s hs
    obtain ⟨g, hg, rfl⟩ := List.mem_map.mp hs
    have hmem : g ∈ form.fields := hfields ▸ List.mem_append_right _ (List.mem_cons_of_mem _ hg)
    rw [List.map_append, List.map_cons, List.nodup_append, List.nodup_cons] at hnodup
    have hne : g.name ≠ f.name := by
      intro heq
      exact hnodup.2.1.1 (heq ▸ List.mem_map_of_mem hg)
    exact ⟨hne, g, hmem, rfl⟩

/-- The data of a fresh form hold the reset value of each field. -/
theorem KeepsResets.get_initialData (haccepted : form.tree.Accepted) (h : form.KeepsResets)
    {f : Field} (hf : f ∈ form.fields) :
    Path.get (form.initialData .null) f.name = some f.resetValue := by
  obtain ⟨front, back, hresets, hback⟩ := exists_resets_of_mem haccepted hf
  rw [hresets]
  exact h _ front back f.reset ⟨f, hf, rfl⟩ hback

/-- The names of different fields of an accepted form lead to separate places exactly if the names
lie apart once empty parts are left out, as they do where no name has one.  Nothing that is reset is
overwritten exactly in these forms, and their initial data hold the reset value of each field. -/
theorem separates_fields_iff (h : form.tree.Accepted) :
    (form.SeparatesFields ↔
        ∀ f ∈ form.fields, ∀ g ∈ form.fields, f ≠ g →
          condensed f.name ≠ "" ∧ condensed g.name ≠ "" ∧
            Apart (condensed f.name) (condensed g.name)) ∧
      ((∀ f ∈ form.fields, Plain f.name) → form.SeparatesFields) ∧
      (form.SeparatesFields ↔ form.KeepsResets) ∧
      (form.SeparatesFields → ∀ f ∈ form.fields,
        Path.get (form.initialData .null) f.name = some f.resetValue) := by
  refine ⟨⟨?_, ?_⟩, separatesFields_of_plain h, ⟨?_, ?_⟩, ?_⟩
  · intro hsep f hf g hg hne
    exact separate_iff_condensed.mp (hsep f hf g hg hne).2.2
  · intro hcondensed
    apply separatesFields_of_separate
    intro f hf g hg hne
    exact separate_iff_condensed.mpr (hcondensed f hf g hg hne)
  · exact SeparatesFields.keepsResets
  · exact KeepsResets.separatesFields h
  · intro hsep f hf
    exact hsep.keepsResets.get_initialData h hf

end Form

/-! ### Two spellings of one place -/

namespace Spellings

/-- Two text fields whose names differ by an empty part. -/
def declarations : List Declaration :=
  [.element { kind := some "text", name := some "a.b" } none none,
    .element { kind := some "text", name := some "a..b" } none none]

def short : Field := .single (Jobs.plainInfo "text" "a.b") .generic

def long : Field := .single (Jobs.plainInfo "text" "a..b") .generic

def form : Form where
  tree := ⟨[.field short, .field long]⟩
  options := {}
  operations := Rule.defaultOperations

theorem accepted_form : form.tree.Accepted := ⟨none, declarations, rfl⟩

/-- A reset of the one field overwrites the other. -/
theorem not_keepsResets : ¬ form.KeepsResets := by
  have hshort : short ∈ form.fields := List.mem_cons_self ..
  have hlong : long ∈ form.fields := List.mem_cons_of_mem _ (List.mem_singleton_self _)
  have hne : short ≠ long := by
    intro heq
    exact absurd (congrArg Field.name heq) (by decide)
  have hsame : Path.segments long.name = Path.segments short.name := by decide +kernel
  rw [← (Form.separates_fields_iff accepted_form).2.2.1]
  intro hsep
  exact (hsep short hshort long hlong hne).2.2.2 (hsame ▸ List.prefix_rfl)

end Spellings

end FormLogic
