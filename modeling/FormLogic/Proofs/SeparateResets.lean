import FormLogic.Proofs.Path.Overwriting
import FormLogic.Proofs.Reset

/-!
# Resets at separate paths

The paths of resets may be the same, and may lie within each other.  Whatever they are, the resets
do what certain resets at separate paths do: a reset within the place of an earlier one is merged
into that one, and a reset within the place of a later one is lost.  Resets at separate paths do not
disturb each other, so that to carry them out once more changes nothing.
-/

namespace FormLogic.Reset

open FormLogic.Path

/-- Resets that do what the first one does followed by the others, where the first one is merged
with those that it meets. -/
def merge (r : Reset) : List Reset → List Reset
  | [] => [r]
  | s :: resets =>
      if segments r.field <+: segments s.field then
        let rest := (segments s.field).drop (segments r.field).length
        merge ⟨r.field, writeAt rest s.value r.value⟩ resets
      else if segments s.field <+: segments r.field then s :: resets
      else s :: merge r resets

/-- Resets at separate paths that do what the given ones do. -/
def merged (resets : List Reset) : List Reset :=
  resets.foldr merge []

variable {r : Reset} {resets : List Reset}

theorem applyAll_merge (r : Reset) (resets : List Reset) (data : Json) :
    applyAll data (merge r resets) = applyAll data (r :: resets) := by
  fun_induction merge r resets generalizing data with
  | case1 r => rfl
  | case2 r s resets hwithin rest ih =>
      have hrest : segments r.field ++ rest = segments s.field :=
        List.prefix_iff_eq_append.mp hwithin
      rw [ih, applyAll_cons, applyAll_cons, applyAll_cons, set_set_within hrest]
  | case3 r s resets hwithin habove =>
      rw [applyAll_cons, applyAll_cons, applyAll_cons, set_set_above habove]
  | case4 r s resets hwithin habove ih =>
      have hsep : Separate r.field s.field := ⟨hwithin, habove⟩
      rw [applyAll_cons, ih, applyAll_cons, applyAll_cons, applyAll_cons, hsep.set_comm]

/-- Merging brings no new paths. -/
theorem field_of_mem_merge {m : Reset} (h : m ∈ merge r resets) :
    m.field = r.field ∨ ∃ s ∈ resets, m.field = s.field := by
  fun_induction merge r resets with
  | case1 r =>
      rw [List.mem_singleton.mp h]
      exact Or.inl rfl
  | case2 r s resets hwithin rest ih =>
      rcases ih h with hfield | ⟨t, ht, hfield⟩
      · exact Or.inl hfield
      · exact Or.inr ⟨t, List.mem_cons_of_mem _ ht, hfield⟩
  | case3 r s resets hwithin habove => exact Or.inr ⟨m, h, rfl⟩
  | case4 r s resets hwithin habove ih =>
      rcases List.mem_cons.mp h with rfl | h
      · exact Or.inr ⟨m, List.mem_cons_self .., rfl⟩
      · rcases ih h with hfield | ⟨t, ht, hfield⟩
        · exact Or.inl hfield
        · exact Or.inr ⟨t, List.mem_cons_of_mem _ ht, hfield⟩

theorem pairwise_merge (h : resets.Pairwise fun r s => Separate r.field s.field) :
    (merge r resets).Pairwise fun r s => Separate r.field s.field := by
  fun_induction merge r resets with
  | case1 r => exact List.pairwise_singleton _ _
  | case2 r s resets hwithin rest ih => exact ih (List.pairwise_cons.mp h).2
  | case3 r s resets hwithin habove => exact h
  | case4 r s resets hwithin habove ih =>
      obtain ⟨hs, hresets⟩ := List.pairwise_cons.mp h
      refine List.pairwise_cons.mpr ⟨?_, ih hresets⟩
      intro m hm
      rcases field_of_mem_merge hm with hfield | ⟨t, ht, hfield⟩
      · rw [hfield]
        exact ⟨habove, hwithin⟩
      · rw [hfield]
        exact hs t ht

theorem pairwise_merged (resets : List Reset) :
    (merged resets).Pairwise fun r s => Separate r.field s.field := by
  induction resets with
  | nil => exact List.Pairwise.nil
  | cons r resets ih => exact pairwise_merge ih

theorem applyAll_merged (resets : List Reset) (data : Json) :
    applyAll data (merged resets) = applyAll data resets := by
  induction resets generalizing data with
  | nil => rfl
  | cons r resets ih =>
      have hmerged : merged (r :: resets) = merge r (merged resets) := rfl
      rw [hmerged, applyAll_merge, applyAll_cons, applyAll_cons, ih]

/-! ### Resets carried out again -/

/-- A reset can be put off until after others at separate paths. -/
theorem applyAll_set (h : ∀ s ∈ resets, Separate r.field s.field) (data : Json) :
    applyAll (Path.set data r.field r.value) resets =
      Path.set (applyAll data resets) r.field r.value := by
  induction resets generalizing data with
  | nil => rfl
  | cons s resets ih =>
      rw [List.forall_mem_cons] at h
      rw [applyAll_cons, applyAll_cons, ← h.1.set_comm, ih h.2]

theorem applyAll_applyAll_of_pairwise
    (h : resets.Pairwise fun r s => Separate r.field s.field) (data : Json) :
    applyAll (applyAll data resets) resets = applyAll data resets := by
  induction resets generalizing data with
  | nil => rfl
  | cons r resets ih =>
      obtain ⟨hr, hresets⟩ := List.pairwise_cons.mp h
      -- The first reset is the last one, too, and its value is there already.
      have hlast : Path.set (applyAll (Path.set data r.field r.value) resets) r.field r.value =
          applyAll (Path.set data r.field r.value) resets := by
        rw [applyAll_set hr, set_set_above List.prefix_rfl]
      rw [applyAll_cons, applyAll_cons, hlast, ih hresets]

/-- Resets that are carried out once more change nothing, whatever their paths.  Resets at separate
paths can be carried out in any order, and the value of each of them is read afterwards. -/
theorem applyAll_idempotent (data : Json) (resets : List Reset) :
    applyAll (applyAll data resets) resets = applyAll data resets ∧
      ((resets.Pairwise fun r s => Separate r.field s.field) →
        ∀ resets', resets'.Perm resets →
          applyAll data resets' = applyAll data resets ∧
            ∀ r ∈ resets', Path.get (applyAll data resets') r.field = some r.value) := by
  refine ⟨?_, ?_⟩
  · simp only [← applyAll_merged resets]
    exact applyAll_applyAll_of_pairwise (pairwise_merged resets) data
  · intro hsep resets' hperm
    have heq : applyAll data resets' = applyAll data resets :=
      (applyAll_perm hsep hperm.symm data).symm
    refine ⟨heq, ?_⟩
    intro r hr
    rw [heq]
    exact get_applyAll_of_mem hsep (hperm.subset hr) data

end FormLogic.Reset

namespace FormLogic.Sheet

def zip : Reset := ⟨"place.zip", .text "01001"⟩

def note : Reset := ⟨"rows.note", .text ""⟩

theorem resets_in_either_order :
    Reset.applyAll data [note, zip] = Reset.applyAll data [zip, note] ∧
      Path.get (Reset.applyAll data [note, zip]) "place.zip" = some (.text "01001") := by
  have hsep : [zip, note].Pairwise fun r s => Path.Separate r.field s.field := by
    unfold Path.Separate
    decide +kernel
  obtain ⟨horder, hread⟩ :=
    (Reset.applyAll_idempotent data [zip, note]).2 hsep [note, zip] (List.Perm.swap zip note [])
  exact ⟨horder, hread zip (by simp)⟩

end FormLogic.Sheet
