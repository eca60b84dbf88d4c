import FormLogic.Proofs.Tree.Acceptance
import FormLogic.Proofs.Visibility

/-!
# The closest owner of a path

Whether a path is visible is looked up under the path itself, then under what stands before its last
dot, and so on.  The longest name of the state that is met on this way decides, and a path on whose
way there is none is visible.  In the state of an accepted form there is at most one name on the way
of each path.
-/

namespace FormLogic

namespace Visibility

/-- A path is as visible as its closest owner, and visible if it has none; this is found out by one
look-up more than the path has dots, at most.  Where the names in the state are those of the fields
of an accepted form, a path has at most one owner. -/
theorem closest_owner_decides (state : Visibility) (path : String) :
    (owners path).length = path.toList.count '.' + 1 ∧
      (∀ owner, IsClosestOwner state path owner →
        Dictionary.lookup owner state = some (state.showsPath path)) ∧
      ((∃ owner ∈ Dictionary.keys state, path = owner ∨ Path.Below path owner) →
        ∃ owner, IsClosestOwner state path owner) ∧
      ((∀ owner ∈ Dictionary.keys state, ¬ (path = owner ∨ Path.Below path owner)) →
        state.showsPath path = true) ∧
      ∀ t : Tree, t.Accepted →
        (∀ name, name ∈ Dictionary.keys state ↔ ∃ f ∈ t.fields, f.name = name) →
          ∀ owner ∈ Dictionary.keys state, ∀ other ∈ Dictionary.keys state,
            (path = owner ∨ Path.Below path owner) → (path = other ∨ Path.Below path other) →
              owner = other := by
  refine ⟨length_owners path, ?_, ?_, ?_, ?_⟩
  · intro owner howner
    rcases decided_or_visible state path with ⟨closest, hclosest, hshown⟩ | ⟨hnone, -⟩
    · rwa [howner.unique hclosest]
    · exact absurd howner.owns (hnone owner howner.entered)
  · rintro ⟨owner, howner, howns⟩
    rcases decided_or_visible state path with ⟨closest, hclosest, -⟩ | ⟨hnone, -⟩
    · exact ⟨closest, hclosest⟩
    · exact absurd howns (hnone owner howner)
  · intro hnone
    rcases decided_or_visible state path with ⟨closest, hclosest, -⟩ | ⟨-, hshown⟩
    · exact absurd hclosest.owns (hnone closest hclosest.entered)
    · exact hshown
  · intro t haccepted hkeys owner howner other hother howns hother_owns
    obtain ⟨f, hf, rfl⟩ := (hkeys owner).mp howner
    obtain ⟨g, hg, rfl⟩ := (hkeys other).mp hother
    rw [haccepted.owner_unique hf hg howns hother_owns]

end Visibility

/-! ### The zip code of a job -/

namespace Jobs

/-- The list of jobs is the only field that owns what is entered in its items, so that the zip code
of a job is as visible as the list. -/
theorem zip_shows_as_jobs (data : Json) :
    (∀ name ∈ Dictionary.keys (form.visibility data),
        "jobs.0.at.zip" = name ∨ Path.Below "jobs.0.at.zip" name → name = "jobs") ∧
      Dictionary.lookup "jobs" (form.visibility data) =
        some ((form.visibility data).showsPath "jobs.0.at.zip") := by
  have hkeys : ∀ name, name ∈ Dictionary.keys (form.visibility data) ↔
      ∃ f ∈ form.tree.fields, f.name = name := fun name => Visibility.mem_keys_ofTree
  have hjobs : "jobs" ∈ Dictionary.keys (form.visibility data) :=
    (hkeys "jobs").mpr ⟨jobs, List.mem_cons_self .., rfl⟩
  have howns : "jobs.0.at.zip" = "jobs" ∨ Path.Below "jobs.0.at.zip" "jobs" :=
    Or.inr ⟨"0.at.zip", rfl⟩
  obtain ⟨-, hdecides, hexists, -, hunique⟩ :=
    Visibility.closest_owner_decides (form.visibility data) "jobs.0.at.zip"
  have hname : ∀ name ∈ Dictionary.keys (form.visibility data),
      "jobs.0.at.zip" = name ∨ Path.Below "jobs.0.at.zip" name → name = "jobs" := by
    intro name hname hname_owns
    exact hunique form.tree accepted_form hkeys name hname "jobs" hjobs hname_owns howns
  obtain ⟨owner, hclosest⟩ := hexists ⟨"jobs", hjobs, howns⟩
  obtain rfl : owner = "jobs" := hname owner hclosest.entered hclosest.owns
  exact ⟨hname, hdecides "jobs" hclosest⟩

end Jobs

end FormLogic
