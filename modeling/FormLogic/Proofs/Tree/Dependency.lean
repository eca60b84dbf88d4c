import FormLogic.Proofs.Dictionary
import FormLogic.Tree.Check
import Mathlib.Dynamics.PeriodicPts.Lemmas
import Mathlib.Logic.Relation

/-!
# Chains of dependencies

The walk from a field to the field that it depends on, and on from there, is bounded by the number
of dependent fields.  The bound is large enough: a walk that ever comes back to where it began does
so within that number of steps, because the fields on its way are different from each other.
-/

namespace FormLogic.Tree

/-- One step up a chain of dependencies, which ends where there is no further parent. -/
def climb (parents : Dictionary String) (name : Option String) : Option String :=
  name.bind fun n => Dictionary.lookup n parents

@[simp] theorem climb_none (parents : Dictionary String) : climb parents none = none := rfl

@[simp] theorem climb_some (parents : Dictionary String) (name : String) :
    climb parents (some name) = Dictionary.lookup name parents := rfl

theorem iterate_climb_none (parents : Dictionary String) (n : Nat) :
    (climb parents)^[n] none = none :=
  Function.iterate_fixed (climb_none parents) n

/-- The bounded walk finds its target exactly if the target is that many steps away. -/
theorem leadsTo_eq_true_iff {parents : Dictionary String} {target : String} {steps : Nat}
    {name : String} :
    leadsTo parents target steps name = true ↔
      ∃ k < steps, (climb parents)^[k + 1] (some name) = some target := by
  induction steps generalizing name with
  | zero => simp [leadsTo]
  | succ steps ih =>
      simp only [leadsTo]
      cases hparent : Dictionary.lookup name parents with
      | none =>
          simp only [Bool.false_eq_true, false_iff, not_exists, not_and]
          intro k _ hk
          rw [Function.iterate_succ_apply, climb_some, hparent, iterate_climb_none] at hk
          cases hk
      | some parent =>
          simp only [Bool.or_eq_true, beq_iff_eq, ih]
          constructor
          · rintro (rfl | ⟨k, hk, hreach⟩)
            · exact ⟨0, Nat.succ_pos steps, hparent⟩
            · refine ⟨k + 1, Nat.succ_lt_succ hk, ?_⟩
              rw [Function.iterate_succ_apply, climb_some, hparent]
              exact hreach
          · rintro ⟨k, hk, hreach⟩
            rw [Function.iterate_succ_apply, climb_some, hparent] at hreach
            cases k with
            | zero => exact Or.inl (Option.some.inj hreach)
            | succ k => exact Or.inr ⟨k, Nat.lt_of_succ_lt_succ hk, hreach⟩

/-- Whatever lies on a chain that comes back to its beginning has a parent of its own. -/
theorem mem_keys_of_periodic {parents : Dictionary String} {name : String} {n : Nat}
    (h : some name ∈ Function.periodicPts (climb parents)) :
    ∃ key ∈ parents.keys, (climb parents)^[n] (some name) = some key := by
  obtain ⟨k, hk, hback⟩ := h
  obtain ⟨j, rfl⟩ := Nat.exists_eq_succ_of_ne_zero hk.ne'
  have hreturn : (climb parents)^[j + 1] ((climb parents)^[n] (some name)) =
      (climb parents)^[n] (some name) := hback.apply_iterate n
  cases hnode : (climb parents)^[n] (some name) with
  | none =>
      -- A chain that has ended stays where it is, and would not return to the name.
      have hlate : (climb parents)^[n * j + n] (some name) = some name := hback.const_mul n
      rw [Function.iterate_add_apply, hnode, iterate_climb_none] at hlate
      cases hlate
  | some key =>
      refine ⟨key, ?_, rfl⟩
      rw [hnode, Function.iterate_succ_apply, climb_some] at hreturn
      by_contra hkey
      rw [Dictionary.lookup_eq_none_iff.mpr hkey, iterate_climb_none] at hreturn
      cases hreturn

/-- A chain that comes back to its beginning does so within as many steps as there are fields that
depend on another one. -/
theorem exists_return_le_length {parents : Dictionary String} {name : String} {n : Nat}
    (hn : 0 < n) (h : (climb parents)^[n] (some name) = some name) :
    ∃ m, 0 < m ∧ m ≤ parents.length ∧ (climb parents)^[m] (some name) = some name := by
  have hperiodic : some name ∈ Function.periodicPts (climb parents) := ⟨n, hn, h⟩
  let orbit := (List.range (Function.minimalPeriod (climb parents) (some name))).map
    fun k => (climb parents)^[k] (some name)
  have hnodup : orbit.Nodup := by
    have hcycle := Function.nodup_periodicOrbit (f := climb parents) (x := some name)
    rwa [Function.periodicOrbit, Cycle.nodup_coe_iff] at hcycle
  have hsubset : orbit ⊆ parents.keys.map some := by
    intro node hnode
    obtain ⟨k, -, rfl⟩ := List.mem_map.mp hnode
    obtain ⟨key, hkey, heq⟩ := mem_keys_of_periodic (n := k) hperiodic
    exact heq ▸ List.mem_map_of_mem hkey
  -- The nodes before the first return are different keys, so that there are at most as many.
  refine ⟨Function.minimalPeriod (climb parents) (some name),
    Function.minimalPeriod_pos_of_mem_periodicPts hperiodic, ?_,
    Function.iterate_minimalPeriod⟩
  have hlength := (List.Nodup.subperm hnodup hsubset).length_le
  simpa [orbit, Dictionary.keys] using hlength

/-- From a parent other than the field itself, the bounded walk finds the field exactly if the field
lies on a cycle. -/
theorem leadsTo_parent_iff {parents : Dictionary String} {child parent : String}
    (hparent : Dictionary.lookup child parents = some parent) (hne : child ≠ parent) :
    leadsTo parents child parents.length parent = true ↔
      ∃ n, (climb parents)^[n + 1] (some child) = some child := by
  rw [leadsTo_eq_true_iff]
  have hstep : ∀ k, (climb parents)^[k + 1] (some child) = (climb parents)^[k] (some parent) := by
    intro k
    rw [Function.iterate_succ_apply, climb_some, hparent]
  constructor
  · rintro ⟨k, -, hk⟩
    exact ⟨k + 1, (hstep (k + 1)).trans hk⟩
  · rintro ⟨n, hn⟩
    obtain ⟨m, hpos, hle, hm⟩ := exists_return_le_length (Nat.succ_pos n) hn
    obtain ⟨k, rfl⟩ := Nat.exists_eq_succ_of_ne_zero hpos.ne'
    cases k with
    | zero =>
        -- A return after one step would make the field its own parent.
        rw [hstep 0] at hm
        exact absurd (Option.some.inj hm).symm hne
    | succ k =>
        refine ⟨k, by omega, ?_⟩
        rw [← hstep]
        exact hm

/-- A chain of one or more dependencies is a walk of one or more steps. -/
theorem transGen_lookup_iff {parents : Dictionary String} {a b : String} :
    Relation.TransGen (fun child parent => Dictionary.lookup child parents = some parent) a b ↔
      ∃ n, (climb parents)^[n + 1] (some a) = some b := by
  constructor
  · intro h
    induction h with
    | single hstep => exact ⟨0, hstep⟩
    | tail _ hstep ih =>
        obtain ⟨n, hn⟩ := ih
        refine ⟨n + 1, ?_⟩
        rw [Function.iterate_succ_apply', hn, climb_some]
        exact hstep
  · rintro ⟨n, hn⟩
    induction n generalizing b with
    | zero => exact .single hn
    | succ n ih =>
        rw [Function.iterate_succ_apply'] at hn
        cases hmiddle : (climb parents)^[n + 1] (some a) with
        | none =>
            rw [hmiddle] at hn
            cases hn
        | some middle =>
            rw [hmiddle, climb_some] at hn
            exact .tail (ih hmiddle) hn

end FormLogic.Tree
