import FormLogic.Form
import FormLogic.Proofs.Dictionary

/-!
# First findings

Of several findings at a path the first one counts.  Where failed conditions come after all else
that is found at their paths, the code at a path does not depend on the order of findings any
further.
-/

namespace FormLogic

namespace Schema

/-- The first finding at a path. -/
def firstAt (path : String) (findings : List Finding) : Option Finding :=
  findings.find? fun x => x.path == path

theorem firstAt_cons (path : String) (x : Finding) (findings : List Finding) :
    firstAt path (x :: findings) = if x.path = path then some x else firstAt path findings := by
  rw [firstAt, List.find?_cons]
  by_cases h : x.path = path
  · simp [h]
  · rw [if_neg h, beq_eq_false_iff_ne.mpr h]
    rfl

theorem firstAt_append (path : String) (front back : List Finding) :
    firstAt path (front ++ back) = (firstAt path front).or (firstAt path back) := by
  simp [firstAt]

theorem mem_of_firstAt_eq_some {path : String} {x : Finding} {findings : List Finding}
    (h : firstAt path findings = some x) : x ∈ findings ∧ x.path = path :=
  ⟨List.mem_of_find?_eq_some h, by simpa using List.find?_some h⟩

theorem exists_firstAt_of_mem {x : Finding} {findings : List Finding} (h : x ∈ findings) :
    ∃ y, firstAt x.path findings = some y := by
  rw [← Option.isSome_iff_exists, firstAt, List.find?_isSome]
  exact ⟨x, h, by simp⟩

theorem lookup_foldl_insertNew (path : String) (findings : List Finding) (d : Dictionary Finding) :
    Dictionary.lookup path (findings.foldl (fun d x => Dictionary.insertNew x.path x d) d) =
      (Dictionary.lookup path d).or (firstAt path findings) := by
  induction findings generalizing d with
  | nil => simp [firstAt]
  | cons x findings ih =>
      rw [List.foldl_cons, ih, Dictionary.lookup_insertNew, firstAt_cons, Option.or_assoc]
      by_cases h : x.path = path <;> simp [h]

theorem lookup_firstFindings (path : String) (findings : List Finding) :
    Dictionary.lookup path (firstFindings findings) = firstAt path findings := by
  rw [firstFindings, lookup_foldl_insertNew, Dictionary.lookup_nil, Option.none_or]

theorem ascending_foldl_insertNew (findings : List Finding) {d : Dictionary Finding}
    (h : Dictionary.Ascending d) :
    Dictionary.Ascending (findings.foldl (fun d x => Dictionary.insertNew x.path x d) d) := by
  induction findings generalizing d with
  | nil => exact h
  | cons x findings ih => exact ih (h.insertNew x.path x)

theorem ascending_firstFindings (findings : List Finding) :
    Dictionary.Ascending (firstFindings findings) :=
  ascending_foldl_insertNew findings Dictionary.ascending_nil

theorem firstFindings_eq_nil_iff {findings : List Finding} :
    firstFindings findings = [] ↔ findings = [] := by
  constructor
  · intro h
    apply List.eq_nil_iff_forall_not_mem.mpr
    intro x hx
    obtain ⟨y, hy⟩ := exists_firstAt_of_mem hx
    rw [← lookup_firstFindings, h] at hy
    cases hy
  · rintro rfl
    rfl

/-! ### Codes -/

/-- All but the first finding at a path are failed conditions. -/
def Ranked (findings : List Finding) : Prop :=
  findings.Pairwise fun x y => x.path = y.path → y.objection.code = .condition

/-- A code is found at a path, and if it is that of a condition, then nothing else is found there.
-/
def Reports (findings : List Finding) (path : String) (code : Code) : Prop :=
  ∃ x ∈ findings, x.path = path ∧ x.objection.code = code ∧
    (code = .condition → ∀ y ∈ findings, y.path = path → y.objection.code = .condition)

/-- The first finding at a path has the code that is reported there. -/
theorem exists_firstAt_iff_reports {findings : List Finding} (h : Ranked findings) {path : String}
    {code : Code} :
    (∃ x, firstAt path findings = some x ∧ x.objection.code = code) ↔
      Reports findings path code := by
  induction findings with
  | nil => simp [firstAt, Reports]
  | cons x findings ih =>
      obtain ⟨hx, hrest⟩ := List.pairwise_cons.mp h
      rw [firstAt_cons]
      by_cases hpath : x.path = path
      · rw [if_pos hpath]
        constructor
        · rintro ⟨y, hy, rfl⟩
          cases hy
          refine ⟨x, List.mem_cons_self .., hpath, rfl, ?_⟩
          intro hcode y hy hypath
          rcases List.mem_cons.mp hy with rfl | hy
          · exact hcode
          · exact hx y hy (hpath.trans hypath.symm)
        · rintro ⟨y, hy, hypath, rfl, hcode⟩
          refine ⟨x, rfl, ?_⟩
          rcases List.mem_cons.mp hy with rfl | hy
          · rfl
          · -- A later finding has the code of a condition, which the first one then has to have.
            have hcondition := hx y hy (hpath.trans hypath.symm)
            rw [hcondition]
            exact hcode hcondition x (List.mem_cons_self ..) hpath
      · rw [if_neg hpath, ih hrest]
        constructor
        · rintro ⟨y, hy, hypath, hcode, hall⟩
          refine ⟨y, List.mem_cons_of_mem _ hy, hypath, hcode, ?_⟩
          intro hcondition z hz hzpath
          rcases List.mem_cons.mp hz with rfl | hz
          · exact absurd hzpath hpath
          · exact hall hcondition z hz hzpath
        · rintro ⟨y, hy, hypath, hcode, hall⟩
          rcases List.mem_cons.mp hy with rfl | hy
          · exact absurd hypath hpath
          · exact ⟨y, hy, hypath, hcode,
              fun hcondition z hz => hall hcondition z (List.mem_cons_of_mem _ hz)⟩

end Schema

namespace Form

open Schema

/-- The error at a path is that of the first finding there. -/
theorem lookup_errors (form : Form) (data : Json) (path : String) :
    Dictionary.lookup path (form.errors data) =
      (firstAt path (form.schema.check form.operations data)).map
        (FieldError.ofFinding form.messages) := by
  rw [errors, FieldErrors.ofFindings, Dictionary.lookup_mapValues, findings, Schema.findings,
    lookup_firstFindings]

theorem isValid_iff {form : Form} {data : Json} :
    form.isValid data = true ↔ form.schema.check form.operations data = [] := by
  rw [isValid, List.isEmpty_iff, findings, Schema.findings, firstFindings_eq_nil_iff]

theorem ascending_errors (form : Form) (data : Json) :
    Dictionary.Ascending (form.errors data) := by
  rw [errors, FieldErrors.ofFindings]
  exact (ascending_firstFindings _).mapValues _

/-- Every error that a check of the data reports is an error and no warning. -/
theorem severity_of_mem_errors {form : Form} {data : Json} {entry : String × FieldError}
    (h : entry ∈ form.errors data) : entry.2.severity = .error := by
  obtain ⟨original, -, rfl⟩ := List.mem_map.mp h
  rfl

end Form

end FormLogic
