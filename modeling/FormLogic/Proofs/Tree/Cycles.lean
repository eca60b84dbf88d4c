import FormLogic.Proofs.Tree.Acceptance

/-!
# Cycles of dependencies

Once the declarations of a form are in order by themselves, each field is reported for its
dependency at most once: if it depends on itself, if it depends on a field that is not there, or if
the chain of its dependencies comes back to it.  Nothing else is reported, so that in an accepted
form every chain of dependencies ends, and it does so before it has passed as many fields as there
are.
-/

namespace FormLogic

/-! ### The wording of defects -/

namespace Cause

/-- The cause concerns the fields together, rather than a declaration by itself. -/
inductive Joint : Cause → Prop
  | repeatedName : Joint .repeatedName
  | nestedName (nested : String) : Joint (.nestedName nested)
  | selfDependency : Joint .selfDependency
  | unknownParent (parent : String) : Joint (.unknownParent parent)
  | cyclicDependency : Joint .cyclicDependency

/-- The cause concerns the dependency of a field. -/
inductive OfDependency : Cause → Prop
  | selfDependency : OfDependency .selfDependency
  | unknownParent (parent : String) : OfDependency (.unknownParent parent)
  | cyclicDependency : OfDependency .cyclicDependency

theorem OfDependency.joint {c : Cause} (h : OfDependency c) : Joint c := by
  cases h with
  | selfDependency => exact .selfDependency
  | unknownParent parent => exact .unknownParent parent
  | cyclicDependency => exact .cyclicDependency

theorem OfDependency.alternatives_eq {c : Cause} (h : OfDependency c) : c.alternatives = [] := by
  cases h <;> rfl

/-- What the message of a cause that concerns the fields together begins with. -/
def opening : Cause → String
  | repeatedName => "field name "
  | nestedName _ => "field value"
  | selfDependency => "field canno"
  | unknownParent _ => "dependsOn r"
  | cyclicDependency => "dependsOn c"
  | _ => ""

theorem message_nestedName (nested : String) :
    (nestedName nested).message =
      "field value cannot also hold nested field '" ++ nested ++ "'" := rfl

theorem message_unknownParent (parent : String) :
    (unknownParent parent).message =
      "dependsOn references unknown field '" ++ parent ++ "'" := rfl

theorem take_message {c : Cause} (h : Joint c) :
    c.message.toList.take 11 = c.opening.toList := by
  cases h with
  | repeatedName => rfl
  | nestedName nested =>
      rw [message_nestedName, String.toList_append, String.toList_append, List.append_assoc,
        List.take_append_of_le_length (by decide), opening]
      decide
  | selfDependency => rfl
  | unknownParent parent =>
      rw [message_unknownParent, String.toList_append, String.toList_append, List.append_assoc,
        List.take_append_of_le_length (by decide), opening]
      decide
  | cyclicDependency => rfl

/-- Different causes that concern the fields together are worded differently. -/
theorem message_injOn {c c' : Cause} (hc : Joint c) (hc' : Joint c')
    (h : c.message = c'.message) : c = c' := by
  have hopening : c.opening = c'.opening := by
    apply String.toList_injective
    rw [← take_message hc, ← take_message hc', h]
  cases hc with
  | nestedName nested =>
      cases hc' with
      | nestedName nested' =>
          rw [message_nestedName, message_nestedName] at h
          rw [(String.append_right_inj _).mp ((String.append_left_inj _).mp h)]
      | _ => simp [opening] at hopening
  | unknownParent parent =>
      cases hc' with
      | unknownParent parent' =>
          rw [message_unknownParent, message_unknownParent] at h
          rw [(String.append_right_inj _).mp ((String.append_left_inj _).mp h)]
      | _ => simp [opening] at hopening
  | _ => cases hc' <;> first | rfl | simp [opening] at hopening

end Cause

namespace Tree

variable {fields : List Field} {t : Tree} {name child parent : String}

/-! ### Chains of dependencies -/

/-- The name that a field depends on.  Of several fields of one name, the last one that depends on
any other decides. -/
def lastParent (fields : List Field) (name : String) : Option String :=
  ((fields.filter fun f => f.name == name).filterMap Field.dependsOn).getLast?

/-- Where so many steps lead, each of which goes from a name to the one that it depends on. -/
def ancestor? (fields : List Field) (steps : Nat) (name : String) : Option String :=
  (fun name => name.bind (lastParent fields))^[steps] (some name)

theorem map_filter_parents (fields : List Field) (name : String) :
    ((fields.filterMap fun f => f.dependsOn.map fun parent => (f.name, parent)).filter
        fun entry => entry.1 == name).map (·.2) =
      (fields.filter fun f => f.name == name).filterMap Field.dependsOn := by
  induction fields with
  | nil => rfl
  | cons f fields ih =>
      cases hparent : f.dependsOn with
      | none => by_cases hname : f.name = name <;> simp [hparent, hname, ih]
      | some parent => by_cases hname : f.name = name <;> simp [hparent, hname, ih]

theorem lookup_parents (t : Tree) (name : String) :
    Dictionary.lookup name t.parents = lastParent t.fields name := by
  rw [parents, Dictionary.lookup_ofList, map_filter_parents, lastParent]

/-- In an accepted form each field has the parent that it names. -/
theorem Accepted.lastParent_eq (h : t.Accepted) {f : Field} (hf : f ∈ t.fields) :
    lastParent t.fields f.name = f.dependsOn := by
  cases hparent : f.dependsOn with
  | some parent =>
      rw [← lookup_parents, lookup_parents_eq_some_iff h.names_nodup]
      exact ⟨f, hf, rfl, hparent⟩
  | none =>
      rw [Option.eq_none_iff_forall_ne_some]
      intro parent hlast
      rw [← lookup_parents, lookup_parents_eq_some_iff h.names_nodup] at hlast
      obtain ⟨g, hg, hname, hdepends⟩ := hlast
      obtain rfl : g = f := List.inj_on_of_nodup_map h.names_nodup hg hf hname
      rw [hparent] at hdepends
      cases hdepends

theorem iterate_climb (t : Tree) (n : Nat) (name : String) :
    (climb t.parents)^[n] (some name) = ancestor? t.fields n name := by
  have hstep : climb t.parents = fun name => name.bind (lastParent t.fields) := by
    funext name
    cases name with
    | none => rfl
    | some name => exact lookup_parents t name
  rw [ancestor?, hstep]

theorem exists_field_of_lastParent (h : lastParent fields name = some parent) :
    ∃ f ∈ fields, f.name = name := by
  obtain ⟨f, hf, -⟩ := List.mem_filterMap.mp (List.mem_of_getLast? h)
  exact ⟨f, List.mem_of_mem_filter hf, by simpa using (List.mem_filter.mp hf).2⟩

theorem dependsOn_eq_none_of_lastParent {f : Field} (hf : f ∈ fields)
    (h : lastParent fields f.name = none) : f.dependsOn = none := by
  rw [lastParent, List.getLast?_eq_none_iff, List.filterMap_eq_nil_iff] at h
  exact h f (List.mem_filter.mpr ⟨hf, by simp⟩)

theorem ancestor?_succ (fields : List Field) (n : Nat) (name : String) :
    ancestor? fields (n + 1) name = (ancestor? fields n name).bind (lastParent fields) :=
  Function.iterate_succ_apply' ..

theorem ancestor?_add (fields : List Field) (m n : Nat) (name : String) :
    ancestor? fields (m + n) name = (ancestor? fields n name).bind (ancestor? fields m) := by
  rw [ancestor?, Function.iterate_add_apply, ← ancestor?]
  cases ancestor? fields n name with
  | none => exact Function.iterate_fixed rfl m
  | some middle => rfl

theorem ancestor?_succ_left (fields : List Field) (n : Nat) (name : String) :
    ancestor? fields (n + 1) name = (lastParent fields name).bind (ancestor? fields n) :=
  ancestor?_add fields n 1 name

/-- A chain has not ended before a place where it goes on. -/
theorem exists_ancestor_of_le {k n : Nat} (h : ancestor? fields n name ≠ none) (hk : k ≤ n) :
    ∃ ancestor, ancestor? fields k name = some ancestor := by
  rw [← Option.ne_none_iff_exists']
  intro hend
  obtain ⟨j, rfl⟩ := Nat.exists_eq_add_of_le hk
  rw [Nat.add_comm, ancestor?_add, hend, Option.bind_none] at h
  exact h rfl

/-! ### What is reported of dependencies -/

theorem mem_dependencyDefects_iff {cause : Cause} :
    ⟨none, some child, cause⟩ ∈ t.dependencyDefects ↔
      ∃ parent, lastParent t.fields child = some parent ∧
        t.dependencyCause? child parent = some cause := by
  have hkeys : t.parents.keys.Nodup := (Dictionary.ascending_ofList _).nodup_keys
  simp only [dependencyDefects, List.mem_filterMap, Option.map_eq_some_iff, Prod.exists,
    Defect.mk.injEq, Option.some.injEq, true_and, ← lookup_parents,
    Dictionary.lookup_eq_some_iff hkeys]
  constructor
  · rintro ⟨name, parent, hmem, found, hfound, rfl, rfl⟩
    exact ⟨parent, hmem, hfound⟩
  · rintro ⟨parent, hmem, hcause⟩
    exact ⟨child, parent, hmem, cause, hcause, rfl, rfl⟩

theorem dependencyCause?_ofDependency {cause : Cause}
    (h : t.dependencyCause? child parent = some cause) : cause.OfDependency := by
  unfold dependencyCause? at h
  split_ifs at h
  · cases h
    exact .selfDependency
  · cases h
    exact .unknownParent parent
  · cases h
    exact .cyclicDependency

theorem exists_of_mem_dependencyDefects {d : Defect} (h : d ∈ t.dependencyDefects) :
    ∃ child cause, d = ⟨none, some child, cause⟩ ∧ cause.OfDependency := by
  obtain ⟨⟨child, parent⟩, -, hd⟩ := List.mem_filterMap.mp h
  obtain ⟨cause, hcause, rfl⟩ := Option.map_eq_some_iff.mp hd
  exact ⟨child, cause, rfl, dependencyCause?_ofDependency hcause⟩

/-- No field is reported twice for its dependency. -/
theorem pairwise_dependencyDefects (t : Tree) :
    t.dependencyDefects.Pairwise fun d e => d.field ≠ e.field := by
  have hascending : Dictionary.Ascending t.parents := Dictionary.ascending_ofList _
  rw [dependencyDefects, List.pairwise_filterMap]
  refine List.Pairwise.imp ?_ hascending
  intro a b hlt d hd e he heq
  obtain ⟨cause, -, rfl⟩ := Option.map_eq_some_iff.mp hd
  obtain ⟨cause', -, rfl⟩ := Option.map_eq_some_iff.mp he
  exact String.ne_of_lt hlt (Option.some.inj heq)

/-- A field is reported to depend on itself exactly if it does. -/
theorem self_mem_dependencyDefects_iff :
    ⟨none, some child, .selfDependency⟩ ∈ t.dependencyDefects ↔
      lastParent t.fields child = some child := by
  rw [mem_dependencyDefects_iff]
  constructor
  · rintro ⟨parent, hparent, hcause⟩
    by_cases hself : child = parent
    · rw [hparent, hself]
    · -- Any other cause says something else.
      rw [dependencyCause?, if_neg hself] at hcause
      split_ifs at hcause <;> cases hcause
  · intro hparent
    exact ⟨child, hparent, if_pos rfl⟩

/-- A field is reported to depend on an unknown one exactly if no field has that name. -/
theorem unknown_mem_dependencyDefects_iff :
    ⟨none, some child, .unknownParent parent⟩ ∈ t.dependencyDefects ↔
      lastParent t.fields child = some parent ∧ ∀ f ∈ t.fields, f.name ≠ parent := by
  have hunknown : (t.field? parent).isNone = true ↔ ∀ f ∈ t.fields, f.name ≠ parent := by
    simp [field?]
  rw [mem_dependencyDefects_iff, ← hunknown]
  constructor
  · rintro ⟨found, hparent, hcause⟩
    unfold dependencyCause? at hcause
    split_ifs at hcause with hself hnone
    · cases hcause
    · cases hcause
      exact ⟨hparent, hnone⟩
    · cases hcause
  · rintro ⟨hparent, hnone⟩
    -- A field that depends on another one is known, and therefore not the one it depends on.
    have hne : child ≠ parent := by
      rintro rfl
      obtain ⟨f, hf, hname⟩ := exists_field_of_lastParent hparent
      exact hunknown.mp hnone f hf hname
    exact ⟨parent, hparent, by rw [dependencyCause?, if_neg hne, if_pos hnone]⟩

/-- A field other than its own parent is reported for a cycle exactly if the chain of its
dependencies comes back to it. -/
theorem cyclic_mem_dependencyDefects_iff :
    ⟨none, some child, .cyclicDependency⟩ ∈ t.dependencyDefects ↔
      lastParent t.fields child ≠ some child ∧
        ∃ n, ancestor? t.fields (n + 1) child = some child := by
  rw [mem_dependencyDefects_iff]
  constructor
  · rintro ⟨parent, hparent, hcause⟩
    unfold dependencyCause? at hcause
    split_ifs at hcause with hself hunknown hcycle
    · cases hcause
    · cases hcause
    · refine ⟨fun heq => hself (Option.some.inj (heq.symm.trans hparent)), ?_⟩
      simp only [← iterate_climb]
      exact (leadsTo_parent_iff ((lookup_parents t child).trans hparent) hself).mp hcycle
  · rintro ⟨hself, n, hn⟩
    obtain ⟨parent, hparent, hrest⟩ := Option.bind_eq_some_iff.mp (ancestor?_succ_left .. ▸ hn)
    have hne : child ≠ parent := fun heq => hself (heq ▸ hparent)
    refine ⟨parent, hparent, ?_⟩
    have hcycle : leadsTo t.parents child t.parents.length parent = true := by
      rw [leadsTo_parent_iff ((lookup_parents t child).trans hparent) hne]
      exact ⟨n, (iterate_climb t (n + 1) child).trans hn⟩
    -- The chain goes on from the parent, which makes it a field.
    have hknown : (t.field? parent).isNone = false := by
      cases n with
      | zero => exact absurd (Option.some.inj hrest).symm hne
      | succ n =>
          obtain ⟨_, hnext, -⟩ := Option.bind_eq_some_iff.mp (ancestor?_succ_left .. ▸ hrest)
          rw [Option.isNone_eq_false_iff]
          exact isSome_field?_iff.mpr (exists_field_of_lastParent hnext)
    rw [dependencyCause?, if_neg hne, hknown, if_neg Bool.false_ne_true, if_pos hcycle]

/-! ### Chains that never come back -/

/-- Each field depends on a field that is there, and on no chain does a field come again. -/
structure Grounded (fields : List Field) : Prop where
  known : ∀ name parent, lastParent fields name = some parent → ∃ f ∈ fields, f.name = parent
  not_return : ∀ n name, ancestor? fields (n + 1) name ≠ some name

theorem grounded_of_dependencyDefects (h : t.dependencyDefects = []) : Grounded t.fields := by
  have hnone : ∀ d, d ∉ t.dependencyDefects := by simp [h]
  refine ⟨?_, ?_⟩
  · intro name parent hparent
    by_contra hunknown
    push Not at hunknown
    exact hnone _ (unknown_mem_dependencyDefects_iff.mpr ⟨hparent, hunknown⟩)
  · intro n name hn
    have hself : lastParent t.fields name ≠ some name :=
      fun heq => hnone _ (self_mem_dependencyDefects_iff.mpr heq)
    exact hnone _ (cyclic_mem_dependencyDefects_iff.mpr ⟨hself, n, hn⟩)

namespace Grounded

variable (h : Grounded fields)

include h

theorem ancestor?_ne {i j : Nat} {ancestor : String}
    (hi : ancestor? fields i name = some ancestor) (hij : i < j) :
    ancestor? fields i name ≠ ancestor? fields j name := by
  obtain ⟨k, rfl⟩ := Nat.exists_eq_add_of_lt hij
  rw [Nat.add_assoc, Nat.add_comm, ancestor?_add, hi, Option.bind_some]
  exact (h.not_return k ancestor).symm

variable {f : Field} (hf : f ∈ fields)

include hf

theorem exists_field_of_ancestor? {n : Nat} {ancestor : String}
    (hn : ancestor? fields n f.name = some ancestor) : ∃ g ∈ fields, g.name = ancestor := by
  cases n with
  | zero => exact ⟨f, hf, Option.some.inj hn⟩
  | succ n =>
      rw [ancestor?_succ] at hn
      obtain ⟨middle, -, hparent⟩ := Option.bind_eq_some_iff.mp hn
      exact h.known middle ancestor hparent

/-- The names on a chain are different, so that it has ended once it has passed all fields. -/
theorem ancestor?_length : ancestor? fields fields.length f.name = none := by
  by_contra hlong
  have hname : ∀ k ∈ List.range (fields.length + 1),
      ∃ ancestor, ancestor? fields k f.name = some ancestor := fun k hk =>
    exists_ancestor_of_le hlong (Nat.le_of_lt_succ (List.mem_range.mp hk))
  let chain := (List.range (fields.length + 1)).map fun k => ancestor? fields k f.name
  have hnodup : chain.Nodup := by
    rw [List.nodup_iff_pairwise_ne, List.pairwise_map]
    refine List.pairwise_lt_range.imp_of_mem ?_
    intro i j hi _ hij
    obtain ⟨ancestor, hancestor⟩ := hname i hi
    exact h.ancestor?_ne hancestor hij
  have hsubset : chain ⊆ fields.map fun g => some g.name := by
    intro node hnode
    obtain ⟨k, hk, rfl⟩ := List.mem_map.mp hnode
    obtain ⟨ancestor, hancestor⟩ := hname k hk
    obtain ⟨g, hg, rfl⟩ := h.exists_field_of_ancestor? hf hancestor
    exact List.mem_map.mpr ⟨g, hg, hancestor.symm⟩
  -- There is one name more on the chain than there are fields.
  have hlength := (List.Nodup.subperm hnodup hsubset).length_le
  simp [chain] at hlength

/-- From each field a field that depends on no other one is reached, before as many steps are taken
as there are fields. -/
theorem exists_root :
    ∃ n < fields.length, ∃ g ∈ fields,
      g.dependsOn = none ∧ ancestor? fields n f.name = some g.name := by
  classical
  have hend : ∃ n, ancestor? fields n f.name = none := ⟨fields.length, h.ancestor?_length hf⟩
  -- The last name on the chain is that of the field in question.
  obtain ⟨n, hn⟩ : ∃ n, Nat.find hend = n + 1 := by
    refine Nat.exists_eq_succ_of_ne_zero ?_
    intro hzero
    have hspec := Nat.find_spec hend
    rw [hzero] at hspec
    cases hspec
  have hnext : ancestor? fields (n + 1) f.name = none := hn ▸ Nat.find_spec hend
  have hle : n + 1 ≤ fields.length := hn ▸ Nat.find_min' hend (h.ancestor?_length hf)
  have hlast : ancestor? fields n f.name ≠ none := Nat.find_min hend (hn ▸ Nat.lt_succ_self n)
  obtain ⟨ancestor, hancestor⟩ := Option.ne_none_iff_exists'.mp hlast
  obtain ⟨g, hg, rfl⟩ := h.exists_field_of_ancestor? hf hancestor
  rw [ancestor?_succ, hancestor, Option.bind_some] at hnext
  exact ⟨n, hle, g, hg, dependsOn_eq_none_of_lastParent hg hnext, hancestor⟩

end Grounded

/-! ### The violations of refused declarations -/

variable {catalog : Option (List String)} {ds : List Declaration}

/-- The violations for which declarations are refused; none if they are not. -/
def refusals (catalog : Option (List String)) (ds : List Declaration) : List Violation :=
  match Form.treeOf catalog ds with
  | .ok _ => []
  | .error e => e.violations

/-- What is reported of a field by name, rather than of a declaration by its place. -/
def violationOf (name message : String) : Violation where
  path := Address.rootText
  field := some name
  message := message

/-- The violation is reported once if the condition holds, and not at all if it does not. -/
structure OnceIff (violations : List Violation) (v : Violation) (p : Prop) : Prop where
  once : p → violations.count v = 1
  never : ¬ p → v ∉ violations

theorem refusals_eq (h : Declaration.checkRoots catalog ds = .ok t.roots) :
    refusals catalog ds = (t.nameDefects ++ t.dependencyDefects).map Defect.violation := by
  rw [refusals, Form.treeOf, build, h]
  simp only [bind, Except.bind]
  cases t.nameDefects ++ t.dependencyDefects <;> rfl

theorem cause_of_mem_repeatedNames {seen : List String} {d : Defect}
    (h : d ∈ repeatedNames seen fields) : d.cause = .repeatedName := by
  induction fields generalizing seen with
  | nil => cases h
  | cons f fields ih =>
      rw [repeatedNames] at h
      split at h
      · rcases List.mem_cons.mp h with rfl | hrest
        · rfl
        · exact ih hrest
      · exact ih h

theorem cause_of_mem_nameDefects {d : Defect} (h : d ∈ t.nameDefects) :
    d.cause = .repeatedName ∨ ∃ nested, d.cause = .nestedName nested := by
  rcases List.mem_append.mp h with hrepeated | hnested
  · exact Or.inl (cause_of_mem_repeatedNames hrepeated)
  · obtain ⟨f, -, hf⟩ := List.mem_filterMap.mp hnested
    obtain ⟨nested, -, rfl⟩ := Option.map_eq_some_iff.mp hf
    exact Or.inr ⟨nested, rfl⟩

theorem joint_of_mem_defects {d : Defect} (h : d ∈ t.nameDefects ++ t.dependencyDefects) :
    d.cause.Joint := by
  rcases List.mem_append.mp h with hname | hdependency
  · rcases cause_of_mem_nameDefects hname with heq | ⟨nested, heq⟩
    · exact heq ▸ .repeatedName
    · exact heq ▸ .nestedName nested
  · obtain ⟨_, _, rfl, hcause⟩ := exists_of_mem_dependencyDefects hdependency
    exact hcause.joint

/-- What is wrong with a dependency is not wrong with a name. -/
theorem not_mem_nameDefects {d : Defect} (h : d.cause.OfDependency) : d ∉ t.nameDefects := by
  intro hd
  rcases cause_of_mem_nameDefects hd with heq | ⟨nested, heq⟩
  · rw [heq] at h
    cases h
  · rw [heq] at h
    cases h

theorem violation_eq {cause : Cause} (h : cause.OfDependency) :
    Defect.violation ⟨none, some child, cause⟩ = violationOf child cause.message := by
  simp [Defect.violation, violationOf, h.alternatives_eq]

/-- A violation tells which defect of a dependency it reports. -/
theorem eq_of_violation_eq {d : Defect} {cause : Cause}
    (hd : d ∈ t.nameDefects ++ t.dependencyDefects) (hcause : cause.OfDependency)
    (h : d.violation = violationOf child cause.message) :
    d ∈ t.dependencyDefects ∧ d = ⟨none, some child, cause⟩ := by
  have heq : d.cause = cause :=
    Cause.message_injOn (joint_of_mem_defects hd) hcause.joint (congrArg Violation.message h)
  have hdependency : d ∈ t.dependencyDefects :=
    (List.mem_append.mp hd).resolve_left (not_mem_nameDefects (heq ▸ hcause))
  obtain ⟨name, _, rfl, -⟩ := exists_of_mem_dependencyDefects hdependency
  have hname : name = child := Option.some.inj (congrArg Violation.field h)
  exact ⟨hdependency, by rw [hname, ← heq]⟩

theorem nodup_violations (t : Tree) : (t.dependencyDefects.map Defect.violation).Nodup := by
  rw [List.nodup_iff_pairwise_ne, List.pairwise_map]
  exact t.pairwise_dependencyDefects.imp fun hne heq => hne (congrArg Violation.field heq)

theorem onceIff_refusals (h : Declaration.checkRoots catalog ds = .ok t.roots) {cause : Cause}
    (hcause : cause.OfDependency) :
    OnceIff (refusals catalog ds) (violationOf child cause.message)
      (⟨none, some child, cause⟩ ∈ t.dependencyDefects) := by
  rw [refusals_eq h]
  constructor
  · intro hmem
    have hviolation := List.mem_map_of_mem (f := Defect.violation) hmem
    rw [violation_eq hcause] at hviolation
    -- The names have no such violation, and the dependencies have it once.
    have hnames : violationOf child cause.message ∉ t.nameDefects.map Defect.violation := by
      intro hname
      obtain ⟨d, hd, heq⟩ := List.mem_map.mp hname
      obtain ⟨-, rfl⟩ := eq_of_violation_eq (List.mem_append_left _ hd) hcause heq
      exact not_mem_nameDefects hcause hd
    rw [List.map_append, List.count_append, List.count_eq_zero_of_not_mem hnames,
      List.count_eq_one_of_mem t.nodup_violations hviolation]
  · intro hmem hviolation
    obtain ⟨d, hd, heq⟩ := List.mem_map.mp hviolation
    obtain ⟨hdependency, rfl⟩ := eq_of_violation_eq hd hcause heq
    exact hmem hdependency

/-- Whatever chains of dependencies there are, each field of declarations that are in order by
themselves is reported once for its dependency, if it depends on itself, on a field that is not
there, or on a chain that comes back to it.  In an accepted form, each chain ends, before it has
passed as many fields as there are. -/
theorem refusals_for_dependencies (h : Declaration.checkRoots catalog ds = .ok t.roots) :
    (∀ child,
        OnceIff (refusals catalog ds) (violationOf child "dependsOn chain forms a cycle")
            (lastParent t.fields child ≠ some child ∧
              ∃ n, ancestor? t.fields (n + 1) child = some child) ∧
          OnceIff (refusals catalog ds) (violationOf child "field cannot depend on itself")
            (lastParent t.fields child = some child) ∧
          ∀ parent,
            OnceIff (refusals catalog ds)
              (violationOf child ("dependsOn references unknown field '" ++ parent ++ "'"))
              (lastParent t.fields child = some parent ∧ ∀ f ∈ t.fields, f.name ≠ parent)) ∧
      (build catalog ds = .ok t →
        (∀ f ∈ t.fields, lastParent t.fields f.name = f.dependsOn) ∧
          ∀ f ∈ t.fields, ∃ n < t.fields.length, ∃ root ∈ t.fields,
            root.dependsOn = none ∧ ancestor? t.fields n f.name = some root.name) := by
  refine ⟨?_, ?_⟩
  · intro child
    refine ⟨?_, ?_, ?_⟩
    · rw [← cyclic_mem_dependencyDefects_iff]
      exact onceIff_refusals h .cyclicDependency
    · rw [← self_mem_dependencyDefects_iff]
      exact onceIff_refusals h .selfDependency
    · intro parent
      rw [← unknown_mem_dependencyDefects_iff]
      exact onceIff_refusals h (.unknownParent parent)
  · intro hbuild
    have hcoherent := (build_eq_ok_iff.mp hbuild).2
    have hgrounded : Grounded t.fields :=
      grounded_of_dependencyDefects (List.append_eq_nil_iff.mp (defects_eq_nil_iff.mpr hcoherent)).2
    exact ⟨fun f hf => Accepted.lastParent_eq ⟨catalog, ds, hbuild⟩ hf,
      fun f hf => hgrounded.exists_root hf⟩

end Tree

/-! ### Two fields that depend on each other -/

namespace Knot

def dependent (name parent : String) : Declaration :=
  .element { kind := some "text", name := some name, dependsOn := some parent } none none

/-- A field depends on one of two fields that depend on each other, and another one on itself. -/
def declarations : List Declaration :=
  [dependent "tail" "left", dependent "left" "right", dependent "right" "left",
    dependent "own" "own"]

def field (name parent : String) : Field :=
  .single { Jobs.plainInfo "text" name with dependsOn := some parent } .generic

def tree : Tree :=
  ⟨[.field (field "tail" "left"), .field (field "left" "right"), .field (field "right" "left"),
    .field (field "own" "own")]⟩

theorem refused_once :
    (Tree.refusals none declarations).count
        (Tree.violationOf "left" "dependsOn chain forms a cycle") = 1 ∧
      (Tree.refusals none declarations).count
        (Tree.violationOf "own" "field cannot depend on itself") = 1 := by
  have hroots : Declaration.checkRoots none declarations = .ok tree.roots := rfl
  have hreported := (Tree.refusals_for_dependencies hroots).1
  have hleft : Tree.lastParent tree.fields "left" = some "right" := rfl
  have hback : Tree.ancestor? tree.fields 2 "left" = some "left" := rfl
  refine ⟨(hreported "left").1.once ⟨?_, 1, hback⟩, (hreported "own").2.1.once rfl⟩
  rw [hleft]
  decide

end Knot

end FormLogic
