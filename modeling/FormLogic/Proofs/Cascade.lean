import FormLogic.Proofs.SeparateFields
import Mathlib.Data.Set.Card

/-!
# Cascades of resets

A change of one field is carried on by whoever keeps the data: a pending change is reported to the
form, the resets that the form answers are carried out, and each of them is a change to be reported
in its turn.  Dependencies form no cycle and no field depends on two others, so that such a run
comes to an end and resets each field at most once.  The pending changes can be taken in any order:
what the form answers to a change turns out to be a matter of the changed field alone.
-/

namespace FormLogic

/-! ### Dependents -/

namespace Tree

/-- A field of the one name depends on the other. -/
def DependsOn (t : Tree) (child parent : String) : Prop :=
  ∃ f ∈ t.fields, f.name = child ∧ f.dependsOn = some parent

/-- A chain of dependencies leads from the one name to the other. -/
def Descends (t : Tree) : String → String → Prop := Relation.TransGen t.DependsOn

/-- The names of all fields whose chains of dependencies lead to a field. -/
def descendants (t : Tree) (field : String) : Set String := {name | t.Descends name field}

variable {t : Tree}

theorem Accepted.not_descends_self (h : t.Accepted) (name : String) : ¬ t.Descends name name := by
  intro hcycle
  apply h.coherent.acyclic name
  refine Relation.TransGen.mono ?_ _ _ hcycle
  rintro child parent ⟨f, hf, hchild, hparent⟩
  exact ⟨f.info, List.mem_map_of_mem hf, hchild, hparent⟩

theorem Descends.exists_field {name field : String} (h : t.Descends name field) :
    ∃ f ∈ t.fields, f.name = name := by
  obtain ⟨parent, ⟨f, hf, hname, -⟩, -⟩ := Relation.TransGen.head'_iff.mp h
  exact ⟨f, hf, hname⟩

theorem finite_descendants (t : Tree) (field : String) : (t.descendants field).Finite := by
  apply (t.fields.map Field.name).toFinset.finite_toSet.subset
  intro name hname
  obtain ⟨f, hf, rfl⟩ := Descends.exists_field hname
  exact List.mem_toFinset.mpr (List.mem_map_of_mem hf)

/-- Different descendants of a field are no more than there are. -/
theorem length_le_ncard_descendants {names : List String} {field : String} (hnodup : names.Nodup)
    (hnames : ∀ name ∈ names, t.Descends name field) :
    names.length ≤ (t.descendants field).ncard := by
  have hsubset : (names.toFinset : Set String) ⊆ t.descendants field := by
    intro name hname
    exact hnames name (List.mem_toFinset.mp hname)
  have hcard := Set.ncard_le_ncard hsubset (t.finite_descendants field)
  rwa [Set.ncard_coe_finset, List.toFinset_card_of_nodup hnodup] at hcard

end Tree

/-! ### Runs -/

/-- A change of a field, with the data before it and the data after it. -/
structure Change where
  field : String
  previous : Json
  current : Json

namespace Change

/-- The resets that the form answers when the change is reported. -/
def answer (form : Form) (change : Change) : List Reset :=
  form.fieldChanged change.field change.previous change.current

/-- The change is that of one among resets that are carried out one after the other.  Its data may
be those right before and right after that reset, those before the first and after the last of all
resets, or any in between. -/
def IsOneOf (data : Json) (resets : List Reset) (change : Change) : Prop :=
  ∃ front r back before after, resets = front ++ r :: back ∧ before <+: front ∧ after <+: back ∧
    change = ⟨r.field, Reset.applyAll data before, Reset.applyAll data (front ++ r :: after)⟩

/-- The changes tell of each of the resets. -/
structure Cover (data : Json) (resets : List Reset) (changes : List Change) : Prop where
  fields : changes.map field = resets.map Reset.field
  isOneOf : ∀ change ∈ changes, change.IsOneOf data resets

/-- The changes of resets, each with the data before the first and after the last of them. -/
def together (data : Json) (resets : List Reset) : List Change :=
  resets.map fun r => ⟨r.field, data, Reset.applyAll data resets⟩

theorem cover_together (data : Json) (resets : List Reset) :
    Cover data resets (together data resets) := by
  constructor
  case fields =>
    rw [together, List.map_map]
    rfl
  case isOneOf =>
    intro change hchange
    obtain ⟨r, hr, rfl⟩ := List.mem_map.mp hchange
    obtain ⟨front, back, rfl⟩ := List.append_of_mem hr
    exact ⟨front, r, back, [], back, rfl, List.nil_prefix, List.prefix_rfl, rfl⟩

end Change

/-- How far a change has been carried on. -/
structure Cascade where
  /-- The latest data. -/
  data : Json
  /-- The changes that are still to be reported. -/
  pending : List Change
  /-- The fields of the changes that have been reported, one for each call of the form. -/
  reported : List String
  /-- The resets that have been carried out. -/
  resets : List Reset

namespace Cascade

/-- Before anything has been reported, the change that all begins with is pending. -/
def start (field : String) (previous current : Json) : Cascade where
  data := current
  pending := [⟨field, previous, current⟩]
  reported := []
  resets := []

/-- A pending change has been reported, and what the form answers has been carried out. -/
@[simps]
def after (form : Form) (c : Cascade) (change : Change) (others changes : List Change) :
    Cascade where
  data := Reset.applyAll c.data (change.answer form)
  pending := others ++ changes
  reported := c.reported ++ [change.field]
  resets := c.resets ++ change.answer form

/-- One of the pending changes is reported. -/
inductive Call (form : Form) (c : Cascade) : Cascade → Prop where
  | report {front back changes : List Change} {change : Change}
      (hpending : c.pending = front ++ change :: back)
      (hchanges : Change.Cover c.data (change.answer form) changes) :
      Call form c (c.after form change (front ++ back) changes)

/-- A run of any length, with the pending changes taken in any order. -/
def Run (form : Form) : Cascade → Cascade → Prop := Relation.ReflTransGen (Call form)

/-- There is nothing left to report. -/
def Complete (c : Cascade) : Prop := c.pending = []

theorem length_reported_call {form : Form} {c c' : Cascade} (h : Call form c c') :
    c'.reported.length = c.reported.length + 1 := by
  cases h
  exact List.length_append

theorem call_first (form : Form) {c : Cascade} {change : Change} {back : List Change}
    (h : c.pending = change :: back) :
    Call form c (c.after form change back (Change.together c.data (change.answer form))) :=
  @Call.report form c [] back _ change h (Change.cover_together c.data (change.answer form))

theorem complete_or_exists_call (form : Form) (c : Cascade) :
    c.Complete ∨ ∃ next, Call form c next := by
  cases hpending : c.pending with
  | nil => exact .inl hpending
  | cons change back => exact .inr ⟨_, call_first form hpending⟩

variable {form : Form} {field : String} {previous current : Json} {c c' : Cascade}
variable {change : Change} {r : Reset}

/-! ### What every run keeps -/

/-- The fields that have been reset are different descendants of the field that the run began with.
Each of them has been reported or is pending, and it was reset when its parent was reported. -/
structure Invariant (form : Form) (field : String) (current : Json) (c : Cascade) : Prop where
  data_eq : c.data = Reset.applyAll current c.resets
  changed : (c.reported ++ c.pending.map Change.field).Perm (field :: c.resets.map Reset.field)
  nodup : (c.resets.map Reset.field).Nodup
  descends : ∀ r ∈ c.resets, form.tree.Descends r.field field
  called : ∀ r ∈ c.resets, ∃ parent ∈ c.reported, ∃ f ∈ form.fields,
    f.dependsOn = some parent ∧ r = f.reset

theorem invariant_start : Invariant form field current (start field previous current) where
  data_eq := rfl
  changed := .refl _
  nodup := List.nodup_nil
  descends := by simp [start]
  called := by simp [start]

namespace Invariant

theorem ne_of_mem (h : form.tree.Accepted) (hc : Invariant form field current c)
    (hr : r ∈ c.resets) : r.field ≠ field := by
  intro heq
  exact h.not_descends_self field (heq ▸ hc.descends r hr)

/-- No field is reported twice. -/
theorem nodup_changed (h : form.tree.Accepted) (hc : Invariant form field current c) :
    (c.reported ++ c.pending.map Change.field).Nodup := by
  rw [hc.changed.nodup_iff, List.nodup_cons]
  refine ⟨?_, hc.nodup⟩
  intro hmem
  obtain ⟨r, hr, hfield⟩ := List.mem_map.mp hmem
  exact hc.ne_of_mem h hr hfield

theorem eq_or_descends_of_pending (hc : Invariant form field current c)
    (hchange : change ∈ c.pending) :
    change.field = field ∨ form.tree.Descends change.field field := by
  have hmem : change.field ∈ field :: c.resets.map Reset.field :=
    hc.changed.mem_iff.mp (List.mem_append_right _ (List.mem_map_of_mem hchange))
  rcases List.mem_cons.mp hmem with hfield | hreset
  · exact .inl hfield
  · obtain ⟨r, hr, hfield⟩ := List.mem_map.mp hreset
    exact .inr (hfield ▸ hc.descends r hr)

theorem descends_of_mem_answer (h : form.tree.Accepted) (hc : Invariant form field current c)
    (hchange : change ∈ c.pending) (hr : r ∈ change.answer form) :
    form.tree.Descends r.field field := by
  obtain ⟨-, f, hf, hparent, -, rfl⟩ := (Form.mem_fieldChanged_iff h).mp hr
  have hstep : form.tree.DependsOn f.name change.field := ⟨f, hf, rfl, hparent⟩
  rcases hc.eq_or_descends_of_pending hchange with hfield | hdescends
  · exact .single (hfield ▸ hstep)
  · exact .head hstep hdescends

/-- A field whose reset is called for has not been reset before: its only parent has not been
reported yet. -/
theorem not_mem_of_mem_answer (h : form.tree.Accepted) (hc : Invariant form field current c)
    (hchange : change ∈ c.pending) (hr : r ∈ change.answer form) :
    r.field ∉ c.resets.map Reset.field := by
  intro hmem
  obtain ⟨s, hs, hfield⟩ := List.mem_map.mp hmem
  obtain ⟨parent, hreported, g, hg, hgparent, rfl⟩ := hc.called s hs
  obtain ⟨-, f, hf, hfparent, -, rfl⟩ := (Form.mem_fieldChanged_iff h).mp hr
  have hsame : g = f := Tree.eq_of_name_eq h.names_nodup hg hf hfield
  have hparent : parent = change.field := by
    rw [hsame, hfparent] at hgparent
    exact (Option.some.inj hgparent).symm
  have hapart := (List.nodup_append.mp (hc.nodup_changed h)).2.2
  exact hapart parent hreported change.field (List.mem_map_of_mem hchange) hparent

theorem nodup_append_answer (h : form.tree.Accepted) (hc : Invariant form field current c)
    (hchange : change ∈ c.pending) :
    ((c.resets ++ change.answer form).map Reset.field).Nodup := by
  rw [List.map_append, List.nodup_append]
  refine ⟨hc.nodup, Form.nodup_fieldChanged h _ _ _, ?_⟩
  rintro name hname _ hanswer rfl
  obtain ⟨r, hr, rfl⟩ := List.mem_map.mp hanswer
  exact hc.not_mem_of_mem_answer h hchange hr hname

theorem call (h : form.tree.Accepted) (hc : Invariant form field current c)
    (hcall : Call form c c') : Invariant form field current c' := by
  cases hcall with
  | @report front back changes change hpending hchanges =>
      have hchange : change ∈ c.pending := by simp [hpending]
      constructor
      case data_eq => rw [after_data, after_resets, Reset.applyAll_append, ← hc.data_eq]
      case nodup => exact hc.nodup_append_answer h hchange
      case changed =>
        have hold := hc.changed
        rw [hpending] at hold
        have hmove : (c.reported ++ [change.field] ++ (front ++ back).map Change.field).Perm
            (c.reported ++ (front ++ change :: back).map Change.field) := by
          rw [List.append_assoc, List.singleton_append, ← List.map_cons]
          exact (List.perm_middle.symm.map Change.field).append_left c.reported
        have hall := (hmove.trans hold).append_right ((change.answer form).map Reset.field)
        simpa [hchanges.fields] using hall
      case descends =>
        intro r hr
        rcases List.mem_append.mp hr with hold | hnew
        · exact hc.descends r hold
        · exact hc.descends_of_mem_answer h hchange hnew
      case called =>
        intro r hr
        rcases List.mem_append.mp hr with hold | hnew
        · obtain ⟨parent, hparent, howed⟩ := hc.called r hold
          exact ⟨parent, List.mem_append_left _ hparent, howed⟩
        · obtain ⟨-, f, hf, hparent, -, hreset⟩ := (Form.mem_fieldChanged_iff h).mp hnew
          exact ⟨change.field, by simp, f, hf, hparent, hreset⟩

end Invariant

theorem invariant_of_run (h : form.tree.Accepted)
    (hrun : Run form (start field previous current) c) : Invariant form field current c := by
  induction hrun with
  | refl => exact invariant_start
  | tail _ hcall ih => exact ih.call h hcall

namespace Invariant

/-- The form is called once for the change that the run began with, and at most once for each
descendant of its field. -/
theorem length_reported_le (hc : Invariant form field current c) :
    c.reported.length ≤ 1 + (form.tree.descendants field).ncard := by
  have hchanged := hc.changed.length_eq
  have hdescend : ∀ name ∈ c.resets.map Reset.field, form.tree.Descends name field := by
    intro name hname
    obtain ⟨r, hr, rfl⟩ := List.mem_map.mp hname
    exact hc.descends r hr
  have hle := Tree.length_le_ncard_descendants hc.nodup hdescend
  simp only [List.length_append, List.length_cons, List.length_map] at hchanged hle
  omega

/-- All that has been reset is at separate places. -/
theorem pairwise_separate (h : form.tree.Accepted)
    (hplain : ∀ f ∈ form.fields, Path.Plain f.name) (hc : Invariant form field current c) :
    c.resets.Pairwise fun r s => Path.Separate r.field s.field := by
  have hsep := Form.separatesFields_of_plain h hplain
  refine (List.pairwise_map.mp hc.nodup).imp_of_mem ?_
  intro r s hr hs hne
  obtain ⟨-, -, f, hf, -, rfl⟩ := hc.called r hr
  obtain ⟨-, -, g, hg, -, rfl⟩ := hc.called s hs
  exact hsep.separate_of_ne hf hg hne

theorem get_data (h : form.tree.Accepted) (hplain : ∀ f ∈ form.fields, Path.Plain f.name)
    (hc : Invariant form field current c) (hr : r ∈ c.resets) :
    ∃ f ∈ form.fields, f.name = r.field ∧ Path.get c.data f.name = some f.resetValue := by
  have hsep := hc.pairwise_separate h hplain
  obtain ⟨-, -, f, hf, -, rfl⟩ := hc.called r hr
  refine ⟨f, hf, rfl, ?_⟩
  rw [hc.data_eq]
  exact Reset.get_applyAll_of_mem hsep hr current

end Invariant

/-! ### Runs end -/

/-- A run can be carried on until there is nothing left to report. -/
theorem exists_complete_run (h : form.tree.Accepted) (field : String) (previous current : Json) :
    ∃ c, Run form (start field previous current) c ∧ c.Complete := by
  -- Each call uses up one of those that are left.
  suffices hmore : ∀ (left : Nat) (c : Cascade), Run form (start field previous current) c →
      1 + (form.tree.descendants field).ncard - c.reported.length = left →
        ∃ c, Run form (start field previous current) c ∧ c.Complete from
    hmore _ _ .refl rfl
  intro left
  induction left with
  | zero =>
      intro c hrun hleft
      rcases complete_or_exists_call form c with hcomplete | ⟨next, hcall⟩
      · exact ⟨c, hrun, hcomplete⟩
      · have hbound := (invariant_of_run h (hrun.tail hcall)).length_reported_le
        rw [length_reported_call hcall] at hbound
        omega
  | succ left ih =>
      intro c hrun hleft
      rcases complete_or_exists_call form c with hcomplete | ⟨next, hcall⟩
      · exact ⟨c, hrun, hcomplete⟩
      · refine ih next (hrun.tail hcall) ?_
        rw [length_reported_call hcall]
        omega

/-- No run goes on for ever. -/
theorem not_forall_call (h : form.tree.Accepted) {states : Nat → Cascade}
    (hstart : states 0 = start field previous current) :
    ¬ ∀ n, Call form (states n) (states (n + 1)) := by
  intro hcalls
  have hrun : ∀ n, Run form (start field previous current) (states n) := by
    intro n
    induction n with
    | zero => rw [hstart]; exact .refl
    | succ n ih => exact ih.tail (hcalls n)
  have hlength : ∀ n, (states n).reported.length = n := by
    intro n
    induction n with
    | zero => rw [hstart]; rfl
    | succ n ih => rw [length_reported_call (hcalls n), ih]
  have hbound := (invariant_of_run h
    (hrun (2 + (form.tree.descendants field).ncard))).length_reported_le
  rw [hlength] at hbound
  omega

/-! ### Runs agree -/

/-- A field is changed: the first one by what the run began with, each other one by its reset. -/
def moves (form : Form) (field : String) (previous current : Json) (name : String) : Bool :=
  if name = field then valueChanged previous current name
  else !Json.sameOption (Path.get current name) ((form.tree.field? name).map Field.resetValue)

/-- What the form answers when a change of the given field is reported, in whatever order. -/
def answerTo (form : Form) (field : String) (previous current : Json) (name : String) :
    List Reset :=
  if moves form field previous current name then Reset.owed form.tree form.dependencies name else []

/-- The answers to the pending changes are those to their fields, and those to the reported fields
have been carried out. -/
structure Determined (form : Form) (field : String) (previous current : Json) (c : Cascade) :
    Prop where
  pending : ∀ change ∈ c.pending,
    change.answer form = answerTo form field previous current change.field
  reported : ∀ name ∈ c.reported, answerTo form field previous current name ⊆ c.resets

theorem determined_start :
    Determined form field previous current (start field previous current) where
  pending := by
    intro change hchange
    obtain rfl : change = ⟨field, previous, current⟩ := List.mem_singleton.mp hchange
    simp [Change.answer, Form.fieldChanged, answerTo, moves]
  reported := by simp [start]

section

variable (h : form.tree.Accepted) (hplain : ∀ f ∈ form.fields, Path.Plain f.name)
variable (hunlisted : ∀ f ∈ form.fields, Path.Unlisted f.name current)
include h hplain hunlisted

/-- Where no list is above a field, its reset changes the value that the field had when the run
began, whatever has been reset before and after. -/
theorem Invariant.valueChanged_eq {resets front back before after : List Reset} {data : Json}
    {f : Field} (hc : Invariant form field current c)
    (hresets : c.resets = resets ++ (front ++ f.reset :: back))
    (hdata : data = Reset.applyAll current resets) (hf : f ∈ form.fields)
    (hbefore : before <+: front) (hafter : after <+: back) :
    valueChanged (Reset.applyAll data before) (Reset.applyAll data (front ++ f.reset :: after))
        f.name =
      !Json.sameOption (Path.get current f.name) (some f.resetValue) := by
  have hsep := hc.pairwise_separate h hplain
  rw [hresets, ← List.append_assoc, List.pairwise_append, List.pairwise_cons] at hsep
  obtain ⟨-, ⟨hlater, -⟩, hearlier⟩ := hsep
  have hold : Path.get (Reset.applyAll data before) f.name = Path.get current f.name := by
    rw [hdata, ← Reset.applyAll_append]
    refine Reset.get_applyAll_of_unlisted (hunlisted f hf) fun s hs => ?_
    have hmem : s ∈ resets ++ front := by
      rcases List.mem_append.mp hs with hs | hs
      · exact List.mem_append_left _ hs
      · exact List.mem_append_right _ (hbefore.subset hs)
    exact (hearlier s hmem f.reset (List.mem_cons_self ..)).symm
  have hnew : Path.get (Reset.applyAll data (front ++ f.reset :: after)) f.name =
      some f.resetValue :=
    Reset.get_applyAll (fun s hs => hlater s (hafter.subset hs)) data front
  rw [valueChanged, hold, hnew]

/-- What the form answers to the change that a reset makes is the same in all runs. -/
theorem Invariant.answer_of_isOneOf {resets answer : List Reset} {data : Json}
    (hc : Invariant form field current c) (hresets : c.resets = resets ++ answer)
    (hdata : data = Reset.applyAll current resets) (hchange : change.IsOneOf data answer) :
    change.answer form = answerTo form field previous current change.field := by
  obtain ⟨front, r, back, before, after, rfl, hbefore, hafter, rfl⟩ := hchange
  have hr : r ∈ c.resets := by simp [hresets]
  obtain ⟨-, -, f, hf, -, rfl⟩ := hc.called r hr
  have hne : f.name ≠ field := hc.ne_of_mem h hr
  have hfound : form.tree.field? f.name = some f := Tree.field?_name h.names_nodup hf
  have hmoves : moves form field previous current f.name =
      valueChanged (Reset.applyAll data before) (Reset.applyAll data (front ++ f.reset :: after))
        f.name := by
    rw [hc.valueChanged_eq h hplain hunlisted hresets hdata hf hbefore hafter, moves, if_neg hne,
      hfound, Option.map_some]
  show form.fieldChanged f.name _ _ = answerTo form field previous current f.name
  rw [Form.fieldChanged, answerTo, hmoves]

theorem Determined.call (hc : Invariant form field current c)
    (hd : Determined form field previous current c) (hcall : Call form c c') :
    Determined form field previous current c' := by
  have hc' : Invariant form field current c' := hc.call h hcall
  cases hcall with
  | @report front back changes change hpending hchanges =>
      have hanswer : change.answer form = answerTo form field previous current change.field :=
        hd.pending change (by simp [hpending])
      constructor
      case pending =>
        intro other hother
        rcases List.mem_append.mp hother with hold | hnew
        · apply hd.pending
          rw [hpending]
          exact List.mem_append.mpr
            ((List.mem_append.mp hold).imp_right (List.mem_cons_of_mem change))
        · exact hc'.answer_of_isOneOf h hplain hunlisted rfl hc.data_eq
            (hchanges.isOneOf other hnew)
      case reported =>
        intro name hname
        rcases List.mem_append.mp hname with hold | hnew
        · exact List.subset_append_of_subset_left _ (hd.reported name hold)
        · obtain rfl : name = change.field := List.mem_singleton.mp hnew
          rw [← hanswer]
          exact List.subset_append_right _ _

theorem determined_of_run (hrun : Run form (start field previous current) c) :
    Determined form field previous current c := by
  induction hrun with
  | refl => exact determined_start
  | tail hrun hcall ih => exact ih.call h hplain hunlisted (invariant_of_run h hrun) hcall

/-- Whatever is reset in a run is reset in each complete one. -/
theorem resets_subset (hrun : Run form (start field previous current) c)
    (hrun' : Run form (start field previous current) c') (hcomplete : c'.Complete) :
    c.resets ⊆ c'.resets := by
  have hc' := invariant_of_run h hrun'
  have hd' := determined_of_run h hplain hunlisted hrun'
  have hreported : c'.reported.Perm (field :: c'.resets.map Reset.field) := by
    have hchanged := hc'.changed
    rwa [show c'.pending = [] from hcomplete, List.map_nil, List.append_nil] at hchanged
  induction hrun with
  | refl => exact List.nil_subset _
  | @tail middle _ hrun hcall ih =>
      have hc := invariant_of_run h hrun
      have hd := determined_of_run h hplain hunlisted hrun
      cases hcall with
      | @report front back changes change hpending hchanges =>
          have hchange : change ∈ middle.pending := by simp [hpending]
          -- The complete run has reported the change, as its field has been reset there, too.
          have hchanged : change.field ∈ field :: middle.resets.map Reset.field :=
            hc.changed.mem_iff.mp (List.mem_append_right _ (List.mem_map_of_mem hchange))
          have hmem : change.field ∈ c'.reported :=
            hreported.mem_iff.mpr (List.cons_subset_cons _ (List.map_subset _ ih) hchanged)
          apply List.append_subset.mpr ⟨ih, ?_⟩
          rw [hd.pending change hchange]
          exact hd'.reported _ hmem

/-- Complete runs lead to the same data by the same resets. -/
theorem complete_runs_agree (hrun : Run form (start field previous current) c)
    (hrun' : Run form (start field previous current) c') (hcomplete : c.Complete)
    (hcomplete' : c'.Complete) : c.data = c'.data ∧ c.resets.Perm c'.resets := by
  have hc := invariant_of_run h hrun
  have hc' := invariant_of_run h hrun'
  have hperm : c.resets.Perm c'.resets := by
    rw [List.perm_ext_iff_of_nodup hc.nodup.of_map hc'.nodup.of_map]
    intro r
    exact ⟨fun hr => resets_subset h hplain hunlisted hrun hrun' hcomplete' hr,
      fun hr => resets_subset h hplain hunlisted hrun' hrun hcomplete hr⟩
  refine ⟨?_, hperm⟩
  rw [hc.data_eq, hc'.data_eq]
  exact Reset.applyAll_perm (hc.pairwise_separate h hplain) hperm current

end

end Cascade

open Cascade in
/-- Whatever change a run begins with, and in whatever order pending changes are reported, each
field is reset at most once, only descendants of the changed field are, and they keep their reset
values; the form is called no more often than there are fields that can change, after which there is
nothing left to report.  Complete runs lead to the same data by the same resets, provided that no
list is above a field to begin with. -/
theorem Form.cascades_finite_confluent {form : Form} (h : form.tree.Accepted)
    (hplain : ∀ f ∈ form.fields, Path.Plain f.name) (field : String) (previous current : Json) :
    (∀ c, Run form (start field previous current) c →
      (c.resets.map Reset.field).Nodup ∧
        (∀ r ∈ c.resets, r.field ≠ field ∧ form.tree.Descends r.field field ∧
          ∃ f ∈ form.fields, f.name = r.field ∧ Path.get c.data f.name = some f.resetValue) ∧
        c.reported.length ≤ 1 + (form.tree.descendants field).ncard ∧
        (c.Complete ∨ ∃ next, Call form c next)) ∧
      (∀ states : Nat → Cascade, states 0 = start field previous current →
        ¬ ∀ n, Call form (states n) (states (n + 1))) ∧
      (∃ c, Run form (start field previous current) c ∧ c.Complete) ∧
      ((∀ f ∈ form.fields, Path.Unlisted f.name current) → ∀ c c',
        Run form (start field previous current) c → Run form (start field previous current) c' →
          c.Complete → c'.Complete → c.data = c'.data ∧ c.resets.Perm c'.resets) := by
  refine ⟨?_, ?_, exists_complete_run h field previous current, ?_⟩
  · intro c hrun
    have hc : Invariant form field current c := invariant_of_run h hrun
    refine ⟨hc.nodup, ?_, hc.length_reported_le, complete_or_exists_call form c⟩
    intro r hr
    exact ⟨hc.ne_of_mem h hr, hc.descends r hr, hc.get_data h hplain hr⟩
  · intro states hstart
    exact not_forall_call h hstart
  · intro hunlisted c c' hrun hrun' hcomplete hcomplete'
    exact complete_runs_agree h hplain hunlisted hrun hrun' hcomplete hcomplete'

/-! ### A chain of fields -/

namespace Places

/-- A country, a city that depends on it, and a district that depends on the city. -/
def declarations : List Declaration :=
  [.element { kind := some "text", name := some "country" } none none,
    .element { kind := some "text", name := some "city", dependsOn := some "country" } none none,
    .element { kind := some "text", name := some "district", dependsOn := some "city" } none none]

def country : Field := .single (Jobs.plainInfo "text" "country") .generic

def city : Field :=
  .single { Jobs.plainInfo "text" "city" with dependsOn := some "country" } .generic

def district : Field :=
  .single { Jobs.plainInfo "text" "district" with dependsOn := some "city" } .generic

def form : Form where
  tree := ⟨[.field country, .field city, .field district]⟩
  options := {}
  operations := Rule.defaultOperations

theorem accepted_form : form.tree.Accepted := ⟨none, declarations, rfl⟩

def kyiv : Json :=
  .object [("city", .text "kyiv"), ("country", .text "ua"), ("district", .text "podil")]

def moved : Json :=
  .object [("city", .text "kyiv"), ("country", .text "us"), ("district", .text "podil")]

def between : Json :=
  .object [("city", .text ""), ("country", .text "us"), ("district", .text "podil")]

def cleared : Json :=
  .object [("city", .text ""), ("country", .text "us"), ("district", .text "")]

theorem plain_names : ∀ f ∈ form.fields, Path.Plain f.name :=
  Form.plain_of_names (by decide +kernel)

theorem unlisted_moved : ∀ f ∈ form.fields, Path.Unlisted f.name moved := by
  have hnames : ∀ name ∈ form.fields.map Field.name, Path.segments name = [name] := by
    decide +kernel
  intro f hf
  exact Path.unlisted_of_segments_eq_singleton (hnames f.name (List.mem_map_of_mem hf)) nofun

/-- The country is reported, then the city, then the district. -/
theorem exists_run_clear : ∃ c, Cascade.Run form (.start "country" kyiv moved) c ∧ c.Complete ∧
    c.data = cleared := by
  have hcountry : form.fieldChanged "country" kyiv moved = [⟨"city", .text ""⟩] := rfl
  have hcity : form.fieldChanged "city" moved between = [⟨"district", .text ""⟩] := rfl
  have hdistrict : form.fieldChanged "district" between cleared = [] := rfl
  have hbetween : Path.set moved "city" (.text "") = between := rfl
  have hcleared : Path.set between "district" (.text "") = cleared := rfl
  have hfirst := Cascade.call_first form (c := .start "country" kyiv moved) rfl
  simp only [Cascade.after, Cascade.start, Change.answer, Change.together, hcountry, hbetween,
    Reset.applyAll_cons, Reset.applyAll_nil, List.map_cons, List.map_nil, List.nil_append] at hfirst
  have hsecond := Cascade.call_first form
    (c := ⟨between, [⟨"city", moved, between⟩], ["country"], [⟨"city", .text ""⟩]⟩) rfl
  simp only [Cascade.after, Change.answer, Change.together, hcity, hcleared,
    Reset.applyAll_cons, Reset.applyAll_nil, List.map_cons, List.map_nil,
    List.nil_append] at hsecond
  have hthird := Cascade.call_first form
    (c := ⟨cleared, [⟨"district", between, cleared⟩], ["country", "city"],
      [⟨"city", .text ""⟩, ⟨"district", .text ""⟩]⟩) rfl
  simp only [Cascade.after, Change.answer, Change.together, hdistrict,
    Reset.applyAll_nil, List.map_nil, List.nil_append] at hthird
  exact ⟨_, .head hfirst (.head hsecond (.single hthird)), rfl, rfl⟩

/-- In each complete run a change of the country clears the city and, in its turn, the district. -/
theorem data_of_complete_runs :
    Cascade.data '' {c | Cascade.Run form (.start "country" kyiv moved) c ∧ c.Complete} =
      {cleared} := by
  have hcascade := Form.cascades_finite_confluent accepted_form plain_names "country" kyiv moved
  obtain ⟨c', hrun', hcomplete', hdata⟩ := exists_run_clear
  apply Set.Subset.antisymm
  · rintro _ ⟨c, ⟨hrun, hcomplete⟩, rfl⟩
    have hagree := hcascade.2.2.2 unlisted_moved c c' hrun hrun' hcomplete hcomplete'
    exact hagree.1.trans hdata
  · rintro _ rfl
    exact ⟨c', ⟨hrun', hcomplete'⟩, hdata⟩

end Places

end FormLogic
