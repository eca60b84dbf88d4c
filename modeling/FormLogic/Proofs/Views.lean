import FormLogic.Proofs.Commands
import FormLogic.Proofs.Configuration.Records
import FormLogic.Proofs.Reset
import FormLogic.Proofs.Visibility

/-!
# What replies say of the fields

The fields of a form show in several replies: as a list in its description, as leaves among the
targets of rendering, as keys of the visibility, and as names in the dependencies.  A host that
reads one of these replies finds the fields that it knows from the others.
-/

namespace FormLogic.Gateway

open CommandLine (member? member?_ofEntries_eq textEntry? textEntry?_ofEntries_eq)

/-! ### Replies as a host reads them -/

/-- What a host learns of a field. -/
structure Listed where
  name : String
  renderKey : String
  dependsOn : Option String

def Listed.read? (v : Json) : Option Listed := do
  let name ← textEntry? "name" v
  let renderKey ← textEntry? "renderKey" v
  return { name, renderKey, dependsOn := textEntry? "dependsOn" v }

/-- The fields that a description lists. -/
def listed? (description : Json) : Option (List Listed) :=
  (member? "fields" description).bind (Json.asListOf Listed.read?)

mutual

/-- The targets of rendering that are fields, from top to bottom. -/
def leaves : Json → List Json
  | .array items => leavesOfAll items
  | .object entries =>
      if textEntry? "element" (.object entries) = some "field" then [.object entries]
      else leavesBelow entries
  | _ => []

def leavesOfAll : List Json → List Json
  | [] => []
  | item :: items => leaves item ++ leavesOfAll items

/-- The fields among the children of a target with these entries. -/
def leavesBelow : List (String × Json) → List Json
  | [] => []
  | (key, v) :: entries => (if key = "children" then leaves v else []) ++ leavesBelow entries

end

/-- The name and the key of display of a target. -/
def target? (v : Json) : Option (String × String) := do
  return (← textEntry? "name" v, ← textEntry? "renderKey" v)

/-- The fields among the targets of rendering. -/
def targets? (v : Json) : Option (List (String × String)) := (leaves v).mapM target?

/-- The names of the fields that depend on a field, as they are listed. -/
def dependentsOf (parent : String) (fields : List Listed) : List String :=
  (fields.filter fun f => f.dependsOn == some parent).map Listed.name

/-- The dependencies arrange the fields that depend on others by the fields that they depend on. -/
structure Arranges (dependencies : Dependencies) (fields : List Listed) : Prop where
  keys_nodup : dependencies.keys.Nodup
  keys_listed : ∀ parent ∈ dependencies.keys, parent ∈ fields.map Listed.name
  mem_keys : ∀ f ∈ fields, ∀ parent ∈ f.dependsOn, parent ∈ dependencies.keys
  names_eq : ∀ entry ∈ dependencies, entry.2 = dependentsOf entry.1 fields
  names_ne_nil : ∀ entry ∈ dependencies, entry.2 ≠ []
  names_nodup : ∀ entry ∈ dependencies, entry.2.Nodup
  count_name : ∀ entry ∈ dependencies, ∀ f ∈ fields,
    entry.2.count f.name = if f.dependsOn = some entry.1 then 1 else 0

/-! ### Fields in replies -/

/-- What a host learns of the field. -/
def listed (f : Field) : Listed := ⟨f.name, f.renderKey, f.dependsOn⟩

theorem read?_fieldJson (f : Field) : Listed.read? (fieldJson f) = some (listed f) := by
  have hname : textEntry? "name" (fieldJson f) = some f.name := by
    rw [fieldJson, textEntry?_ofEntries_eq]
    cases f.dependsOn <;> cases f.info.metadata <;> rfl
  have hkey : textEntry? "renderKey" (fieldJson f) = some f.renderKey := by
    rw [fieldJson, textEntry?_ofEntries_eq]
    cases f.dependsOn <;> cases f.info.metadata <;> rfl
  have hparent : textEntry? "dependsOn" (fieldJson f) = f.dependsOn := by
    rw [fieldJson, textEntry?_ofEntries_eq]
    cases f.dependsOn <;> cases f.info.metadata <;> rfl
  rw [Listed.read?, hname, hkey, hparent]
  rfl

theorem listed?_description (form : Form) :
    listed? (description form) = some (form.fields.map listed) := by
  have hfields : member? "fields" (description form) =
      some (.array (form.fields.map fieldJson)) := by
    rw [description, member?_ofEntries_eq]
    rfl
  rw [listed?, hfields, Option.bind_some, Json.asListOf_eq_some_iff]
  refine ⟨_, rfl, ?_⟩
  simp [read?_fieldJson]

theorem leavesBelow_eq {entries : List (String × Json)} (h : (Dictionary.keys entries).Nodup) :
    leavesBelow entries =
      ((Dictionary.lookup "children" entries).map leaves).getD [] := by
  induction entries with
  | nil =>
      rw [leavesBelow]
      rfl
  | cons entry entries ih =>
      obtain ⟨key, v⟩ := entry
      rw [Dictionary.keys_cons, List.nodup_cons] at h
      rw [leavesBelow, ih h.2, Dictionary.lookup_cons]
      by_cases hkey : key = "children"
      · subst hkey
        -- The children are found once.
        rw [Dictionary.lookup_eq_none_iff.mpr h.1]
        simp
      · simp [hkey, Ne.symm hkey]

/-- The leaves of an object are the object itself, or those of its children. -/
theorem leaves_ofEntries (entries : List (String × Json)) :
    leaves (.ofEntries entries) =
      if textEntry? "element" (.ofEntries entries) = some "field" then [.ofEntries entries]
      else ((member? "children" (.ofEntries entries)).map leaves).getD [] := by
  rw [Json.ofEntries, leaves, leavesBelow_eq (Dictionary.ascending_ofList entries).nodup_keys,
    member?]

theorem leavesOfAll_renderTargetsOf {nodes : List Node}
    (h : ∀ n ∈ nodes, leaves (renderTarget n) =
      n.fields.map fun f => renderTarget (.field f)) :
    leavesOfAll (renderTargetsOf nodes) =
      (Node.fieldsOfAll nodes).map fun f => renderTarget (.field f) := by
  induction nodes with
  | nil => rw [renderTargetsOf, leavesOfAll, Node.fieldsOfAll, List.map_nil]
  | cons n nodes ih =>
      rw [List.forall_mem_cons] at h
      rw [renderTargetsOf, leavesOfAll, Node.fieldsOfAll, List.map_append, h.1, ih h.2]

theorem leaves_renderTarget (n : Node) :
    leaves (renderTarget n) = n.fields.map fun f => renderTarget (.field f) := by
  induction n using Node.induction with
  | field f =>
      have helement : textEntry? "element" (renderTarget (.field f)) = some "field" := by
        rw [renderTarget, textEntry?_ofEntries_eq]
        rfl
      rw [renderTarget] at helement
      rw [renderTarget, leaves_ofEntries, if_pos helement, Node.fields, List.map_singleton,
        renderTarget]
  | container variant visible metadata children ih =>
      have helement : textEntry? "element" (renderTarget
          (.container variant visible metadata children)) = some Node.containerType := by
        rw [renderTarget, textEntry?_ofEntries_eq]
        rfl
      have hchildren : member? "children" (renderTarget
          (.container variant visible metadata children)) =
          some (.array (renderTargetsOf children)) := by
        rw [renderTarget, member?_ofEntries_eq]
        rfl
      rw [renderTarget] at helement hchildren
      rw [renderTarget, leaves_ofEntries, helement, if_neg (by decide), hchildren, Option.map_some,
        Option.getD_some, leaves, leavesOfAll_renderTargetsOf ih, Node.fields]

theorem targets?_renderTargetsOf (t : Tree) :
    targets? (.array (renderTargetsOf t.roots)) =
      some (t.fields.map fun f => (f.name, f.renderKey)) := by
  have htarget : ∀ f : Field, target? (renderTarget (.field f)) = some (f.name, f.renderKey) := by
    intro f
    rw [renderTarget, target?, textEntry?_ofEntries_eq, textEntry?_ofEntries_eq]
    rfl
  have hread : Json.asListOf target? (.array (t.fields.map fun f => renderTarget (.field f))) =
      some (t.fields.map fun f => (f.name, f.renderKey)) := by
    rw [Json.asListOf_eq_some_iff]
    exact ⟨_, rfl, by simp [htarget]⟩
  rw [targets?, leaves, leavesOfAll_renderTargetsOf fun n _ => leaves_renderTarget n]
  exact hread

/-! ### Dependencies in replies -/

theorem dependentsOf_listed (parent : String) (fields : List Field) :
    dependentsOf parent (fields.map listed) = (Field.dependents parent fields).map Field.name := by
  rw [dependentsOf, List.filter_map, List.map_map, Field.dependents]
  rfl

theorem map_name_listed (fields : List Field) :
    (fields.map listed).map Listed.name = fields.map Field.name := by
  rw [List.map_map]
  rfl

theorem nodup_dependentsOf {fields : List Listed} (h : (fields.map Listed.name).Nodup)
    (parent : String) : (dependentsOf parent fields).Nodup :=
  h.sublist (List.filter_sublist.map Listed.name)

theorem mem_dependentsOf_iff {fields : List Listed} (h : (fields.map Listed.name).Nodup)
    {f : Listed} (hf : f ∈ fields) {parent : String} :
    f.name ∈ dependentsOf parent fields ↔ f.dependsOn = some parent := by
  simp only [dependentsOf, List.mem_map, List.mem_filter, beq_iff_eq]
  constructor
  · rintro ⟨g, ⟨hg, hparent⟩, hname⟩
    obtain rfl : g = f := List.inj_on_of_nodup_map h hg hf hname
    exact hparent
  · intro hparent
    exact ⟨f, ⟨hf, hparent⟩, rfl⟩

/-- The dependencies of an accepted form arrange its fields. -/
theorem arranges_ofTree {t : Tree} (h : t.Accepted) :
    Arranges (.ofTree t) (t.fields.map listed) := by
  have hkeys : (Dictionary.keys (Dependencies.ofTree t)).Nodup :=
    (Dependencies.ascending_ofTree t).nodup_keys
  have hnodup : ((t.fields.map listed).map Listed.name).Nodup := by
    rw [map_name_listed]
    exact h.names_nodup
  have hentry : ∀ entry ∈ Dependencies.ofTree t,
      Field.dependents entry.1 t.fields ≠ [] ∧
        entry.2 = dependentsOf entry.1 (t.fields.map listed) := by
    intro entry hmem
    have hlookup := (Dictionary.lookup_eq_some_iff hkeys).mpr hmem
    rw [Dependencies.lookup_ofTree_eq] at hlookup
    split_ifs at hlookup with hnil
    exact ⟨hnil, by rw [dependentsOf_listed, Option.some.inj hlookup]⟩
  refine
    { keys_nodup := hkeys
      keys_listed := ?_
      mem_keys := ?_
      names_eq := fun entry hmem => (hentry entry hmem).2
      names_ne_nil := ?_
      names_nodup := ?_
      count_name := ?_ }
  · intro parent hparent
    obtain ⟨names, hmem⟩ := Dictionary.mem_keys_iff.mp hparent
    obtain ⟨f, hf⟩ := List.exists_mem_of_ne_nil _ (hentry _ hmem).1
    obtain ⟨hfields, hdepends⟩ := Field.mem_dependents.mp hf
    -- The parent of a field is a field.
    obtain ⟨-, g, hg, rfl⟩ :=
      h.coherent.parents_known f.info (List.mem_map_of_mem hfields) parent hdepends
    obtain ⟨field, hfield, rfl⟩ := List.mem_map.mp hg
    rw [map_name_listed]
    exact List.mem_map_of_mem hfield
  · intro l hl parent hparent
    obtain ⟨f, hf, rfl⟩ := List.mem_map.mp hl
    have hne : Field.dependents parent t.fields ≠ [] :=
      List.ne_nil_of_mem (Field.mem_dependents.mpr ⟨hf, hparent⟩)
    rw [← Dictionary.exists_lookup_eq_some_iff, Dependencies.lookup_ofTree_eq, if_neg hne]
    exact ⟨_, rfl⟩
  · intro entry hmem
    obtain ⟨hne, heq⟩ := hentry entry hmem
    rw [heq, dependentsOf_listed]
    exact mt List.map_eq_nil_iff.mp hne
  · intro entry hmem
    rw [(hentry entry hmem).2]
    exact nodup_dependentsOf hnodup entry.1
  · intro entry hmem f hf
    rw [(hentry entry hmem).2]
    by_cases hparent : f.dependsOn = some entry.1
    · rw [if_pos hparent]
      exact List.count_eq_one_of_mem (nodup_dependentsOf hnodup entry.1)
        ((mem_dependentsOf_iff hnodup hf).mpr hparent)
    · rw [if_neg hparent]
      exact List.count_eq_zero_of_not_mem (mt (mem_dependentsOf_iff hnodup hf).mp hparent)

/-! ### Replies on data -/

theorem keys_visibility_perm {form : Form} (h : form.tree.Accepted) (data : Json) :
    (Dictionary.keys (form.visibility data)).Perm ((form.fields.map listed).map Listed.name) := by
  rw [map_name_listed]
  refine (List.perm_ext_iff_of_nodup ?_ h.names_nodup).mpr ?_
  · exact (Visibility.ascending_ofTree form.tree).nodup_keys
  · intro name
    rw [Form.visibility, Visibility.mem_keys_ofTree, List.mem_map]

/-- The replies on a change of data agree with those on visibility and on validation. -/
theorem members_dataChanged (form : Form) (data : Json) (withErrors : Bool) :
    member? "visibility" (form.dataChanged data withErrors).toJson =
        some (form.visibility data).toJson ∧
      member? "errors" (form.dataChanged data withErrors).toJson =
        if withErrors then member? "errors" (validation (form.resolve data)) else none := by
  rw [DataChange.toJson, member?_ofEntries_eq, member?_ofEntries_eq, validation,
    member?_ofEntries_eq]
  cases withErrors <;> exact ⟨rfl, rfl⟩

theorem exists_form_of_not_rejected {configuration : String} (h : ¬ Rejected configuration) :
    ∃ form, openForm configuration = .ok form ∧ form.tree.Accepted := by
  rw [← fails_openForm_iff] at h
  cases hopen : openForm configuration with
  | error failure => exact absurd ⟨failure, hopen⟩ h
  | ok form =>
      refine ⟨form, rfl, ?_⟩
      rw [openForm] at hopen
      cases hread : readConfiguration configuration with
      | error failure =>
          rw [hread] at hopen
          cases hopen
      | ok source =>
          rw [hread] at hopen
          cases hform : Form.ofConfiguration Rule.defaultOperations none source with
          | error e => simp [hform, bind, Except.bind] at hopen
          | ok found =>
              simp only [hform, bind, Except.bind, Except.ok.injEq] at hopen
              subst hopen
              exact Form.accepted_of_ofConfiguration hform

theorem exists_input_of_not_unreadable {source : String} (h : ¬ Unreadable source)
    (input : Input) : ∃ v, readInput input source = .ok v := by
  cases hread : readInput input source with
  | error failure => exact absurd (fails_readInput_iff.mp ⟨failure, hread⟩) h
  | ok v => exact ⟨v, rfl⟩

section

variable {configuration : String} {form : Form} (hopen : openForm configuration = .ok form)

include hopen

theorem describe_eq : describe configuration = (description form).print := by
  simp [describe, describeResult, hopen, reply, bind, Except.bind, pure, Except.pure]

theorem renderTargets_eq :
    renderTargets configuration = (Json.array (renderTargetsOf form.tree.roots)).print := by
  simp [renderTargets, renderTargetsResult, hopen, reply, bind, Except.bind, pure, Except.pure]

variable {data : String} {v : Json} (hread : readInput .data data = .ok v)

include hread

theorem visibility_eq : visibility configuration data = (form.visibility v).toJson.print := by
  simp [visibility, visibilityResult, hopen, hread, reply, bind, Except.bind, pure, Except.pure]

theorem validate_eq : validate configuration data = (validation (form.resolve v)).print := by
  simp [validate, validateResult, hopen, hread, reply, bind, Except.bind, pure, Except.pure]

theorem onChange_eq (withErrors : Bool) :
    onChange configuration data withErrors = (form.dataChanged v withErrors).toJson.print := by
  simp [onChange, onChangeResult, hopen, hread, reply, bind, Except.bind, pure, Except.pure]

end

/-- All replies on a form of an accepted configuration speak of the same fields, which its
description lists. -/
theorem replies_on_same_fields {configuration : String} (h : ¬ Rejected configuration) :
    ∃ description targets fields dependencies,
      describe configuration = description.print ∧
      renderTargets configuration = targets.print ∧
      listed? description = some fields ∧
      targets? targets = some (fields.map fun f => (f.name, f.renderKey)) ∧
      (fields.map Listed.name).Nodup ∧
      member? "dependencies" description = some (Dependencies.toJson dependencies) ∧
      Arranges dependencies fields ∧
      ∀ data, ¬ Unreadable data → ∃ shown errors validated,
        visibility configuration data = (Visibility.toJson shown).print ∧
        (Dictionary.keys shown).Perm (fields.map Listed.name) ∧
        validate configuration data = validated.print ∧
        member? "errors" validated = some errors ∧
        ∀ withErrors, ∃ change,
          onChange configuration data withErrors = change.print ∧
          member? "visibility" change = some (Visibility.toJson shown) ∧
          member? "errors" change = if withErrors then some errors else none := by
  obtain ⟨form, hopen, haccepted⟩ := exists_form_of_not_rejected h
  have hnames : ((form.fields.map listed).map Listed.name).Nodup := by
    rw [map_name_listed]
    exact haccepted.names_nodup
  have hdependencies : member? "dependencies" (description form) =
      some form.dependencies.toJson := by
    rw [description, member?_ofEntries_eq]
    rfl
  have htargets : targets? (.array (renderTargetsOf form.tree.roots)) =
      some ((form.fields.map listed).map fun f => (f.name, f.renderKey)) := by
    rw [targets?_renderTargetsOf, List.map_map]
    rfl
  refine ⟨_, _, _, _, describe_eq hopen, renderTargets_eq hopen, listed?_description form,
    htargets, hnames, hdependencies, arranges_ofTree haccepted, ?_⟩
  intro data hdata
  obtain ⟨v, hread⟩ := exists_input_of_not_unreadable hdata .data
  have herrors : member? "errors" (validation (form.resolve v)) =
      some (FieldErrors.toJson (form.resolve v)) := by
    rw [validation, member?_ofEntries_eq]
    rfl
  refine ⟨_, _, _, visibility_eq hopen hread, keys_visibility_perm haccepted v,
    validate_eq hopen hread, herrors, ?_⟩
  intro withErrors
  obtain ⟨hshown, hreported⟩ := members_dataChanged form v withErrors
  exact ⟨_, onChange_eq hopen hread withErrors, hshown, herrors ▸ hreported⟩

/-- The registration form, which a blank text stands for, is described and displayed alike. -/
theorem registration_in_replies :
    ∃ description targets fields shown,
      describe "" = description.print ∧ renderTargets "" = targets.print ∧
        listed? description = some fields ∧
        targets? targets = some (fields.map fun f => (f.name, f.renderKey)) ∧
        visibility "" "" = (Visibility.toJson shown).print ∧
        (Dictionary.keys shown).Perm (fields.map Listed.name) := by
  have hopen : (openForm "").toBool = true := by decide +kernel
  have haccepted : ¬ Rejected "" := by
    rw [← fails_openForm_iff]
    rintro ⟨failure, hfailure⟩
    rw [hfailure] at hopen
    cases hopen
  have hdata : ¬ Unreadable "" := fun h => Bool.noConfusion h.1
  obtain ⟨description, targets, fields, _, hdescribe, htargets, hlisted, hleaves, -, -, -, hon⟩ :=
    replies_on_same_fields haccepted
  obtain ⟨shown, _, _, hvisibility, hkeys, -⟩ := hon "" hdata
  exact ⟨description, targets, fields, shown, hdescribe, htargets, hlisted, hleaves, hvisibility,
    hkeys⟩

end FormLogic.Gateway
