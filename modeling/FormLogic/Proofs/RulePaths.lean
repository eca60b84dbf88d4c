import FormLogic.Proofs.Json.Printing
import FormLogic.Proofs.Path.Overwriting
import FormLogic.Proofs.RulesAbove

/-!
# The paths that rules name

Two operators read the data, and the paths that they read may be values of other rules.  Where a
rule gives these paths as texts, all that it sees of the data is what is read at the paths that it
names, whatever operations are registered.  Data that agree at all paths that the rules of a form
name leave the same fields visible.
-/

namespace FormLogic

namespace Json

/-- The value is the other one itself, or it is inside of an item or of an entry of that one. -/
inductive Inside (v : Json) : Json → Prop where
  | self : Inside v v
  | item {items : List Json} {w : Json} (hw : w ∈ items) (h : Inside v w) : Inside v (.array items)
  | entry {entries : List (String × Json)} {entry : String × Json} (hentry : entry ∈ entries)
      (h : Inside v entry.2) : Inside v (.object entries)

variable {u v : Json}

theorem Inside.trans {w : Json} (hu : Inside u v) (hv : Inside v w) : Inside u w := by
  induction hv with
  | self => exact hu
  | item hw _ ih => exact .item hw ih
  | entry hentry _ ih => exact .entry hentry ih

@[simp] theorem inside_text_iff {s : String} : Inside v (.text s) ↔ v = .text s := by
  constructor
  · intro h
    cases h
    rfl
  · intro h
    exact h ▸ .self

@[simp] theorem inside_array_iff {items : List Json} :
    Inside v (.array items) ↔ v = .array items ∨ ∃ w ∈ items, Inside v w := by
  constructor
  · intro h
    cases h with
    | self => exact Or.inl rfl
    | item hw h => exact Or.inr ⟨_, hw, h⟩
  · rintro (rfl | ⟨w, hw, h⟩)
    · exact .self
    · exact .item hw h

@[simp] theorem inside_object_iff {entries : List (String × Json)} :
    Inside v (.object entries) ↔ v = .object entries ∨ ∃ entry ∈ entries, Inside v entry.2 := by
  constructor
  · intro h
    cases h with
    | self => exact Or.inl rfl
    | entry hentry h => exact Or.inr ⟨_, hentry, h⟩
  · rintro (rfl | ⟨entry, hentry, h⟩)
    · exact .self
    · exact .entry hentry h

end Json

namespace Rule

/-! ### Rules that name their paths -/

/-- The operands that the value of an operator lists; a value that is not an array is the only one.
-/
def operandsOf : Json → List Json
  | .array operands => operands
  | single => [single]

/-- The operator is applied to texts where it takes paths: `var` to one in the first place, and
`missing` to texts and arrays of texts. -/
structure TakesTexts (name : String) (operands : List Json) : Prop where
  var : name = "var" → ∃ path, operands[0]? = some (.text path)
  missing : name = "missing" →
    ∀ operand ∈ operands, (∃ path, operand = .text path) ∨
      ∃ paths : List String, operand = .array (paths.map .text)

/-- Wherever inside of the rule an operator that reads the data may be applied, it is applied to
texts. -/
def NamesPaths (rule : Json) : Prop :=
  ∀ name operands, Json.Inside (.object [(name, operands)]) rule →
    TakesTexts name (operandsOf operands)

/-- Somewhere inside of the rule an operator that reads the data is applied to the path. -/
inductive Names (rule : Json) (path : String) : Prop where
  | var {operands : Json} (h : Json.Inside (.object [("var", operands)]) rule)
      (hpath : (operandsOf operands)[0]? = some (.text path))
  | missing {operands : Json} (h : Json.Inside (.object [("missing", operands)]) rule)
      (hpath : .text path ∈ operandsOf operands)
  | missingOf {operands : Json} {paths : List Json}
      (h : Json.Inside (.object [("missing", operands)]) rule)
      (hpaths : .array paths ∈ operandsOf operands) (hpath : .text path ∈ paths)

variable {rule inner : Json} {path : String}

theorem NamesPaths.of_inside (h : NamesPaths rule) (hinner : Json.Inside inner rule) :
    NamesPaths inner :=
  fun name operands happlied => h name operands (happlied.trans hinner)

theorem Names.of_inside (h : Names inner path) (hinner : Json.Inside inner rule) :
    Names rule path := by
  cases h with
  | var h hpath => exact .var (h.trans hinner) hpath
  | missing h hpath => exact .missing (h.trans hinner) hpath
  | missingOf h hpaths hpath => exact .missingOf (h.trans hinner) hpaths hpath

/-- At each path that the rule names the same is read in both. -/
def Agree (rule data data' : Json) : Prop :=
  ∀ path, Names rule path → Path.get data path = Path.get data' path

theorem Agree.of_inside {data data' : Json} (h : Agree rule data data')
    (hinner : Json.Inside inner rule) : Agree inner data data' :=
  fun path hpath => h path (hpath.of_inside hinner)

/-! ### What operators see of the data -/

theorem Operator.name_of_ofName?_eq_var {name : String} (h : ofName? name = some .var) :
    name = "var" := by
  unfold ofName? at h
  split at h <;> first | rfl | cases h

theorem Operator.name_of_ofName?_eq_missing {name : String} (h : ofName? name = some .missing) :
    name = "missing" := by
  unfold ofName? at h
  split at h <;> first | rfl | cases h

section

variable {operations : Operations} {data data' : Json}

theorem evaluateAll_eq_map (operations : Operations) (data : Json) (rules : List Json) :
    evaluateAll operations data rules = rules.map (evaluate operations data) := by
  induction rules with
  | nil => rw [evaluateAll, List.map_nil]
  | cons rule rules ih => rw [evaluateAll, List.map_cons, ih]

@[simp] theorem evaluate_text (operations : Operations) (data : Json) (s : String) :
    evaluate operations data (.text s) = .text s := by
  simp [evaluate]

theorem evaluate_array (operations : Operations) (data : Json) (items : List Json) :
    evaluate operations data (.array items) = .array (items.map (evaluate operations data)) := by
  rw [evaluate, evaluateAll_eq_map]

/-- An object with one entry applies what its key names to the evaluated operands. -/
theorem evaluate_application (operations : Operations) (data : Json) (name : String)
    (operands : Json) :
    evaluate operations data (.object [(name, operands)]) =
      applyNamed operations data name ((operandsOf operands).map (evaluate operations data)) := by
  cases operands with
  | array operands => rw [evaluate, evaluateAll_eq_map, operandsOf]
  | _ =>
      rw [evaluate]
      · rfl
      · nofun

/-- An object with no entry, or with more than one, stands for itself. -/
theorem evaluate_object_of_ne {entries : List (String × Json)}
    (h : ∀ entry, entries ≠ [entry]) :
    evaluate operations data (.object entries) = .object entries := by
  match entries with
  | [] => simp [evaluate]
  | [entry] => exact absurd rfl (h entry)
  | _ :: _ :: _ => simp [evaluate]

/-- Texts and arrays of texts stand for themselves. -/
theorem evaluate_key {operand : Json}
    (h : (∃ path, operand = .text path) ∨
      ∃ paths : List String, operand = .array (paths.map .text)) :
    evaluate operations data operand = operand := by
  obtain ⟨path, rfl⟩ | ⟨paths, rfl⟩ := h
  · exact evaluate_text operations data path
  · simp [evaluate_array]

/-- A list of operands and a single operand are evaluated as the value that gives them is. -/
theorem map_operandsOf_congr {operands : Json}
    (h : evaluate operations data operands = evaluate operations data' operands) :
    (operandsOf operands).map (evaluate operations data) =
      (operandsOf operands).map (evaluate operations data') := by
  cases operands with
  | array items =>
      rw [evaluate_array, evaluate_array] at h
      exact Json.array.inj h
  | _ => simp [operandsOf, h]

/-- Operators other than the two that read the data do not depend on it. -/
theorem Operator.apply_eq {operator : Operator} (hvar : operator ≠ .var)
    (hmissing : operator ≠ .missing) (data data' : Json) (values : List Json) :
    operator.apply data values = operator.apply data' values := by
  cases operator with
  | var => exact absurd rfl hvar
  | missing => exact absurd rfl hmissing
  | _ => rfl

theorem Operator.apply_var_congr {values : List Json} (hfirst : values[0]? = some (.text path))
    (hagree : Path.get data path = Path.get data' path) :
    Operator.var.apply data values = Operator.var.apply data' values := by
  have hoperand : operand values 0 = .text path := by rw [operand, hfirst, Json.orNull]
  simp only [apply, hoperand, readVar, find, hagree]

theorem Operator.apply_missing_congr {values : List Json}
    (hagree : ∀ path, .text path ∈ keysOf values → Path.get data path = Path.get data' path) :
    Operator.missing.apply data values = Operator.missing.apply data' values := by
  have hfilter : ∀ key ∈ keysOf values, isMissing data key = isMissing data' key := by
    intro key hkey
    cases key with
    | text path => rw [isMissing, isMissing, hagree path hkey]
    | _ => rfl
  simp only [apply]
  rw [List.filter_congr hfilter]

theorem Operator.mem_keysOf {values : List Json} {key : Json} (h : key ∈ keysOf values) :
    key ∈ values ∨ ∃ keys, .array keys ∈ values ∧ key ∈ keys := by
  unfold keysOf at h
  split at h
  · exact Or.inr ⟨_, List.mem_cons_self .., h⟩
  · exact Or.inl h

/-- What an operator or an operation makes of operands that are the same for both data is the same,
too, if the data agree at the paths among them. -/
theorem applyNamed_congr {name : String} {operands : Json}
    (htexts : TakesTexts name (operandsOf operands))
    (hagree : Agree (.object [(name, operands)]) data data')
    (hvalues : (operandsOf operands).map (evaluate operations data) =
      (operandsOf operands).map (evaluate operations data')) :
    applyNamed operations data name ((operandsOf operands).map (evaluate operations data)) =
      applyNamed operations data' name ((operandsOf operands).map (evaluate operations data')) := by
  rw [← hvalues, applyNamed, applyNamed]
  cases hname : Operator.ofName? name with
  | none => rfl
  | some operator =>
      show operator.apply data _ = operator.apply data' _
      by_cases hvar : operator = .var
      · subst hvar
        obtain rfl := Operator.name_of_ofName?_eq_var hname
        obtain ⟨path, hpath⟩ := htexts.var rfl
        refine Operator.apply_var_congr ?_ (hagree path (.var .self hpath))
        rw [List.getElem?_map, hpath, Option.map_some, evaluate_text]
      by_cases hmissing : operator = .missing
      · subst hmissing
        obtain rfl := Operator.name_of_ofName?_eq_missing hname
        -- The operands stand for themselves.
        rw [List.map_congr_left fun operand hoperand =>
          evaluate_key (htexts.missing rfl operand hoperand), List.map_id']
        apply Operator.apply_missing_congr
        intro path hpath
        apply hagree
        obtain hmem | ⟨paths, hpaths, hmem⟩ := Operator.mem_keysOf hpath
        · exact .missing .self hmem
        · exact .missingOf .self hpaths hmem
      · exact Operator.apply_eq hvar hmissing data data' _

/-- A rule that names its paths sees of the data only what is read there. -/
theorem evaluate_congr (operations : Operations) (rule : Json) : NamesPaths rule →
    Agree rule data data' → evaluate operations data rule = evaluate operations data' rule := by
  induction rule using Json.induction with
  | array items ih =>
      intro hnames hagree
      rw [evaluate_array, evaluate_array]
      congr 1
      apply List.map_congr_left
      intro item hitem
      have hinside : Json.Inside item (.array items) := .item hitem .self
      exact ih item hitem (hnames.of_inside hinside) (hagree.of_inside hinside)
  | object entries ih =>
      intro hnames hagree
      by_cases hsingle : ∃ entry, entries = [entry]
      · obtain ⟨⟨name, operands⟩, rfl⟩ := hsingle
        have hinside : Json.Inside operands (.object [(name, operands)]) :=
          .entry (List.mem_singleton_self _) .self
        have hoperands := ih (name, operands) (List.mem_singleton_self _)
          (hnames.of_inside hinside) (hagree.of_inside hinside)
        rw [evaluate_application, evaluate_application]
        exact applyNamed_congr (hnames name operands .self) hagree (map_operandsOf_congr hoperands)
      · rw [not_exists] at hsingle
        rw [evaluate_object_of_ne hsingle, evaluate_object_of_ne hsingle]
  | _ =>
      intro _ _
      simp [evaluate]

end

end Rule

/-! ### The rules of a form -/

namespace Node

/-- The rule by which the element is visible. -/
def visible : Node → Option Json
  | field f => f.info.visible
  | container _ visible _ _ => visible

/-- The rules on the way to an element are those of containers. -/
theorem exists_liesBelow_of_mem_above {node : Node} {above : List (Option Json)}
    {nodes : List Node} (h : node.LiesBelow above nodes) {rule : Option Json}
    (hrule : rule ∈ above) :
    ∃ (other : Node) (outer : List (Option Json)),
      other.LiesBelow outer nodes ∧ other.visible = rule := by
  induction h with
  | here => cases hrule
  | inside hcontainer h ih =>
      rcases List.mem_cons.mp hrule with rfl | hrule
      · exact ⟨_, [], .here hcontainer, rfl⟩
      · obtain ⟨other, outer, hother, hvisible⟩ := ih hrule
        exact ⟨other, _, .inside hcontainer hother, hvisible⟩

end Node

/-- The rule is that of an element of the form. -/
def Tree.HasRule (t : Tree) (rule : Json) : Prop :=
  ∃ (node : Node) (above : List (Option Json)),
    node.LiesBelow above t.roots ∧ node.visible = some rule

namespace Visibility

variable {operations : Rule.Operations} {t : Tree} {data data' : Json}

/-- The same fields are visible if each rule has the same value. -/
theorem ofTree_congr
    (h : ∀ rule, t.HasRule rule →
      Rule.evaluate operations data rule = Rule.evaluate operations data' rule) :
    ofTree operations t data = ofTree operations t data' := by
  have hpermits : ∀ visible, (∀ rule ∈ visible, t.HasRule rule) →
      permits operations data visible = permits operations data' visible := by
    intro visible hvisible
    cases visible with
    | none => rfl
    | some rule => rw [permits, permits, Rule.holds, Rule.holds, h rule (hvisible rule rfl)]
  rw [ofTree_eq_ofList, ofTree_eq_ofList]
  congr 1
  apply List.map_congr_left
  intro place hplaced
  obtain ⟨f, above⟩ := place
  have hf := Node.mem_placedAll_iff.mp hplaced
  have hown : permits operations data f.info.visible = permits operations data' f.info.visible := by
    apply hpermits
    intro rule hrule
    exact ⟨.field f, above, hf, hrule⟩
  have habove : above.all (permits operations data) = above.all (permits operations data') := by
    rw [Bool.eq_iff_iff, List.all_eq_true, List.all_eq_true]
    apply forall₂_congr
    intro visible hvisible
    obtain ⟨node, outer, hnode, rfl⟩ := Node.exists_liesBelow_of_mem_above hf hvisible
    rw [hpermits node.visible fun rule hrule => ⟨node, outer, hnode, hrule⟩]
  rw [entry, entry, hown, habove]

end Visibility

/-- A rule that names its paths has the same value for all data that agree there, whatever
operations are registered.  Where all rules of a form do so, the same fields are visible for data
that agree at all paths that they name.  So they are when a value is written at a place that is
separate from these paths, where no list stands before the ways part. -/
theorem Rule.sees_only_named_paths (operations : Operations) :
    (∀ rule data data', NamesPaths rule →
      (∀ path, Names rule path → Path.get data path = Path.get data' path) →
        evaluate operations data rule = evaluate operations data' rule) ∧
      ∀ t : Tree, (∀ rule, t.HasRule rule → NamesPaths rule) →
        (∀ data data', (∀ rule path, t.HasRule rule → Names rule path →
            Path.get data path = Path.get data' path) →
          Visibility.ofTree operations t data = Visibility.ofTree operations t data') ∧
        (∀ data place value, (∀ rule path, t.HasRule rule → Names rule path →
            Path.Separate place path ∧ ¬ Path.ShareList place path data) →
          Visibility.ofTree operations t (Path.set data place value) =
            Visibility.ofTree operations t data) := by
  have hagree : ∀ t : Tree, (∀ rule, t.HasRule rule → NamesPaths rule) → ∀ data data',
      (∀ rule path, t.HasRule rule → Names rule path →
        Path.get data path = Path.get data' path) →
        Visibility.ofTree operations t data = Visibility.ofTree operations t data' := by
    intro t hnames data data' hsame
    apply Visibility.ofTree_congr
    intro rule hrule
    exact evaluate_congr operations rule (hnames rule hrule) fun path => hsame rule path hrule
  refine ⟨?_, ?_⟩
  · intro rule data data' hnames hsame
    exact evaluate_congr operations rule hnames hsame
  · intro t hnames
    refine ⟨hagree t hnames, ?_⟩
    intro data place value hplaces
    apply hagree t hnames
    intro rule path hrule hpath
    obtain ⟨hseparate, hlist⟩ := hplaces rule path hrule hpath
    exact hseparate.get_set hlist value

/-! ### Rules on a mode and a name -/

namespace Modes

open Rule

/-- The mode is `full`; without one it counts as `basic`. -/
def isFull : Json :=
  .object [("==", .array [.object [("var", .array [.text "mode", .text "basic"])], .text "full"])]

/-- There is a name. -/
def isNamed : Json := .object [("!", .object [("missing", .text "name")])]

def note : Field :=
  .single { Jobs.plainInfo "text" "note" with visible := some isNamed } .generic

def tree : Tree := ⟨[.container none (some isFull) none [.field note]]⟩

theorem rules_of_tree {rule : Json} (h : tree.HasRule rule) : rule = isFull ∨ rule = isNamed := by
  obtain ⟨node, above, hnode, hrule⟩ := h
  cases hnode with
  | here hmem =>
      obtain rfl := List.mem_singleton.mp hmem
      exact Or.inl (Option.some.inj hrule).symm
  | inside hmem hinside =>
      cases List.mem_singleton.mp hmem
      cases hinside with
      | here hmem =>
          obtain rfl := List.mem_singleton.mp hmem
          exact Or.inr (Option.some.inj hrule).symm
      | inside hmem _ => cases List.mem_singleton.mp hmem

theorem applied_in_isFull {name : String} {operands : Json}
    (h : Json.Inside (.object [(name, operands)]) isFull) :
    name = "==" ∧
        operands =
          .array [.object [("var", .array [.text "mode", .text "basic"])], .text "full"] ∨
      name = "var" ∧ operands = .array [.text "mode", .text "basic"] := by
  simpa [isFull] using h

theorem applied_in_isNamed {name : String} {operands : Json}
    (h : Json.Inside (.object [(name, operands)]) isNamed) :
    name = "!" ∧ operands = .object [("missing", .text "name")] ∨
      name = "missing" ∧ operands = .text "name" := by
  simpa [isNamed] using h

theorem namesPaths_of_hasRule {rule : Json} (h : tree.HasRule rule) : NamesPaths rule := by
  intro name operands happlied
  rcases rules_of_tree h with rfl | rfl
  · rcases applied_in_isFull happlied with ⟨rfl, rfl⟩ | ⟨rfl, rfl⟩
    · exact ⟨by simp, by simp⟩
    · exact ⟨by simp [operandsOf], by simp⟩
  · rcases applied_in_isNamed happlied with ⟨rfl, rfl⟩ | ⟨rfl, rfl⟩
    · exact ⟨by simp, by simp⟩
    · exact ⟨by simp, by simp [operandsOf]⟩

/-- The paths that the rules name are those of the mode and of the name. -/
theorem path_of_names {rule : Json} {path : String} (h : tree.HasRule rule)
    (hpath : Names rule path) : path = "mode" ∨ path = "name" := by
  rcases rules_of_tree h with rfl | rfl
  · cases hpath with
    | var h hpath =>
        rcases applied_in_isFull h with ⟨hname, -⟩ | ⟨-, rfl⟩
        · simp at hname
        · exact Or.inl (by simpa [operandsOf, eq_comm] using hpath)
    | missing h _ => simpa using applied_in_isFull h
    | missingOf h _ _ => simpa using applied_in_isFull h
  · cases hpath with
    | var h _ => simpa using applied_in_isNamed h
    | missing h hpath =>
        rcases applied_in_isNamed h with ⟨hname, -⟩ | ⟨-, rfl⟩
        · simp at hname
        · exact Or.inr (by simpa [operandsOf, eq_comm] using hpath)
    | missingOf h hpaths _ =>
        rcases applied_in_isNamed h with ⟨hname, -⟩ | ⟨-, rfl⟩
        · simp at hname
        · simp [operandsOf] at hpaths

def data : Json := .ofEntries [("mode", .text "full"), ("name", .text "Ada"), ("rows", .array [])]

/-- What is written beside the mode and the name is not seen by the rules. -/
theorem phone_is_not_seen :
    evaluate defaultOperations data isFull =
        evaluate defaultOperations (Path.set data "phone" (.text "1")) isFull ∧
      Visibility.ofTree defaultOperations tree .null =
        Visibility.ofTree defaultOperations tree (.object []) ∧
      Visibility.ofTree defaultOperations tree (Path.set data "phone" (.text "1")) =
        Visibility.ofTree defaultOperations tree data := by
  obtain ⟨hrule, htree⟩ := sees_only_named_paths defaultOperations
  obtain ⟨hagree, hplace⟩ := htree tree fun rule h => namesPaths_of_hasRule h
  have hfull : tree.HasRule isFull :=
    ⟨_, [], .here (List.mem_singleton_self _), rfl⟩
  refine ⟨hrule isFull _ _ (namesPaths_of_hasRule hfull) ?_, hagree _ _ ?_, hplace _ _ _ ?_⟩
  · intro path hpath
    rcases path_of_names hfull hpath with rfl | rfl <;> rfl
  · intro rule path h hpath
    rcases path_of_names h hpath with rfl | rfl <;> rfl
  · intro rule path h hpath
    have hphone : Path.segments "phone" = ["phone"] := by decide +kernel
    have hbeside : ∀ key, Path.segments key = [key] → key ≠ "phone" →
        Path.Separate "phone" key ∧ ¬ Path.ShareList "phone" key data := by
      intro key hkey hne
      rw [Path.shareList_iff, Path.Separate, hphone, hkey, Path.listBefore_cons_iff]
      refine ⟨by simp [hne, Ne.symm hne], ?_⟩
      rintro (⟨items, hitems⟩ | ⟨heq, -⟩)
      · cases hitems
      · exact hne heq
    rcases path_of_names h hpath with rfl | rfl
    · exact hbeside "mode" (by decide +kernel) (by simp)
    · exact hbeside "name" (by decide +kernel) (by simp)

end Modes

end FormLogic
