import FormLogic.Proofs.Schema.FirstFindings
import FormLogic.Proofs.Schema.Findings

/-!
# Values in the way

A value in place of an object is found before the leaves that come after it in the order of keys.
Where nothing but such values is found at a path aside of one leaf, the first finding at the path is
therefore a mismatch, if one of these values comes before the leaf.
-/

namespace FormLogic.Schema

open SchemaNode FormLogic.Path

variable {operations : Rule.Operations} {scope : Json} {kind : String → Prop}
  {target : String}

/-- The first finding at a path is a mismatch. -/
def FirstMismatch (target : String) (findings : List Finding) : Prop :=
  ∃ x, firstAt target findings = some x ∧ x.objection.code = .typeMismatch

/-- All findings at a path are mismatches. -/
def OnlyMismatches (target : String) (findings : List Finding) : Prop :=
  ∀ x ∈ findings, x.path = target → x.objection.code = .typeMismatch

theorem OnlyMismatches.firstMismatch {findings : List Finding} (h : OnlyMismatches target findings)
    {x : Finding} (hx : x ∈ findings) (hpath : x.path = target) :
    FirstMismatch target findings := by
  obtain ⟨y, hy⟩ := exists_firstAt_of_mem hx
  rw [hpath] at hy
  obtain ⟨hmem, hypath⟩ := mem_of_firstAt_eq_some hy
  exact ⟨y, hy, h y hmem hypath⟩

theorem FirstMismatch.append_left {front findings : List Finding}
    (hfront : OnlyMismatches target front) (h : FirstMismatch target findings) :
    FirstMismatch target (front ++ findings) := by
  obtain ⟨x, hx, hcode⟩ := h
  cases hfirst : firstAt target front with
  | none => exact ⟨x, by rw [firstAt_append, hfirst, Option.none_or, hx], hcode⟩
  | some y =>
      obtain ⟨hmem, hypath⟩ := mem_of_firstAt_eq_some hfirst
      exact ⟨y, by rw [firstAt_append, hfirst, Option.some_or], hfront y hmem hypath⟩

theorem FirstMismatch.append_right {findings : List Finding} (h : FirstMismatch target findings)
    (back : List Finding) : FirstMismatch target (findings ++ back) := by
  obtain ⟨x, hx, hcode⟩ := h
  exact ⟨x, by rw [firstAt_append, hx, Option.some_or], hcode⟩

/-- Nothing but mismatches is found at a path at the leaves of a node, aside of one place. -/
def MismatchesAside (operations : Rule.Operations) (scope : Json) (target : String)
    (place : List String) (path : String) (value : Option Json) (node : SchemaNode) : Prop :=
  ∀ keys leaf, keys ≠ place → descend keys node = some (.leaf leaf) →
    OnlyMismatches target (leaf.check operations scope (under path keys) (valueAt keys value))

theorem MismatchesAside.inner {key first : String} {place : List String} {path : String}
    {value : Option Json} {properties : Properties} {node : SchemaNode}
    (h : MismatchesAside operations scope target (key :: place) path value (.object properties))
    (hlookup : Dictionary.lookup first properties = some node) :
    (first = key → MismatchesAside operations scope target place (join path first)
      (valueUnder first value) node) ∧
    (first ≠ key → ∀ keys leaf, descend keys node = some (.leaf leaf) → OnlyMismatches target
      (leaf.check operations scope (under (join path first) keys)
        (valueAt keys (valueUnder first value)))) := by
  constructor
  · rintro rfl keys leaf hne hkeys
    exact h (first :: keys) leaf (by simpa using hne) (by simp [hlookup, hkeys])
  · intro hfirst keys leaf hkeys
    exact h (first :: keys) leaf (by simp [hfirst]) (by simp [hlookup, hkeys])

theorem onlyMismatches_check {node : SchemaNode} (hkeyed : node.Keyed kind) {path key : String}
    {value : Option Json}
    (h : ∀ keys leaf, descend keys node = some (.leaf leaf) → OnlyMismatches target
      (leaf.check operations scope (under path keys) (valueAt keys value))) :
    OnlyMismatches target (node.check operations scope path key value) := by
  intro x hx hpath
  obtain ⟨keys, inner, hkeys, -, ⟨leaf, rfl, hleaf⟩ | ⟨-, -, rfl⟩⟩ :=
    exists_descend_of_mem_check node hkeyed hx
  · exact h keys leaf hkeys x hleaf hpath
  · rfl

/-- What is first at a path under a key is first at the path if there are only mismatches under the
keys before. -/
theorem firstMismatch_checkProperties {properties : Properties}
    (hkeyed : Keyed kind (.object properties)) {key : String} {node : SchemaNode}
    (hlookup : Dictionary.lookup key properties = some node) {parent : String}
    {value : Option Json}
    (hbefore : ∀ first other, Dictionary.lookup first properties = some other → first < key →
      OnlyMismatches target
        (other.check operations scope (join parent first) first (valueUnder first value)))
    (h : FirstMismatch target
      (node.check operations scope (join parent key) key (valueUnder key value))) :
    FirstMismatch target (checkProperties operations scope parent value properties) := by
  have hascending : Dictionary.Ascending properties := (keyed_object_iff.mp hkeyed).1
  obtain ⟨front, back, rfl⟩ := List.append_of_mem (Dictionary.mem_of_lookup_eq_some hlookup)
  rw [checkProperties_eq_flatMap, List.flatMap_append, List.flatMap_cons]
  refine FirstMismatch.append_left ?_ (h.append_right _)
  intro x hx hpath
  obtain ⟨⟨first, other⟩, hmem, hx⟩ := List.mem_flatMap.mp hx
  have hfirst : Dictionary.lookup first (front ++ (key, node) :: back) = some other :=
    hkeyed.lookup_of_mem (List.mem_append_left _ hmem)
  have hlt : first < key :=
    (List.pairwise_append.mp hascending).2.2 _ hmem _ (List.mem_cons_self ..)
  exact hbefore first other hfirst hlt x hx hpath

/-- What is first at a path under a key is first at the path if the keys before lead aside of the
only place where something else than a mismatch can be found. -/
theorem MismatchesAside.firstMismatch_check_object {place : List String} {pivot path key : String}
    {value : Option Json} {properties : Properties}
    (h : MismatchesAside operations scope target (pivot :: place) path value (.object properties))
    (hkeyed : Keyed kind (.object properties)) (hvalue : isObjectOrAbsent value = true)
    {first : String} {next : SchemaNode}
    (hlookup : Dictionary.lookup first properties = some next)
    (hbefore : ∀ other, other < first → other ≠ pivot)
    (hfirst : FirstMismatch target
      (next.check operations scope (join path first) first (valueUnder first value))) :
    FirstMismatch target
      (SchemaNode.check operations scope path key value (.object properties)) := by
  rw [check_object_of_open hvalue]
  apply firstMismatch_checkProperties hkeyed hlookup ?_ hfirst
  intro other node hother hlt
  have haside := (h.inner hother).2 (hbefore other hlt)
  exact onlyMismatches_check (hkeyed.lookup hother).2 haside

/-- A value in the way that comes before the only other place for findings at its path is first at
the path. -/
theorem firstMismatch_check (front : List String) : ∀ {node : SchemaNode} {new : Properties}
    {a b path key : String} {keys place : List String} {value : Option Json},
    node.Keyed kind → a < b → descend (front ++ a :: keys) node = some (.object new) →
      OpenAbove (front ++ a :: keys) value →
        isObjectOrAbsent (valueAt (front ++ a :: keys) value) = false →
          under path (front ++ a :: keys) = target →
            MismatchesAside operations scope target (front ++ b :: place) path value node →
              FirstMismatch target (node.check operations scope path key value) := by
  -- The keys to the value and those to the place share a front, and part ways at `a` and `b`.
  induction front with
  | nil =>
      intro node new a b path key keys place value hkeyed hlt hkeys hopen hblocked hpath haside
      rw [List.nil_append] at hkeys hopen hblocked hpath haside
      obtain ⟨properties, next, rfl, hlookup, hrest⟩ := descend_cons_eq_some_iff.mp hkeys
      obtain ⟨hvalue, hopen_rest⟩ := openAbove_cons_iff.mp hopen
      refine haside.firstMismatch_check_object hkeyed hvalue hlookup ?_ ?_
      · intro other hother
        exact String.ne_of_lt (String.lt_trans hother hlt)
      · -- Everything under `a` lies aside of the place, and the value in the way is found there.
        have honly : OnlyMismatches target
            (next.check operations scope (join path a) a (valueUnder a value)) :=
          onlyMismatches_check (hkeyed.lookup hlookup).2
            ((haside.inner hlookup).2 (String.ne_of_lt hlt))
        have hfound : blocked target (keys.getLastD a) ∈
            next.check operations scope (join path a) a (valueUnder a value) := by
          apply mem_check_of_descend hrest hopen_rest
          rw [valueAt_cons] at hblocked
          rw [check_object_of_blocked hblocked, List.mem_singleton, ← hpath, under_cons]
        exact honly.firstMismatch hfound rfl
  | cons first front ih =>
      intro node new a b path key keys place value hkeyed hlt hkeys hopen hblocked hpath haside
      rw [List.cons_append] at hkeys hopen hblocked hpath haside
      obtain ⟨properties, next, rfl, hlookup, hrest⟩ := descend_cons_eq_some_iff.mp hkeys
      obtain ⟨hvalue, hopen_rest⟩ := openAbove_cons_iff.mp hopen
      refine haside.firstMismatch_check_object hkeyed hvalue hlookup ?_ ?_
      · intro other hother
        exact String.ne_of_lt hother
      · exact ih (hkeyed.lookup hlookup).2 hlt hrest hopen_rest hblocked hpath
          ((haside.inner hlookup).1 rfl)

end FormLogic.Schema
