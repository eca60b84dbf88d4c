import FormLogic.Proofs.Schema.Findings

/-!
# Values written into data

After a value has been written, it stands at its place, objects stand above the place, and nothing
has changed aside of it.
-/

namespace FormLogic.Schema

open FormLogic.Path

theorem valueUnder_some (key : String) (data : Json) :
    valueUnder key (some data) = Dictionary.lookup key (entriesOf data) := by
  cases data <;> rfl

theorem valueUnder_writeAt_self (key : String) (place : List String) (value data : Json) :
    valueUnder key (some (writeAt (key :: place) value data)) =
      some (writeAt place value (Json.orNull (valueUnder key (some data)))) := by
  have hold : Json.orNull (valueUnder key (some data)) =
      (Dictionary.lookup key (entriesOf data)).getD .null := by
    rw [valueUnder_some]
    cases Dictionary.lookup key (entriesOf data) <;> rfl
  rw [hold, writeAt]
  exact Dictionary.lookup_insert_self ..

theorem valueUnder_writeAt_of_ne {key other : String} (hne : other ≠ key) (place : List String)
    (value data : Json) :
    valueUnder other (some (writeAt (key :: place) value data)) = valueUnder other (some data) := by
  rw [valueUnder_some other data, writeAt]
  exact Dictionary.lookup_insert_of_ne _ _ hne

/-- Below a missing value there is nothing, as below `null`. -/
theorem valueAt_orNull {keys : List String} (hkeys : keys ≠ []) (value : Option Json) :
    valueAt keys (some (Json.orNull value)) = valueAt keys value := by
  obtain ⟨key, rest, rfl⟩ := List.exists_cons_of_ne_nil hkeys
  cases value <;> rfl

theorem valueAt_null {keys : List String} (hkeys : keys ≠ []) :
    valueAt keys (some .null) = none := by
  induction keys with
  | nil => exact absurd rfl hkeys
  | cons key keys ih =>
      by_cases hnil : keys = []
      · subst hnil
        rfl
      · rw [← ih hnil]
        exact (valueAt_orNull hnil none).symm

/-- A value that has been written is read. -/
theorem valueAt_writeAt_self (place : List String) (value data : Json) :
    valueAt place (some (writeAt place value data)) = some value := by
  induction place generalizing data with
  | nil => rfl
  | cons key place ih => rw [valueAt_cons, valueUnder_writeAt_self, ih]

/-- Objects stand above a value that has been written. -/
theorem exists_object_above_writeAt {keys place : List String} (hpre : keys <+: place)
    (hne : keys ≠ place) (value data : Json) :
    ∃ entries, valueAt keys (some (writeAt place value data)) = some (.object entries) := by
  induction keys generalizing place data with
  | nil =>
      obtain ⟨key, rest, rfl⟩ := List.exists_cons_of_ne_nil (Ne.symm hne)
      exact ⟨_, rfl⟩
  | cons key keys ih =>
      obtain ⟨back, rfl⟩ := hpre
      have hback : keys ≠ keys ++ back := by
        intro heq
        exact hne (congrArg (key :: ·) heq)
      rw [List.cons_append, valueAt_cons, valueUnder_writeAt_self]
      exact ih (List.prefix_append ..) hback _

/-- A value that is written changes nothing aside of its place. -/
theorem valueAt_writeAt_of_apart {keys place : List String} (habove : ¬ keys <+: place)
    (hbelow : ¬ place <+: keys) (value data : Json) :
    valueAt keys (some (writeAt place value data)) = valueAt keys (some data) := by
  induction place generalizing keys data with
  | nil => exact absurd List.nil_prefix hbelow
  | cons key place ih =>
      cases keys with
      | nil => exact absurd List.nil_prefix habove
      | cons other keys =>
          by_cases hother : other = key
          · subst hother
            rw [List.cons_prefix_cons, not_and] at habove hbelow
            have hkeys : keys ≠ [] := by
              rintro rfl
              exact habove rfl List.nil_prefix
            rw [valueAt_cons, valueUnder_writeAt_self, ih (habove rfl) (hbelow rfl),
              valueAt_orNull hkeys, valueAt_cons]
          · rw [valueAt_cons, valueUnder_writeAt_of_ne hother, valueAt_cons]

/-- A value that has been written is still read after another one has been written aside of it. -/
theorem valueAt_writeAt_writeAt {place other : List String} (habove : ¬ place <+: other)
    (hbelow : ¬ other <+: place) (value new data : Json) :
    valueAt place (some (writeAt other new (writeAt place value data))) = some value := by
  rw [valueAt_writeAt_of_apart habove hbelow, valueAt_writeAt_self]

/-- Objects stand above a value that has been written, also after another one has been written aside
of it. -/
theorem openAbove_writeAt_writeAt {place other : List String} (hbelow : ¬ other <+: place)
    (value new data : Json) :
    OpenAbove place (some (writeAt other new (writeAt place value data))) := by
  intro keys hpre hne
  have hkeys : ¬ other <+: keys := fun h => hbelow (h.trans hpre)
  have hobject : ∃ entries, valueAt keys
      (some (writeAt other new (writeAt place value data))) = some (.object entries) := by
    by_cases habove : keys <+: other
    · have hne_other : keys ≠ other := fun heq => hkeys (heq ▸ List.prefix_rfl)
      exact exists_object_above_writeAt habove hne_other new _
    · rw [valueAt_writeAt_of_apart habove hkeys]
      exact exists_object_above_writeAt hpre hne value data
  obtain ⟨entries, hentries⟩ := hobject
  rw [hentries]
  rfl

/-- In data where a single value has been written, there are values above and below it only. -/
theorem prefix_of_valueAt_writeAt_null {keys place : List String} {value found : Json}
    (h : valueAt keys (some (writeAt place value .null)) = some found) :
    keys <+: place ∨ place <+: keys := by
  by_contra hapart
  rw [not_or] at hapart
  have hkeys : keys ≠ [] := by
    rintro rfl
    exact hapart.1 List.nil_prefix
  rw [valueAt_writeAt_of_apart hapart.1 hapart.2, valueAt_null hkeys] at h
  cases h

/-- What is written under a name without empty parts can be reached. -/
theorem clear_set {name : String} (hname : Plain name) (data value : Json) :
    Clear name (some (Path.set data name value)) := by
  intro above habove
  obtain ⟨hpre, hne⟩ := below_iff_prefix_ne.mp habove
  obtain ⟨entries, hentries⟩ := exists_object_above_writeAt hpre hne value data
  rw [Path.set, segments_of_plain hname, hentries]
  rfl

theorem valueAt_set {name : String} (hname : Plain name) (data value : Json) :
    valueAt (parts name) (some (Path.set data name value)) = some value := by
  rw [Path.set, segments_of_plain hname, valueAt_writeAt_self]

end FormLogic.Schema
