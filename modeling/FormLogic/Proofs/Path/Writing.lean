import FormLogic.Proofs.Schema.Writing

/-!
# Writing at separate paths

Two paths are separate if neither leads to a place at or within the place of the other.  Values that
are written at separate paths do not disturb each other: they can be written in any order, and each
of them is read afterwards.
-/

namespace FormLogic.Path

open Schema

/-- Neither path leads to the place of the other or into it. -/
def Separate (p q : String) : Prop :=
  ¬ segments p <+: segments q ∧ ¬ segments q <+: segments p

theorem Separate.symm {p q : String} (h : Separate p q) : Separate q p := ⟨h.2, h.1⟩

theorem Separate.ne {p q : String} (h : Separate p q) : p ≠ q := by
  rintro rfl
  exact h.1 List.prefix_rfl

/-- A path that leads nowhere is separate from no other one. -/
theorem Separate.segments_ne_nil {p q : String} (h : Separate p q) : segments p ≠ [] := by
  intro hnil
  exact h.1 (hnil ▸ List.nil_prefix)

/-- Paths without empty parts are separate if they lie apart. -/
theorem Apart.separate {p q : String} (h : Apart p q) (hp : Plain p) (hq : Plain q) :
    Separate p q := by
  rw [Separate, segments_of_plain hp, segments_of_plain hq]
  exact apart_iff_parts.mp h

/-- The path with its empty parts left out. -/
def condensed (path : String) : String := under "" (parts path)

theorem parts_condensed {path : String} (h : segments path ≠ []) :
    parts (condensed path) = segments path := by
  have hsegments : segments (condensed path) = segments path := segments_under_parts path
  have htidy : Tidy (condensed path) := tidy_empty.under (dotless_parts path)
  rcases htidy with hempty | hplain
  · rw [hempty, segments_empty] at hsegments
    exact absurd hsegments.symm h
  · rw [← segments_of_plain hplain, hsegments]

/-- Paths are separate exactly if they lie apart once their empty parts are left out. -/
theorem separate_iff_condensed {p q : String} :
    Separate p q ↔ condensed p ≠ "" ∧ condensed q ≠ "" ∧ Apart (condensed p) (condensed q) := by
  have hnonempty : ∀ path, condensed path ≠ "" ↔ segments path ≠ [] := by
    intro path
    have hsegments : segments (condensed path) = segments path := segments_under_parts path
    constructor
    · intro hne hnil
      have htidy : Tidy (condensed path) := tidy_empty.under (dotless_parts path)
      exact hne (htidy.eq_of_segments_eq tidy_empty (hsegments.trans hnil))
    · intro hne hempty
      rw [hempty, segments_empty] at hsegments
      exact hne hsegments.symm
  rw [hnonempty, hnonempty]
  constructor
  · intro h
    refine ⟨h.segments_ne_nil, h.symm.segments_ne_nil, ?_⟩
    rw [apart_iff_parts, parts_condensed h.segments_ne_nil, parts_condensed h.symm.segments_ne_nil]
    exact h
  · rintro ⟨hp, hq, h⟩
    rw [apart_iff_parts, parts_condensed hp, parts_condensed hq] at h
    exact h

/-! ### Reading -/

theorem readAt_append (front keys : List String) (data : Json) :
    readAt (front ++ keys) data = (readAt front data).bind (readAt keys) := by
  induction front generalizing data with
  | nil => rfl
  | cons key front ih =>
      rw [List.cons_append, readAt, readAt, Option.bind_assoc]
      congr 1
      funext next
      exact ih next

theorem valueAt_none (keys : List String) : valueAt keys none = none := by
  induction keys with
  | nil => rfl
  | cons key keys ih => exact ih

/-- What is read through objects is read. -/
theorem readAt_of_valueAt {keys : List String} {data value : Json}
    (h : valueAt keys (some data) = some value) : readAt keys data = some value := by
  induction keys generalizing data with
  | nil => exact h
  | cons key keys ih =>
      rw [valueAt_cons] at h
      cases data with
      | object entries =>
          rw [valueUnder] at h
          rw [readAt, child]
          cases hchild : Dictionary.lookup key entries with
          | none =>
              rw [hchild, valueAt_none] at h
              cases h
          | some next =>
              rw [hchild] at h
              exact ih h
      | _ =>
          rw [valueUnder, valueAt_none] at h
          · cases h
          · intro entries heq
            cases heq

/-- Where no list stands above a place, the place is read through objects. -/
theorem readAt_eq_valueAt {keys : List String} {data : Json}
    (h : ∀ front, front <+: keys → front ≠ keys → ∀ items,
      valueAt front (some data) ≠ some (.array items)) :
    readAt keys data = valueAt keys (some data) := by
  induction keys generalizing data with
  | nil => rfl
  | cons key keys ih =>
      have hchild : child key data = valueUnder key (some data) := by
        cases data with
        | array items => exact absurd rfl (h [] List.nil_prefix (by simp) items)
        | _ => rfl
      rw [readAt, valueAt_cons, hchild]
      cases hnext : valueUnder key (some data) with
      | none => rw [valueAt_none, Option.bind_none]
      | some next =>
          refine ih fun front hpre hne => ?_
          have hfront := h (key :: front) (List.cons_prefix_cons.mpr ⟨rfl, hpre⟩)
            (by simpa using hne)
          rwa [valueAt_cons, hnext] at hfront

/-- No list stands above the place that a path leads to. -/
def Unlisted (path : String) (data : Json) : Prop :=
  ∀ keys, keys <+: segments path → keys ≠ segments path → ∀ items,
    readAt keys data ≠ some (.array items)

/-- Above a path of one segment there are only the data as a whole. -/
theorem unlisted_of_segments_eq_singleton {path key : String} {data : Json}
    (h : segments path = [key]) (hdata : ∀ items, data ≠ .array items) : Unlisted path data := by
  intro keys hpre hne items hread
  rw [h] at hpre hne
  rcases List.prefix_cons_iff.mp hpre with rfl | ⟨rest, rfl, hrest⟩
  · exact hdata items (Option.some.inj hread)
  · exact hne (by rw [List.prefix_nil.mp hrest])

theorem unlisted_iff_valueAt {path : String} {data : Json} :
    Unlisted path data ↔ ∀ keys, keys <+: segments path → keys ≠ segments path → ∀ items,
      valueAt keys (some data) ≠ some (.array items) := by
  constructor
  · intro h keys hpre hne items hvalue
    exact h keys hpre hne items (readAt_of_valueAt hvalue)
  · intro h keys hpre hne items
    -- Keys above these are above the place, too.
    rw [readAt_eq_valueAt]
    · exact h keys hpre hne items
    · intro front hfront hne_front
      refine h front (hfront.trans hpre) ?_
      rintro rfl
      exact hne_front (List.IsPrefix.eq_of_length_le hfront hpre.length_le)

theorem Unlisted.get_eq_valueAt {path : String} {data : Json} (h : Unlisted path data) :
    get data path = valueAt (segments path) (some data) :=
  readAt_eq_valueAt (unlisted_iff_valueAt.mp h)

/-! ### Writing -/

/-- Values that are written at places aside of each other can be written in any order. -/
theorem writeAt_comm {place other : List String} (habove : ¬ place <+: other)
    (hbelow : ¬ other <+: place) (value new data : Json) :
    writeAt place value (writeAt other new data) =
      writeAt other new (writeAt place value data) := by
  induction place generalizing other data with
  | nil => exact absurd List.nil_prefix habove
  | cons key place ih =>
      cases other with
      | nil => exact absurd List.nil_prefix hbelow
      | cons next other =>
          by_cases hkey : key = next
          · -- Both go on below the key, and part ways further down.
            subst hkey
            rw [List.cons_prefix_cons, not_and] at habove hbelow
            simp only [writeAt, entriesOf, Dictionary.lookup_insert_self, Option.getD_some,
              Dictionary.insert_insert_self, ih (habove rfl) (hbelow rfl)]
          · simp only [writeAt, entriesOf, Dictionary.lookup_insert_of_ne _ _ hkey,
              Dictionary.lookup_insert_of_ne _ _ (Ne.symm hkey), Dictionary.insert_comm hkey]

/-- What is read within a place that has been written is read in the value. -/
theorem readAt_writeAt_append (place rest : List String) (value data : Json) :
    readAt (place ++ rest) (writeAt place value data) = readAt rest value := by
  induction place generalizing data with
  | nil => rfl
  | cons key place ih =>
      rw [List.cons_append, readAt, writeAt, child, Dictionary.lookup_insert_self, Option.bind_some,
        ih]

/-- A value is read after another one has been written, whatever the values and the data, only if
the two paths are separate. -/
theorem separate_of_get_set_set {p q : String}
    (h : ∀ value new data, get (Path.set (Path.set data p value) q new) p = some value) :
    Separate p q := by
  have hread : readAt (segments p)
      (writeAt (segments q) .null (writeAt (segments p) (.text "") .null)) = some (.text "") :=
    h (.text "") .null .null
  constructor
  · intro hpre
    by_cases heq : segments p = segments q
    · -- The value has been replaced.
      rw [heq, readAt_of_valueAt (valueAt_writeAt_self ..)] at hread
      cases hread
    · -- There is an object in place of the value.
      obtain ⟨entries, hentries⟩ := exists_object_above_writeAt hpre heq .null
        (writeAt (segments p) (.text "") .null)
      rw [readAt_of_valueAt hentries] at hread
      cases hread
  · rintro ⟨rest, hrest⟩
    -- Within `null` there is nothing but `null` itself.
    rw [← hrest, readAt_writeAt_append] at hread
    cases rest <;> cases hread

theorem Separate.set_comm {p q : String} (h : Separate p q) (data value new : Json) :
    Path.set (Path.set data q new) p value = Path.set (Path.set data p value) q new :=
  writeAt_comm h.1 h.2 value new data

theorem Separate.valueAt_set {p q : String} (h : Separate p q) (data new : Json) :
    valueAt (segments p) (some (Path.set data q new)) = valueAt (segments p) (some data) :=
  valueAt_writeAt_of_apart h.1 h.2 new data

/-- What can be reached can still be reached after a value has been written at a separate path. -/
theorem Separate.clear_set {p q : String} (h : Separate p q) (hp : Plain p) {data : Json}
    (hclear : Clear p (some data)) (new : Json) : Clear p (some (Path.set data q new)) := by
  intro above hbelow
  obtain ⟨hpre, hne⟩ := below_iff_prefix_ne.mp hbelow
  have hbelow_q : ¬ segments q <+: parts above := by
    intro hq
    exact h.2 (segments_of_plain hp ▸ hq.trans hpre)
  by_cases habove : parts above <+: segments q
  · have hne_place : parts above ≠ segments q := fun heq => hbelow_q (heq ▸ List.prefix_rfl)
    obtain ⟨entries, hentries⟩ := exists_object_above_writeAt habove hne_place new data
    rw [Path.set, hentries]
    rfl
  · rw [Path.set, valueAt_writeAt_of_apart habove hbelow_q]
    exact hclear above hbelow

/-- A value that is written puts no list above a path that is separate from its own. -/
theorem Unlisted.set {p q : String} {data : Json} (h : Unlisted p data) (hsep : Separate p q)
    (new : Json) : Unlisted p (Path.set data q new) := by
  rw [unlisted_iff_valueAt] at h ⊢
  intro keys hpre hne items
  have hbelow : ¬ segments q <+: keys := fun hq => hsep.2 (hq.trans hpre)
  by_cases habove : keys <+: segments q
  · -- Above the place that is written there are objects.
    have hne_place : keys ≠ segments q := fun heq => hbelow (heq ▸ List.prefix_rfl)
    obtain ⟨entries, hentries⟩ := exists_object_above_writeAt habove hne_place new data
    rw [Path.set, hentries]
    simp
  · rw [Path.set, valueAt_writeAt_of_apart habove hbelow]
    exact h keys hpre hne items

end FormLogic.Path
