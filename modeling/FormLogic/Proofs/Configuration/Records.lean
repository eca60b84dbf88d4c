import FormLogic.Configuration.Document
import FormLogic.Proofs.Dictionary

/-!
# Records read again

What is read from a record and written again is read as the same.  A record is written attribute by
attribute; an attribute that has no value is not written, and one that is `null` has no value.
-/

namespace FormLogic.Json

variable {α : Type}

/-! ### Attributes among entries -/

theorem withAttributes_cons_some (key : String) (v : Json)
    (attributes : List (String × Option Json)) (d : Dictionary Json) :
    withAttributes ((key, some v) :: attributes) d =
      withAttributes attributes (Dictionary.insert key v d) := rfl

theorem withAttributes_cons_none (key : String) (attributes : List (String × Option Json))
    (d : Dictionary Json) :
    withAttributes ((key, none) :: attributes) d = withAttributes attributes d := rfl

/-- Attributes change nothing under other keys. -/
theorem lookup_withAttributes_of_not_mem {attributes : List (String × Option Json)} {key : String}
    (hkey : key ∉ attributes.map (·.1)) (d : Dictionary Json) :
    Dictionary.lookup key (withAttributes attributes d) = Dictionary.lookup key d := by
  induction attributes generalizing d with
  | nil => rfl
  | cons head attributes ih =>
      obtain ⟨k, value⟩ := head
      rw [List.map_cons, List.mem_cons, not_or] at hkey
      cases value with
      | none => rw [withAttributes_cons_none, ih hkey.2]
      | some v =>
          rw [withAttributes_cons_some, ih hkey.2, Dictionary.lookup_insert_of_ne _ _ hkey.1]

/-- An attribute stands under its key if it has a value, and else leaves what was there. -/
theorem lookup_withAttributes {attributes : List (String × Option Json)}
    (hnodup : (attributes.map (·.1)).Nodup) {key : String} {value : Option Json}
    (hmem : (key, value) ∈ attributes) (d : Dictionary Json) :
    Dictionary.lookup key (withAttributes attributes d) = value.or (Dictionary.lookup key d) := by
  induction attributes generalizing d with
  | nil => cases hmem
  | cons head attributes ih =>
      obtain ⟨k, first⟩ := head
      rw [List.map_cons, List.nodup_cons] at hnodup
      rcases List.mem_cons.mp hmem with heq | hrest
      · obtain ⟨rfl, rfl⟩ := Prod.mk.inj heq
        -- No later attribute has the same key.
        cases value with
        | none =>
            rw [withAttributes_cons_none, lookup_withAttributes_of_not_mem hnodup.1, Option.none_or]
        | some v =>
            rw [withAttributes_cons_some, lookup_withAttributes_of_not_mem hnodup.1,
              Dictionary.lookup_insert_self, Option.some_or]
      · have hne : key ≠ k := by
          rintro rfl
          exact hnodup.1 (List.mem_map.mpr ⟨(key, value), hrest, rfl⟩)
        cases first with
        | none => rw [withAttributes_cons_none, ih hnodup.2 hrest]
        | some v =>
            rw [withAttributes_cons_some, ih hnodup.2 hrest, Dictionary.lookup_insert_of_ne _ _ hne]

/-- The entries under keys of another kind stay as they are. -/
theorem filter_withAttributes {p : String → Bool} {attributes : List (String × Option Json)}
    (h : ∀ entry ∈ attributes, p entry.1 = false) (d : Dictionary Json) :
    List.filter (fun entry => p entry.1) (withAttributes attributes d) =
      List.filter (fun entry => p entry.1) d := by
  induction attributes generalizing d with
  | nil => rfl
  | cons head attributes ih =>
      obtain ⟨key, value⟩ := head
      rw [List.forall_mem_cons] at h
      cases value with
      | none => rw [withAttributes_cons_none, ih h.2]
      | some v => rw [withAttributes_cons_some, ih h.2, Dictionary.filter_insert_of_not h.1]

/-! ### Readers and writers -/

/-- What is written of a value that was read is not `null`, and is read as that value again. -/
def Rereads (read : Json → Option α) (write : α → Json) : Prop :=
  ∀ source x, source ≠ .null → read source = some x → write x ≠ .null ∧ read (write x) = some x

theorem rereads_value : Rereads some id := by
  intro source x hsource hread
  cases hread
  exact ⟨hsource, rfl⟩

theorem rereads_text : Rereads asText .text := by
  intro _ _ _ _
  exact ⟨nofun, rfl⟩

theorem rereads_bool : Rereads asBool .bool := by
  intro _ _ _ _
  exact ⟨nofun, rfl⟩

theorem rereads_entries : Rereads asEntries .object := by
  intro _ _ _ _
  exact ⟨nofun, rfl⟩

@[simp] theorem asNat_ofNat (n : Nat) : asNat (ofNat n) = some n := by
  simp [ofNat, asNat]

theorem rereads_nat : Rereads asNat ofNat := by
  intro _ n _ _
  exact ⟨nofun, asNat_ofNat n⟩

/-- A list is read exactly if each of its items is. -/
theorem asListOf_eq_some_iff {read : Json → Option α} {source : Json} {xs : List α} :
    asListOf read source = some xs ↔
      ∃ items, source = .array items ∧ items.map read = xs.map some := by
  cases source with
  | array items =>
      simp only [asListOf, array.injEq, exists_eq_left']
      induction items generalizing xs with
      | nil => cases xs <;> simp
      | cons item items ih =>
          cases xs with
          | nil => simp [List.mapM_cons, Option.bind_eq_some_iff]
          | cons x xs => simp [List.mapM_cons, Option.bind_eq_some_iff, ih]
  | null | bool | number | text | object => simp [asListOf]

theorem asListOf_map {read : Json → Option α} {write : α → Json} (xs : List α)
    (h : ∀ x ∈ xs, read (write x) = some x) : asListOf read (.array (xs.map write)) = some xs := by
  rw [asListOf_eq_some_iff]
  exact ⟨_, rfl, by simpa using h⟩

theorem asTexts_map (d : Dictionary String) :
    asTexts (.object (d.map fun entry => (entry.1, .text entry.2))) = some d := by
  rw [asTexts]
  induction d with
  | nil => rfl
  | cons entry d ih =>
      rw [List.map_cons, List.mapM_cons, ih]
      rfl

/-! ### Attributes read again -/

/-- The key has no value, which is also the case where it is `null`. -/
def Absent (key : String) (entries : Dictionary Json) : Prop :=
  Dictionary.lookup key entries = none ∨ Dictionary.lookup key entries = some .null

section

variable {read : Json → Option α} {write : α → Json} {key : String}
  {entries written : Dictionary Json}

theorem optionalEntry_of_absent (h : Absent key entries) :
    optionalEntry read key entries = some none := by
  rcases h with h | h <;> rw [optionalEntry, h]

theorem optionalEntry_of_lookup {v : Json} (hv : v ≠ .null)
    (h : Dictionary.lookup key entries = some v) :
    optionalEntry read key entries = (read v).map some := by
  rw [optionalEntry, h]
  cases v <;> first | rfl | exact absurd rfl hv

/-- An attribute that was read has no value exactly if its key has none, and else its value was read
from there. -/
theorem cases_of_optionalEntry {x : Option α} (h : optionalEntry read key entries = some x) :
    (x = none ∧ Absent key entries) ∨
      ∃ v y, x = some y ∧ v ≠ .null ∧ Dictionary.lookup key entries = some v ∧
        read v = some y := by
  by_cases habsent : Absent key entries
  · rw [optionalEntry_of_absent habsent, Option.some.injEq] at h
    exact Or.inl ⟨h.symm, habsent⟩
  · obtain ⟨hsome, hnull⟩ := not_or.mp habsent
    obtain ⟨v, hv⟩ := Option.ne_none_iff_exists'.mp hsome
    have hne : v ≠ .null := by
      rintro rfl
      exact hnull hv
    rw [optionalEntry_of_lookup hne hv, Option.map_eq_some_iff] at h
    obtain ⟨y, hy, rfl⟩ := h
    exact Or.inr ⟨v, y, rfl, hne, hv, hy⟩

theorem eq_none_iff_absent {x : Option α} (h : optionalEntry read key entries = some x) :
    x = none ↔ Absent key entries := by
  rcases cases_of_optionalEntry h with ⟨rfl, habsent⟩ | ⟨v, y, rfl, hv, hlookup, -⟩
  · exact iff_of_true rfl habsent
  · simp [Absent, hlookup, hv]

/-- An attribute that was read is read again from where it is written. -/
theorem Rereads.optionalEntry (hread : Rereads read write) {x : Option α}
    (h : optionalEntry read key entries = some x)
    (hwritten : Dictionary.lookup key written = x.map write) :
    optionalEntry read key written = some x := by
  rcases cases_of_optionalEntry h with ⟨rfl, -⟩ | ⟨v, y, rfl, hv, -, hy⟩
  · exact optionalEntry_of_absent (Or.inl hwritten)
  · obtain ⟨hne, hagain⟩ := hread v y hv hy
    rw [optionalEntry_of_lookup hne hwritten, hagain, Option.map_some]

/-- An attribute that was read is missing where it is written exactly if its key has no value. -/
theorem lookup_eq_none_iff_absent {x : Option α} (h : optionalEntry read key entries = some x)
    (hwritten : Dictionary.lookup key written = x.map write) :
    Dictionary.lookup key written = none ↔ Absent key entries := by
  rw [hwritten, Option.map_eq_none_iff, eq_none_iff_absent h]

theorem entryOr_of_lookup {default : α} {v : Json} (h : Dictionary.lookup key entries = some v) :
    entryOr default read key entries = read v := by
  rw [entryOr, h]

end

end FormLogic.Json
