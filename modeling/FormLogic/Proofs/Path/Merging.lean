import FormLogic.Proofs.Json.Normal
import FormLogic.Proofs.Path.Writing

/-!
# Merging

Under each key, a merge of two objects holds what either of them holds alone, and the merge of both
values where both have one.  What is read in the merge follows along the way: the overlay decides
where it has anything but an object, two objects that are reached through objects are merged, and
what the overlay lacks is read in the base.  To merge an overlay a second time changes nothing.
-/

namespace FormLogic.Path

open Schema

/-! ### Merged objects -/

@[simp] theorem merge_object (base overlay : Dictionary Json) :
    merge (.object base) (.object overlay) = .object (mergeEntries base overlay) := by
  rw [merge]

theorem merge_of_overlay_not_object {overlay : Json} (h : ∀ entries, overlay ≠ .object entries)
    (base : Json) : merge base overlay = overlay := by
  rw [merge]
  exact h

theorem merge_of_base_not_object {base : Json} (h : ∀ entries, base ≠ .object entries)
    (overlay : Json) : merge base overlay = overlay := by
  cases overlay with
  | object overlay =>
      rw [merge]
      exact h
  | _ =>
      rw [merge]
      nofun

/-- A value merged onto what was there before, if anything was. -/
def mergeOnto (old : Option Json) (value : Json) : Json :=
  match old with
  | some old => merge old value
  | none => value

/-- Under a key there is the overlay's value, merged onto that of the base, or else the base's. -/
theorem lookup_mergeEntries (key : String) (base overlay : Dictionary Json) :
    Dictionary.lookup key (mergeEntries base overlay) =
      ((Dictionary.lookup key overlay).map (mergeOnto (Dictionary.lookup key base))).or
        (Dictionary.lookup key base) := by
  induction overlay with
  | nil =>
      rw [mergeEntries]
      rfl
  | cons entry overlay ih =>
      obtain ⟨k, value⟩ := entry
      rw [mergeEntries, Dictionary.lookup_cons]
      by_cases hk : key = k
      · subst hk
        rw [Dictionary.lookup_insert_self, if_pos rfl]
        rfl
      · rw [Dictionary.lookup_insert_of_ne _ _ hk, ih, if_neg hk]

theorem lookup_mergeEntries_of_some {key : String} {overlay : Dictionary Json} {value : Json}
    (h : Dictionary.lookup key overlay = some value) (base : Dictionary Json) :
    Dictionary.lookup key (mergeEntries base overlay) =
      some (mergeOnto (Dictionary.lookup key base) value) := by
  rw [lookup_mergeEntries, h, Option.map_some, Option.some_or]

theorem lookup_mergeEntries_of_none {key : String} {overlay : Dictionary Json}
    (h : Dictionary.lookup key overlay = none) (base : Dictionary Json) :
    Dictionary.lookup key (mergeEntries base overlay) = Dictionary.lookup key base := by
  rw [lookup_mergeEntries, h, Option.map_none, Option.none_or]

theorem ascending_mergeEntries {base : Dictionary Json} (h : base.Ascending)
    (overlay : Dictionary Json) : (mergeEntries base overlay).Ascending := by
  induction overlay with
  | nil =>
      rw [mergeEntries]
      exact h
  | cons entry overlay ih =>
      rw [mergeEntries]
      exact ih.insert _ _

/-! ### Reading in a merge -/

/-- What is not an object in the overlay is read in the merge as well, be it in a list or not. -/
theorem readAt_merge_of_overlay {keys : List String} {base overlay value : Json}
    (h : readAt keys overlay = some value) (hvalue : ∀ entries, value ≠ .object entries) :
    readAt keys (merge base overlay) = some value := by
  induction keys generalizing base overlay with
  | nil =>
      obtain rfl : overlay = value := Option.some.inj h
      rw [merge_of_overlay_not_object hvalue]
      exact h
  | cons key keys ih =>
      by_cases hoverlay : ∃ new, overlay = .object new
      · obtain ⟨new, rfl⟩ := hoverlay
        by_cases hbase : ∃ old, base = .object old
        · obtain ⟨old, rfl⟩ := hbase
          obtain ⟨next, hnext, hread⟩ := Option.bind_eq_some_iff.mp h
          rw [merge_object, readAt, child, lookup_mergeEntries_of_some hnext, Option.bind_some]
          cases Dictionary.lookup key old with
          | none => exact hread
          | some before => exact ih hread
        · rw [not_exists] at hbase
          rw [merge_of_base_not_object hbase]
          exact h
      · rw [not_exists] at hoverlay
        rw [merge_of_overlay_not_object hoverlay]
        exact h

theorem exists_valueUnder {key : String} {keys : List String} {data value : Json}
    (h : valueAt (key :: keys) (some data) = some value) :
    ∃ entries next, data = .object entries ∧ Dictionary.lookup key entries = some next ∧
      valueAt keys (some next) = some value := by
  rw [valueAt_cons] at h
  cases hnext : valueUnder key (some data) with
  | none =>
      rw [hnext, valueAt_none] at h
      cases h
  | some next =>
      rw [hnext] at h
      cases data with
      | object entries => exact ⟨entries, next, rfl, hnext, h⟩
      | _ => cases hnext

/-- Values that are reached through objects in both are merged. -/
theorem valueAt_merge {keys : List String} {base overlay old new : Json}
    (hbase : valueAt keys (some base) = some old)
    (hoverlay : valueAt keys (some overlay) = some new) :
    valueAt keys (some (merge base overlay)) = some (merge old new) := by
  induction keys generalizing base overlay with
  | nil =>
      obtain rfl : base = old := Option.some.inj hbase
      obtain rfl : overlay = new := Option.some.inj hoverlay
      rfl
  | cons key keys ih =>
      obtain ⟨entries, below, rfl, hbelow, hbase⟩ := exists_valueUnder hbase
      obtain ⟨entries', above, rfl, habove, hoverlay⟩ := exists_valueUnder hoverlay
      rw [merge_object, valueAt_cons, valueUnder, lookup_mergeEntries_of_some habove, hbelow]
      exact ih hbase hoverlay

/-- What the overlay lacks is read in the base, from the object that lacks it on. -/
theorem readAt_merge_of_missing {front rest : List String} {key : String} {base overlay : Json}
    {old new : Dictionary Json} (hbase : valueAt front (some base) = some (.object old))
    (hoverlay : valueAt front (some overlay) = some (.object new))
    (hmissing : Dictionary.lookup key new = none) :
    readAt (front ++ key :: rest) (merge base overlay) = readAt (front ++ key :: rest) base := by
  have hmerge := readAt_of_valueAt (valueAt_merge hbase hoverlay)
  rw [readAt_append, readAt_append, hmerge, readAt_of_valueAt hbase, Option.bind_some,
    Option.bind_some, merge_object, readAt, readAt, child, child,
    lookup_mergeEntries_of_none hmissing]

/-! ### What an overlay lacks -/

@[simp] theorem valueUnder_none (key : String) : valueUnder key none = none := rfl

theorem valueAt_append (front keys : List String) (data : Option Json) :
    valueAt (front ++ keys) data = valueAt keys (valueAt front data) :=
  List.foldl_append

/-- Objects alone stand above a value that is reached through objects. -/
theorem exists_object_above_valueAt {front rest : List String} {key : String}
    {data : Option Json} {v : Json} (h : valueAt (front ++ key :: rest) data = some v) :
    ∃ entries, valueAt front data = some (.object entries) := by
  rw [valueAt_append, valueAt_cons] at h
  cases hfront : valueAt front data with
  | none =>
      rw [hfront, valueUnder_none, valueAt_none] at h
      cases h
  | some above =>
      rw [hfront] at h
      obtain ⟨entries, -, rfl, -⟩ := exists_valueUnder h
      exact ⟨entries, rfl⟩

/-- What stands above such a value can be checked as an object. -/
theorem clear_of_valueAt {name : String} {data v : Json}
    (h : valueAt (parts name) (some data) = some v) : Clear name (some data) := by
  intro above habove
  obtain ⟨⟨rest, hrest⟩, hne⟩ := below_iff_prefix_ne.mp habove
  cases rest with
  | nil => exact absurd (by simpa using hrest) hne
  | cons key rest =>
      rw [← hrest] at h
      obtain ⟨entries, hentries⟩ := exists_object_above_valueAt h
      rw [hentries]
      rfl

/-- Where nothing is read below objects, one of them lacks a key. -/
theorem exists_missing {keys : List String} {data : Json} (hnone : readAt keys data = none)
    (habove : ∀ front, front <+: keys → front ≠ keys → ∀ v, readAt front data = some v →
      ∃ entries, v = .object entries) :
    ∃ front key rest entries, keys = front ++ key :: rest ∧
      valueAt front (some data) = some (.object entries) ∧
        Dictionary.lookup key entries = none := by
  induction keys generalizing data with
  | nil => cases hnone
  | cons key keys ih =>
      obtain ⟨entries, rfl⟩ := habove [] List.nil_prefix (List.cons_ne_nil key keys).symm data rfl
      cases hnext : Dictionary.lookup key entries with
      | none => exact ⟨[], key, keys, entries, rfl, rfl, hnext⟩
      | some next =>
          have hread : ∀ front, readAt (key :: front) (.object entries) = readAt front next := by
            intro front
            rw [readAt, child, hnext, Option.bind_some]
          rw [hread] at hnone
          have hbelow : ∀ front, front <+: keys → front ≠ keys → ∀ v, readAt front next = some v →
              ∃ inner, v = .object inner := by
            intro front hpre hne v hv
            refine habove (key :: front) (List.cons_prefix_cons.mpr ⟨rfl, hpre⟩) ?_ v ?_
            · simpa using hne
            · rw [hread, hv]
          obtain ⟨front, last, rest, inner, rfl, hfront, hmissing⟩ := ih hnone hbelow
          refine ⟨key :: front, last, rest, inner, rfl, ?_, hmissing⟩
          rw [valueAt_cons, valueUnder, hnext, hfront]

/-- A value of the base that is reached through objects is read in the merge if the overlay has
nothing in its place, and nothing but objects above it. -/
theorem get_merge_of_missing {path : String} {base v : Json} {overlay : Dictionary Json}
    (hplain : Plain path) (hbase : valueAt (segments path) (some base) = some v)
    (hnone : get (.object overlay) path = none)
    (habove : ∀ above, Below path above → ∀ w, get (.object overlay) above = some w →
      ∃ entries, w = .object entries) :
    get (merge base (.object overlay)) path = some v := by
  have hfront : ∀ front, front <+: segments path → front ≠ segments path →
      ∀ w, readAt front (.object overlay) = some w → ∃ entries, w = .object entries := by
    intro front hpre hne w hw
    rw [segments_of_plain hplain] at hpre hne
    by_cases hnil : front = []
    · rw [hnil] at hw
      cases hw
      exact ⟨overlay, rfl⟩
    · obtain ⟨above, rfl⟩ := ((dotless_parts path).front hpre).exists_parts_eq hnil
      have hbelow : Below path above := below_iff_prefix_ne.mpr ⟨hpre, hne⟩
      rw [← segments_of_plain (hplain.of_below hbelow)] at hw
      exact habove above hbelow w hw
  obtain ⟨front, key, rest, new, hpath, hoverlay, hmissing⟩ := exists_missing hnone hfront
  have hread := readAt_of_valueAt hbase
  rw [hpath] at hbase hread
  obtain ⟨old, hold⟩ := exists_object_above_valueAt hbase
  rw [get, hpath, readAt_merge_of_missing hold hoverlay hmissing, hread]

/-! ### Merging again -/

/-- A merge of a value with itself is that value. -/
theorem merge_self {v : Json} (h : v.Normal) : merge v v = v := by
  induction h with
  | @object entries hascending _ ih =>
      rw [merge_object]
      congr 1
      refine (ascending_mergeEntries hascending entries).ext hascending ?_
      intro key
      cases hkey : Dictionary.lookup key entries with
      | none => rw [lookup_mergeEntries_of_none hkey, hkey]
      | some value =>
          rw [lookup_mergeEntries_of_some hkey, hkey, mergeOnto,
            ih _ (Dictionary.mem_of_lookup_eq_some hkey)]
  | _ => simp [merge]

/-- An overlay that has been merged is not noticed when it is merged again. -/
theorem merge_merge {base overlay : Json} (hbase : base.Normal) (hoverlay : overlay.Normal) :
    merge (merge base overlay) overlay = merge base overlay := by
  induction hoverlay generalizing base with
  | @object new hascending hnew ih =>
      by_cases hobject : ∃ old, base = .object old
      · obtain ⟨old, rfl⟩ := hobject
        have hmerged := ascending_mergeEntries hbase.ascending new
        rw [merge_object, merge_object]
        congr 1
        refine (ascending_mergeEntries hmerged new).ext hmerged ?_
        intro key
        cases hkey : Dictionary.lookup key new with
        | none => rw [lookup_mergeEntries_of_none hkey]
        | some value =>
            have hvalue := Dictionary.mem_of_lookup_eq_some hkey
            rw [lookup_mergeEntries_of_some hkey, lookup_mergeEntries_of_some hkey, mergeOnto]
            cases hold : Dictionary.lookup key old with
            | none => rw [mergeOnto, merge_self (hnew _ hvalue)]
            | some before => rw [mergeOnto, ih _ hvalue (hbase.of_lookup hold)]
      · rw [not_exists] at hobject
        rw [merge_of_base_not_object hobject]
        exact merge_self (.object hascending hnew)
  | _ => simp [merge]

/-- A value of the overlay that is not an object is read in the merge.  Values that are reached
through objects alone are merged, and what an object of the overlay lacks is read in the base.
Nothing changes when a value is merged with itself or with an empty object, or when an overlay is
merged again. -/
theorem merge_laws (base overlay : Json) :
    (∀ path value, get overlay path = some value → (∀ entries, value ≠ .object entries) →
        get (merge base overlay) path = some value) ∧
      (∀ path old new, valueAt (segments path) (some base) = some old →
        valueAt (segments path) (some overlay) = some new →
          get (merge base overlay) path = some (merge old new)) ∧
      (∀ path front key rest old new, segments path = front ++ key :: rest →
        valueAt front (some base) = some (.object old) →
        valueAt front (some overlay) = some (.object new) → Dictionary.lookup key new = none →
          get (merge base overlay) path = get base path) ∧
      (base.Normal → merge base base = base) ∧
      (base.Normal → overlay.Normal → merge (merge base overlay) overlay = merge base overlay) ∧
      (∀ entries, base = .object entries → merge base (.object []) = base) := by
  refine ⟨?_, ?_, ?_, merge_self, merge_merge, ?_⟩
  · intro path value hread hvalue
    exact readAt_merge_of_overlay hread hvalue
  · intro path old new hbase hoverlay
    exact readAt_of_valueAt (valueAt_merge hbase hoverlay)
  · intro path front key rest old new hpath hbase hoverlay hmissing
    rw [get, get, hpath]
    exact readAt_merge_of_missing hbase hoverlay hmissing
  · intro entries hbase
    rw [hbase, merge_object, mergeEntries]

end FormLogic.Path

/-! ### A base and an overlay -/

namespace FormLogic.Overlaid

open FormLogic.Path

def base : Json :=
  .ofEntries
    [("a", .ofEntries [("b", .ofNat 1), ("c", .array [.ofNat 1, .ofNat 2])]), ("d", .text "keep")]

def overlay : Json :=
  .ofEntries
    [("a", .ofEntries [("c", .array [.ofNat 3]), ("e", .bool true)]),
      ("d", .ofEntries [("nested", .ofNat 1)])]

theorem normal_base : base.Normal := by
  have hlist : (Json.array [.ofNat 1, .ofNat 2]).Normal :=
    .array (by simp [Json.Normal.ofNat])
  have hinner : (Json.ofEntries [("b", .ofNat 1), ("c", .array [.ofNat 1, .ofNat 2])]).Normal :=
    .ofEntries (by simp [hlist, Json.Normal.ofNat])
  exact .ofEntries (by simp [hinner, Json.Normal.text])

theorem normal_overlay : overlay.Normal := by
  have hlist : (Json.array [.ofNat 3]).Normal := .array (by simp [Json.Normal.ofNat])
  have hinner : (Json.ofEntries [("c", .array [.ofNat 3]), ("e", .bool true)]).Normal :=
    .ofEntries (by simp [hlist, Json.Normal.bool])
  have hnested : (Json.ofEntries [("nested", .ofNat 1)]).Normal :=
    .ofEntries (by simp [Json.Normal.ofNat])
  exact .ofEntries (by simp [hinner, hnested])

/-- The list is replaced, and what the overlay does not name is kept. -/
theorem list_is_replaced :
    get (merge base overlay) "a.c.0" = some (.ofNat 3) ∧
      get (merge base overlay) "a" =
          some (merge (.ofEntries [("b", .ofNat 1), ("c", .array [.ofNat 1, .ofNat 2])])
            (.ofEntries [("c", .array [.ofNat 3]), ("e", .bool true)])) ∧
        get (merge base overlay) "a.b" = get base "a.b" ∧
          merge base base = base ∧ merge (merge base overlay) overlay = merge base overlay ∧
            merge base (.object []) = base := by
  obtain ⟨hkept, hmerged, hmissing, hself, hagain, hempty⟩ := merge_laws base overlay
  have hpath : segments "a.b" = ["a"] ++ "b" :: [] := by decide +kernel
  exact ⟨hkept "a.c.0" _ rfl nofun, hmerged "a" _ _ rfl rfl,
    hmissing "a.b" ["a"] "b" [] _ _ hpath rfl rfl rfl, hself normal_base,
    hagain normal_base normal_overlay, hempty _ rfl⟩

end FormLogic.Overlaid
