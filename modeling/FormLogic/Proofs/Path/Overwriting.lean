import FormLogic.Proofs.Path.Writing

/-!
# Overwriting

What a value that is written does to what is read and written elsewhere depends on the segments of
the paths alone.  Within its place the value is read, and a later value above its place replaces it.
Aside of its place nothing changes, with one exception: a list on the way to both places gives way
to an object, so that nothing is read in it any more.
-/

namespace FormLogic.Path

open Schema

/-! ### Writing above and within a place -/

/-- What is written within a place that has been written is written into the value there. -/
theorem writeAt_append_writeAt (place rest : List String) (value new data : Json) :
    writeAt (place ++ rest) new (writeAt place value data) =
      writeAt place (writeAt rest new value) data := by
  induction place generalizing data with
  | nil => rfl
  | cons key place ih =>
      simp only [List.cons_append, writeAt, entriesOf, Dictionary.lookup_insert_self,
        Option.getD_some, Dictionary.insert_insert_self, ih]

/-- What has been written within a place is lost when the place is written. -/
theorem writeAt_writeAt_append (place rest : List String) (value new data : Json) :
    writeAt place new (writeAt (place ++ rest) value data) = writeAt place new data := by
  induction place generalizing data with
  | nil => rfl
  | cons key place ih =>
      simp only [List.cons_append, writeAt, entriesOf, Dictionary.lookup_insert_self,
        Option.getD_some, Dictionary.insert_insert_self, ih]

theorem set_set_within {p q : String} {rest : List String} (h : segments p ++ rest = segments q)
    (data value new : Json) :
    Path.set (Path.set data p value) q new = Path.set data p (writeAt rest new value) := by
  rw [Path.set, Path.set, ← h, writeAt_append_writeAt, Path.set]

theorem set_set_above {p q : String} (h : segments q <+: segments p) (data value new : Json) :
    Path.set (Path.set data p value) q new = Path.set data q new := by
  obtain ⟨rest, hrest⟩ := h
  rw [Path.set, Path.set, ← hrest, writeAt_writeAt_append, Path.set]

/-! ### Reading aside of a place -/

theorem readAt_null {keys : List String} (hkeys : keys ≠ []) : readAt keys .null = none := by
  obtain ⟨key, rest, rfl⟩ := List.exists_cons_of_ne_nil hkeys
  rfl

/-- What is not a list is read by key. -/
theorem readAt_cons {data : Json} (h : ¬ ∃ items, data = .array items) (key : String)
    (keys : List String) :
    readAt (key :: keys) data =
      (Dictionary.lookup key (entriesOf data)).bind (readAt keys) := by
  cases data with
  | array items => exact absurd ⟨items, rfl⟩ h
  | _ => rfl

/-- A list stands where the ways to both places have not parted yet. -/
def ListBefore (place other : List String) (data : Json) : Prop :=
  ∃ keys items, keys <+: place ∧ keys <+: other ∧ readAt keys data = some (.array items)

theorem not_listBefore_null (place other : List String) : ¬ ListBefore place other .null := by
  rintro ⟨keys, items, -, -, hread⟩
  by_cases hkeys : keys = []
  · rw [hkeys] at hread
    cases hread
  · rw [readAt_null hkeys] at hread
    cases hread

/-- The list is the value itself, or it stands under the key that both places begin with. -/
theorem listBefore_cons_iff {key next : String} {place other : List String} {data : Json} :
    ListBefore (key :: place) (next :: other) data ↔
      (∃ items, data = .array items) ∨
        next = key ∧ ∃ old, Dictionary.lookup key (entriesOf data) = some old ∧
          ListBefore place other old := by
  by_cases hdata : ∃ items, data = .array items
  · obtain ⟨items, rfl⟩ := hdata
    exact iff_of_true ⟨[], items, List.nil_prefix, List.nil_prefix, rfl⟩ (Or.inl ⟨items, rfl⟩)
  rw [or_iff_right hdata]
  constructor
  · rintro ⟨keys, items, hplace, hother, hread⟩
    cases keys with
    | nil => exact absurd ⟨items, Option.some.inj hread⟩ hdata
    | cons first keys =>
        rw [List.cons_prefix_cons] at hplace hother
        obtain ⟨rfl, hplace⟩ := hplace
        rw [readAt_cons hdata, Option.bind_eq_some_iff] at hread
        obtain ⟨old, hold, hread⟩ := hread
        exact ⟨hother.1.symm, old, hold, keys, items, hplace, hother.2, hread⟩
  · rintro ⟨rfl, old, hold, keys, items, hplace, hother, hread⟩
    refine ⟨next :: keys, items, List.cons_prefix_cons.mpr ⟨rfl, hplace⟩,
      List.cons_prefix_cons.mpr ⟨rfl, hother⟩, ?_⟩
    rw [readAt_cons hdata, hold, Option.bind_some, hread]

/-- Below its first key, a place is written in what stood under that key, or in `null`. -/
theorem readAt_writeAt_cons (key next : String) (place other : List String) (value data : Json) :
    readAt (next :: other) (writeAt (key :: place) value data) =
      if next = key then
        readAt other (writeAt place value ((Dictionary.lookup key (entriesOf data)).getD .null))
      else (Dictionary.lookup next (entriesOf data)).bind (readAt other) := by
  rw [readAt, writeAt, child]
  by_cases hkey : next = key
  · rw [if_pos hkey, hkey, Dictionary.lookup_insert_self, Option.bind_some]
  · rw [if_neg hkey, Dictionary.lookup_insert_of_ne _ _ hkey]

section

variable {place other : List String} (habove : ¬ other <+: place) (hbelow : ¬ place <+: other)
  (value : Json) {data : Json}

include habove hbelow

/-- Where no list stands before the ways to two places part, a value that is written at the one
place does not change what is read at the other. -/
theorem readAt_writeAt_of_not_listBefore (hlist : ¬ ListBefore place other data) :
    readAt other (writeAt place value data) = readAt other data := by
  induction place generalizing other data with
  | nil => exact absurd List.nil_prefix hbelow
  | cons key place ih =>
      cases other with
      | nil => exact absurd List.nil_prefix habove
      | cons next other =>
          rw [listBefore_cons_iff, not_or] at hlist
          rw [readAt_writeAt_cons, readAt_cons hlist.1]
          by_cases hkey : next = key
          · subst hkey
            rw [List.cons_prefix_cons, not_and] at habove hbelow
            have hother : other ≠ [] := fun hnil => habove rfl (hnil ▸ List.nil_prefix)
            rw [if_pos rfl]
            cases hold : Dictionary.lookup next (entriesOf data) with
            | none =>
                rw [Option.getD_none, ih (habove rfl) (hbelow rfl) (not_listBefore_null _ _),
                  readAt_null hother, Option.bind_none]
            | some old =>
                have hold_list : ¬ ListBefore place other old :=
                  fun h => hlist.2 ⟨rfl, old, hold, h⟩
                rw [Option.getD_some, ih (habove rfl) (hbelow rfl) hold_list, Option.bind_some]
          · rw [if_neg hkey]

/-- A list that stands before the ways to two places part gives way to an object when a value is
written at the one place, and nothing is read at the other one then. -/
theorem readAt_writeAt_of_listBefore (hlist : ListBefore place other data) :
    readAt other (writeAt place value data) = none := by
  induction place generalizing other data with
  | nil => exact absurd List.nil_prefix hbelow
  | cons key place ih =>
      cases other with
      | nil => exact absurd List.nil_prefix habove
      | cons next other =>
          rw [listBefore_cons_iff] at hlist
          rw [readAt_writeAt_cons]
          by_cases hkey : next = key
          · subst hkey
            rw [List.cons_prefix_cons, not_and] at habove hbelow
            rw [if_pos rfl]
            rcases hlist with ⟨items, rfl⟩ | ⟨-, old, hold, hlist⟩
            · have hother : other ≠ [] := fun hnil => habove rfl (hnil ▸ List.nil_prefix)
              have hnull := readAt_writeAt_of_not_listBefore (habove rfl) (hbelow rfl) value
                (not_listBefore_null place other)
              exact hnull.trans (readAt_null hother)
            · rw [hold, Option.getD_some]
              exact ih (habove rfl) (hbelow rfl) hlist
          · rw [if_neg hkey]
            obtain ⟨items, rfl⟩ := hlist.resolve_right fun h => hkey h.1
            rfl

end

/-! ### Laws of writing -/

/-- What comes first among the segments of a path are the segments of a path, too. -/
theorem exists_segments_eq_of_prefix {keys : List String} {path : String}
    (h : keys <+: segments path) : ∃ front, segments front = keys := by
  have hparts : ∀ key ∈ keys, key ∈ parts path ∧ (key != "") = true :=
    fun key hkey => List.mem_filter.mp (h.subset hkey)
  have hdotless : Dotless keys := fun key hkey => dotless_parts path key (hparts key hkey).1
  refine ⟨under "" keys, ?_⟩
  rw [segments_under hdotless, segments_empty, List.nil_append, List.filter_eq_self]
  exact fun key hkey => (hparts key hkey).2

/-- A list stands where the ways of two paths have not parted yet; it may be the data as a whole. -/
def ShareList (p q : String) (data : Json) : Prop :=
  ∃ front items, segments front <+: segments p ∧ segments front <+: segments q ∧
    get data front = some (.array items)

theorem shareList_iff {p q : String} {data : Json} :
    ShareList p q data ↔ ListBefore (segments p) (segments q) data := by
  constructor
  · rintro ⟨front, items, hp, hq, hread⟩
    exact ⟨segments front, items, hp, hq, hread⟩
  · rintro ⟨keys, items, hp, hq, hread⟩
    obtain ⟨front, rfl⟩ := exists_segments_eq_of_prefix hp
    exact ⟨front, items, hp, hq, hread⟩

theorem get_set_within {p path rest : String} (h : segments path = segments p ++ segments rest)
    (data value : Json) : get (Path.set data p value) path = get value rest := by
  rw [get, h, Path.set, readAt_writeAt_append, get]

theorem get_set_self (data value : Json) (p : String) :
    get (Path.set data p value) p = some value := by
  have hself : segments p = segments p ++ segments "" := by
    rw [segments_empty, List.append_nil]
  rw [get_set_within hself, get, segments_empty, readAt]

theorem Separate.get_set {p q : String} (h : Separate p q) {data : Json}
    (hlist : ¬ ShareList p q data) (value : Json) :
    get (Path.set data p value) q = get data q := by
  rw [shareList_iff] at hlist
  exact readAt_writeAt_of_not_listBefore h.2 h.1 value hlist

theorem Separate.get_set_eq_none {p q : String} (h : Separate p q) {data : Json}
    (hlist : ShareList p q data) (value : Json) : get (Path.set data p value) q = none := by
  rw [shareList_iff] at hlist
  exact readAt_writeAt_of_listBefore h.2 h.1 value hlist

/-- A value that is written is read at its path and, from there on, as what it is; a second one in
its place replaces it.  Writing at two separate paths comes to the same in either order, and what is
read at the one stays the same when the other is written, unless a list stands where the ways of the
two have not parted yet: then nothing is read there any more. -/
theorem set_laws (data : Json) (p q : String) (value new : Json) :
    get (Path.set data p value) p = some value ∧
      (∀ path rest, segments path = segments p ++ segments rest →
        get (Path.set data p value) path = get value rest) ∧
      (Separate p q →
        Path.set (Path.set data p value) q new = Path.set (Path.set data q new) p value ∧
          (¬ ShareList p q data → get (Path.set data p value) q = get data q) ∧
          (ShareList p q data → get (Path.set data p value) q = none)) ∧
      (segments q = segments p →
        Path.set (Path.set data p value) q new = Path.set data p new) := by
  refine ⟨get_set_self data value p, ?_, ?_, ?_⟩
  · intro path rest hpath
    exact get_set_within hpath data value
  · intro hsep
    exact ⟨(hsep.set_comm data value new).symm, fun hlist => hsep.get_set hlist value,
      fun hlist => hsep.get_set_eq_none hlist value⟩
  · intro hsame
    rw [set_set_above (hsame ▸ List.prefix_rfl), Path.set, hsame, Path.set]

end FormLogic.Path

/-! ### A sheet with rows -/

namespace FormLogic.Sheet

open FormLogic.Path

/-- A place with a city, and a list of one row. -/
def data : Json :=
  .object [("place", .object [("city", .text "Kyiv")]), ("rows", .array [.ofNat 5])]

/-- The city is still read after a zip code has been written beside it, whatever dots its path has.
A note beside the row takes the place of the list, and the row is lost. -/
theorem row_is_lost :
    get (Path.set data "place.zip" (.text "01001")) ".place..city" = some (.text "Kyiv") ∧
      get data "rows.0" = some (.ofNat 5) ∧
        get (Path.set data "rows.note" (.text "")) "rows.0" = none := by
  have hplace : Separate "place.zip" ".place..city" := by
    unfold Separate
    decide +kernel
  have hrows : Separate "rows.note" "rows.0" := by
    unfold Separate
    decide +kernel
  have hunshared : ¬ ShareList "place.zip" ".place..city" data := by
    have hzip : segments "place.zip" = ["place", "zip"] := by decide +kernel
    have hcity : segments ".place..city" = ["place", "city"] := by decide +kernel
    rw [shareList_iff, hzip, hcity, listBefore_cons_iff]
    simp [data, entriesOf, Dictionary.lookup_cons, listBefore_cons_iff]
  have hshared : ShareList "rows.note" "rows.0" data :=
    ⟨"rows", [.ofNat 5], by decide +kernel, by decide +kernel, rfl⟩
  refine ⟨?_, rfl, ?_⟩
  · rw [((set_laws data "place.zip" ".place..city" _ .null).2.2.1 hplace).2.1 hunshared]
    rfl
  · exact ((set_laws data "rows.note" "rows.0" _ .null).2.2.1 hrows).2.2 hshared

end FormLogic.Sheet
