import FormLogic.Form
import FormLogic.Proofs.Configuration.Rewriting

/-!
# Configurations read again

A configuration that was read and is written again is read as the same document, in which every
element has kept what it said at its place.
-/

namespace FormLogic

open Json

/-! ### Declarations -/

namespace Declaration

variable {source : Json} {d : Declaration}

theorem readAll_eq (items : List Json) : readAll items = items.mapM read? := by
  induction items with
  | nil => rfl
  | cons item items ih => rw [readAll, ih, List.mapM_cons]

theorem readAll_eq_some_iff {items : List Json} {ds : List Declaration} :
    readAll items = some ds ↔ items.map read? = ds.map some := by
  have hlist : asListOf read? (.array items) = some ds ↔ _ := asListOf_eq_some_iff
  rw [readAll_eq, ← asListOf, hlist]
  simp

theorem toJsonAll_eq (ds : List Declaration) : toJsonAll ds = ds.map toJson := by
  induction ds with
  | nil => rfl
  | cons d ds ih => rw [toJsonAll, ih, List.map_cons]

theorem toJsonOptional_eq (o : Option (List Declaration)) :
    toJsonOptional o = o.map fun ds => .array (ds.map toJson) := by
  cases o with
  | none => rfl
  | some ds => rw [toJsonOptional, toJsonAll_eq, Option.map_some]

/-- Nested declarations are read like any other attribute. -/
theorem readNested_eq (key : String) (entries : Dictionary Json) :
    readNested key entries = optionalEntry (asListOf read?) key entries := by
  induction entries with
  | nil => rfl
  | cons entry entries ih =>
      obtain ⟨k, v⟩ := entry
      rw [readNested]
      by_cases hk : key = k
      · rw [if_pos hk, optionalEntry, Dictionary.lookup_cons, if_pos hk]
        cases v <;> simp [readOptional, asListOf, readAll_eq]
      · rw [if_neg hk, ih, optionalEntry, optionalEntry, Dictionary.lookup_cons, if_neg hk]

theorem read?_eq_some_iff :
    read? source = some d ↔
      ∃ entries, source = .object entries ∧ d.attributes.ReadFrom entries ∧
        optionalEntry (asListOf read?) "itemFields" entries = some d.itemFields ∧
        optionalEntry (asListOf read?) "children" entries = some d.children := by
  obtain ⟨a, items, children⟩ := d
  cases source with
  | object entries =>
      simp only [read?, Option.bind_eq_bind, Option.pure_def, Option.bind_eq_some_iff,
        Attributes.read?_eq_some_iff, readNested_eq, Option.some.injEq, element.injEq, object.injEq,
        Declaration.attributes, Declaration.itemFields, Declaration.children]
      constructor
      · rintro ⟨_, hattributes, _, hitems, _, hchildren, rfl, rfl, rfl⟩
        exact ⟨entries, rfl, hattributes, hitems, hchildren⟩
      · rintro ⟨_, rfl, hattributes, hitems, hchildren⟩
        exact ⟨a, hattributes, items, hitems, children, hchildren, rfl, rfl, rfl⟩
  | null | bool | number | text | array => simp [read?]

/-! ### Declarations that are written -/

/-- All attributes by key, nested declarations among them. -/
def entries (d : Declaration) : List (String × Option Json) :=
  d.attributes.entries ++
    [("itemFields", toJsonOptional d.itemFields), ("children", toJsonOptional d.children)]

/-- The entries of the declaration as it is written. -/
def written (d : Declaration) : Dictionary Json := withAttributes d.entries d.attributes.extra

theorem toJson_eq (d : Declaration) : d.toJson = .object d.written := by
  cases d
  rw [toJson]
  rfl

/-- The attributes have different keys, which are the known ones. -/
theorem keys_entries (d : Declaration) : (d.entries.map (·.1)).Perm Attributes.keys := by
  have hkeys : d.entries.map (·.1) =
      ["type", "name", "label", "defaultValue", "validation", "visible", "dependsOn",
        "resetOnParentChange", "meta", "options", "optionsProvider", "multiple", "minItems",
        "maxItems", "component", "componentProps", "variant", "itemFields", "children"] := rfl
  rw [hkeys]
  decide

variable {entries : Dictionary Json}

theorem lookup_written (h : d.attributes.ReadFrom entries) :
    ∀ entry ∈ d.entries, Dictionary.lookup entry.1 d.written = entry.2 := by
  intro entry hmem
  have hnodup : (d.entries.map (·.1)).Nodup := d.keys_entries.nodup_iff.mpr (by decide)
  have hkey : entry.1 ∈ Attributes.keys := d.keys_entries.mem_iff.mp (List.mem_map_of_mem hmem)
  -- The entries that are kept have unknown keys.
  have hextra : Dictionary.lookup entry.1 d.attributes.extra = none := by
    rw [← h.extra, Attributes.lookup_filter_keys, if_pos hkey]
  rw [written, lookup_withAttributes hnodup hmem, hextra, Option.or_none]

theorem lookup_itemFields_written (h : d.attributes.ReadFrom entries) :
    Dictionary.lookup "itemFields" d.written = toJsonOptional d.itemFields :=
  lookup_written h ("itemFields", toJsonOptional d.itemFields) (by simp [Declaration.entries])

theorem lookup_children_written (h : d.attributes.ReadFrom entries) :
    Dictionary.lookup "children" d.written = toJsonOptional d.children :=
  lookup_written h ("children", toJsonOptional d.children) (by simp [Declaration.entries])

theorem filter_written (h : d.attributes.ReadFrom entries) :
    (d.written.filter fun entry => !Attributes.keys.contains entry.1) = d.attributes.extra := by
  have hknown : ∀ entry ∈ d.entries, (!Attributes.keys.contains entry.1) = false := by
    intro entry hmem
    have hkey : entry.1 ∈ Attributes.keys := d.keys_entries.mem_iff.mp (List.mem_map_of_mem hmem)
    simp [hkey]
  rw [written, filter_withAttributes (p := fun key => !Attributes.keys.contains key) hknown,
    ← h.extra, List.filter_filter]
  simp

theorem readFrom_written (h : d.attributes.ReadFrom entries) :
    d.attributes.ReadFrom d.written :=
  h.rewritten (fun entry hmem => lookup_written h entry (List.mem_append_left _ hmem))
    (filter_written h)

/-- Nested declarations were read from somewhere. -/
theorem exists_source_of_nested {key : String} {o : Option (List Declaration)}
    (h : optionalEntry (asListOf read?) key entries = some o) :
    ∀ ds ∈ o, ∀ d ∈ ds, ∃ source, read? source = some d := by
  rcases cases_of_optionalEntry h with ⟨rfl, -⟩ | ⟨v, ds, rfl, -, -, hds⟩
  · simp
  · obtain ⟨items, -, hitems⟩ := asListOf_eq_some_iff.mp hds
    intro ds' hds' d hd
    cases hds'
    have hmem : some d ∈ items.map read? := hitems ▸ List.mem_map_of_mem hd
    obtain ⟨item, -, hitem⟩ := List.mem_map.mp hmem
    exact ⟨item, hitem⟩

/-- Nested declarations are read again if each of them is. -/
theorem optionalEntry_nested {key : String} {o : Option (List Declaration)}
    (h : ∀ ds ∈ o, ∀ d ∈ ds, read? d.toJson = some d)
    (hlookup : Dictionary.lookup key entries = toJsonOptional o) :
    optionalEntry (asListOf read?) key entries = some o := by
  rw [toJsonOptional_eq] at hlookup
  cases o with
  | none => exact optionalEntry_of_absent (Or.inl hlookup)
  | some ds =>
      rw [Option.map_some] at hlookup
      rw [optionalEntry_of_lookup (by simp) hlookup, asListOf_map ds (h ds rfl), Option.map_some]

/-- A declaration that was read is read again from what it is written as. -/
theorem read?_toJson (d : Declaration) :
    ∀ source, read? source = some d → read? d.toJson = some d := by
  induction d using Declaration.induction with
  | element a items children ihItems ihChildren =>
      intro source hread
      obtain ⟨entries, -, hattributes, hitems, hchildren⟩ := read?_eq_some_iff.mp hread
      rw [toJson_eq, read?_eq_some_iff]
      refine ⟨_, rfl, readFrom_written hattributes, ?_, ?_⟩
      · refine optionalEntry_nested ?_ (lookup_itemFields_written hattributes)
        intro ds hds d hd
        obtain ⟨source, hsource⟩ := exists_source_of_nested hitems ds hds d hd
        exact ihItems ds hds d hd source hsource
      · refine optionalEntry_nested ?_ (lookup_children_written hattributes)
        intro ds hds d hd
        obtain ⟨source, hsource⟩ := exists_source_of_nested hchildren ds hds d hd
        exact ihChildren ds hds d hd source hsource

end Declaration

/-! ### Elements at their places -/

namespace Step

/-- The key under which the elements nested in another one stand. -/
def key : Step → String
  | child _ => "children"
  | item _ => "itemFields"

def index : Step → Nat
  | child index => index
  | item index => index

end Step

namespace Json

/-- The items of the list that stands under a key. -/
def itemsUnder (key : String) : Json → List Json
  | .object entries =>
      match Dictionary.lookup key entries with
      | some (.array items) => items
      | _ => []
  | _ => []

theorem itemsUnder_of_lookup {key : String} {entries : Dictionary Json} {items : List Json}
    (h : Dictionary.lookup key entries = some (.array items)) :
    itemsUnder key (.object entries) = items := by
  rw [itemsUnder, h]

theorem itemsUnder_of_absent {key : String} {entries : Dictionary Json} (h : Absent key entries) :
    itemsUnder key (.object entries) = [] := by
  rcases h with h | h <;> rw [itemsUnder, h]

end Json

namespace Declaration

variable {source v : Json} {d : Declaration} {entries : Dictionary Json}

/-- What stands some steps below an element. -/
def elementBelow : List Step → Json → Option Json
  | [], v => some v
  | step :: steps, v => (v.itemsUnder step.key)[step.index]?.bind (elementBelow steps)

/-- The declarations that are nested in another one, where a step leads. -/
def nested (d : Declaration) : Step → List Declaration
  | .child _ => d.children.getD []
  | .item _ => d.itemFields.getD []

theorem map_read?_itemsUnder {key : String} {o : Option (List Declaration)}
    (h : optionalEntry (asListOf read?) key entries = some o) :
    (itemsUnder key (.object entries)).map read? = (o.getD []).map some := by
  rcases cases_of_optionalEntry h with ⟨rfl, habsent⟩ | ⟨v, ds, rfl, -, hlookup, hds⟩
  · rw [itemsUnder_of_absent habsent]
    rfl
  · obtain ⟨items, rfl, hitems⟩ := asListOf_eq_some_iff.mp hds
    rw [itemsUnder_of_lookup hlookup, hitems]
    rfl

theorem itemsUnder_eq_map_toJson {key : String} {o : Option (List Declaration)}
    (h : Dictionary.lookup key entries = toJsonOptional o) :
    itemsUnder key (.object entries) = (o.getD []).map toJson := by
  rw [toJsonOptional_eq] at h
  cases o with
  | none => rw [itemsUnder_of_absent (Or.inl h)]; rfl
  | some ds => rw [itemsUnder_of_lookup h]; rfl

theorem map_read?_nested (h : read? source = some d) (step : Step) :
    (source.itemsUnder step.key).map read? = (d.nested step).map some := by
  obtain ⟨entries, rfl, -, hitems, hchildren⟩ := read?_eq_some_iff.mp h
  cases step with
  | child index => exact map_read?_itemsUnder hchildren
  | item index => exact map_read?_itemsUnder hitems

theorem itemsUnder_toJson (h : read? source = some d) (step : Step) :
    d.toJson.itemsUnder step.key = (d.nested step).map toJson := by
  obtain ⟨entries, -, hattributes, -, -⟩ := read?_eq_some_iff.mp h
  rw [toJson_eq]
  cases step with
  | child index => exact itemsUnder_eq_map_toJson (lookup_children_written hattributes)
  | item index => exact itemsUnder_eq_map_toJson (lookup_itemFields_written hattributes)

/-- Of declarations that are read one by one and written again, those at the same index belong
together. -/
theorem exists_getElem?_toJson {items : List Json} {ds : List Declaration}
    (h : items.map read? = ds.map some) {index : Nat} (hv : items[index]? = some v) :
    ∃ d, read? v = some d ∧ (ds.map toJson)[index]? = some d.toJson := by
  have hindex : (items.map read?)[index]? = (ds.map some)[index]? := by rw [h]
  rw [List.getElem?_map, List.getElem?_map, hv, Option.map_some] at hindex
  obtain ⟨d, hd, hread⟩ := Option.map_eq_some_iff.mp hindex.symm
  exact ⟨d, hread.symm, by rw [List.getElem?_map, hd, Option.map_some]⟩

/-- Below a declaration that was read, every element has its place where the declaration is written
again. -/
theorem exists_elementBelow_toJson (steps : List Step) (h : read? source = some d)
    (hv : elementBelow steps source = some v) :
    ∃ e, read? v = some e ∧ elementBelow steps d.toJson = some e.toJson := by
  induction steps generalizing source d with
  | nil =>
      rw [elementBelow, Option.some.injEq] at hv
      subst hv
      exact ⟨d, h, rfl⟩
  | cons step steps ih =>
      rw [elementBelow, Option.bind_eq_some_iff] at hv
      obtain ⟨next, hnext, hv⟩ := hv
      obtain ⟨inner, hinner, hwritten⟩ :=
        exists_getElem?_toJson (map_read?_nested h step) hnext
      obtain ⟨e, he, hbelow⟩ := ih hinner hv
      refine ⟨e, he, ?_⟩
      rw [elementBelow, itemsUnder_toJson h, hwritten, Option.bind_some, hbelow]

/-- What an element keeps when it is read and written again: the entries under unknown keys, and the
default value.  Each other known attribute is there unless it has no value or is `null`. -/
structure Kept (entries written : Dictionary Json) : Prop where
  unknown : ∀ key, key ∉ Attributes.keys →
    Dictionary.lookup key written = Dictionary.lookup key entries
  defaultValue :
    Dictionary.lookup "defaultValue" written = Dictionary.lookup "defaultValue" entries
  known : ∀ key ∈ Attributes.keys, key ≠ "defaultValue" →
    (Dictionary.lookup key written = none ↔ Absent key entries)

theorem missing_iff_absent_of_nested {key : String} {o : Option (List Declaration)}
    {written : Dictionary Json} (h : optionalEntry (asListOf read?) key entries = some o)
    (hlookup : Dictionary.lookup key written = toJsonOptional o) :
    Dictionary.lookup key written = none ↔ Absent key entries := by
  rw [toJsonOptional_eq] at hlookup
  exact lookup_eq_none_iff_absent h hlookup

theorem kept_written (h : read? (.object entries) = some d) : Kept entries d.written := by
  obtain ⟨_, heq, hattributes, hitems, hchildren⟩ := read?_eq_some_iff.mp h
  cases heq
  have hdefault : Dictionary.lookup "defaultValue" d.written = d.attributes.defaultValue :=
    (readFrom_written hattributes).defaultValue
  refine ⟨?_, hdefault.trans hattributes.defaultValue.symm, ?_⟩
  · intro key hkey
    have hextra := Attributes.lookup_filter_keys key d.written
    rw [filter_written hattributes, ← hattributes.extra, Attributes.lookup_filter_keys,
      if_neg hkey, if_neg hkey] at hextra
    exact hextra.symm
  · intro key hkey hne
    rw [← d.keys_entries.mem_iff] at hkey
    obtain ⟨entry, hmem, rfl⟩ := List.mem_map.mp hkey
    rw [Declaration.entries, List.mem_append] at hmem
    rcases hmem with hmem | hmem
    · refine hattributes.missing_iff_absent ?_ entry hmem hne
      intro entry hmem
      exact lookup_written hattributes entry (List.mem_append_left _ hmem)
    · simp only [List.mem_cons, List.not_mem_nil, or_false] at hmem
      rcases hmem with rfl | rfl
      · exact missing_iff_absent_of_nested hitems (lookup_itemFields_written hattributes)
      · exact missing_iff_absent_of_nested hchildren (lookup_children_written hattributes)

end Declaration

/-! ### Documents -/

namespace Document

variable {source : Json} {document : Document}

/-- The root elements of a configuration in any of its forms. -/
def rootElements : Json → List Json
  | .array (.array items :: _) => items
  | .array items => items
  | v => v.itemsUnder "elements"

/-- The element at an address. -/
def elementAt (address : Address) (v : Json) : Option Json :=
  (rootElements v)[address.root]?.bind (Declaration.elementBelow address.steps)

theorem rootElements_of_read {items : List Json} {ds : List Declaration}
    (h : items.map Declaration.read? = ds.map some) : rootElements (.array items) = items := by
  cases items with
  | nil => rfl
  | cons item items =>
      cases item with
      | array inner => cases ds <;> simp [Declaration.read?] at h
      | null | bool | number | text | object => rfl

theorem rootElements_of_record {entries : Dictionary Json} {items : List Json}
    (hentries : source.recordEntries ["elements", "options"] = some entries)
    (hlookup : Dictionary.lookup "elements" entries = some (.array items)) :
    rootElements source = items := by
  cases source with
  | object entries' =>
      cases hentries
      exact itemsUnder_of_lookup hlookup
  | array values =>
      -- The elements are the first value of a record that is written as a list.
      cases values with
      | nil =>
          cases hentries
          cases hlookup
      | cons value values =>
          simp only [recordEntries] at hentries
          split at hentries
          · cases hentries
            rw [List.zip_cons_cons, Dictionary.lookup_cons, if_pos rfl,
              Option.some.injEq] at hlookup
            subst hlookup
            rfl
          · cases hentries
  | null | bool | number | text => cases hentries

theorem readRecord?_eq_some_iff :
    readRecord? source = some document ↔
      ∃ entries items ds options, source.recordEntries ["elements", "options"] = some entries ∧
        Dictionary.lookup "elements" entries = some (.array items) ∧
        items.map Declaration.read? = ds.map some ∧
        entryOr {} Options.read? "options" entries = some options ∧
        record ds options = document := by
  simp only [readRecord?, Option.bind_eq_bind, Option.bind_eq_some_iff]
  constructor
  · rintro ⟨entries, hentries, h⟩
    split at h
    · rename_i items hlookup
      simp only [Option.bind_eq_some_iff, Option.pure_def, Option.some.injEq,
        Declaration.readAll_eq_some_iff] at h
      obtain ⟨ds, hds, options, hoptions, rfl⟩ := h
      exact ⟨entries, items, ds, options, hentries, hlookup, hds, hoptions, rfl⟩
    · cases h
  · rintro ⟨entries, items, ds, options, hentries, hlookup, hds, hoptions, rfl⟩
    refine ⟨entries, hentries, ?_⟩
    rw [hlookup]
    simp [Declaration.readAll_eq_some_iff.mpr hds, hoptions]

/-- A document is a bare list of declarations, or else a record. -/
theorem cases_of_read? (h : Document.read? source = some document) :
    (∃ items ds, source = .array items ∧ items.map Declaration.read? = ds.map some ∧
        document = .elements ds) ∨
      readRecord? source = some document := by
  unfold Document.read? at h
  split at h
  · rename_i items
    split at h
    · rename_i ds hds
      cases h
      exact Or.inl ⟨items, ds, rfl, Declaration.readAll_eq_some_iff.mp hds, rfl⟩
    · exact Or.inr h
  · exact Or.inr h

/-- The elements of a document stand at the root of where it was read. -/
theorem map_read?_rootElements (h : Document.read? source = some document) :
    (rootElements source).map Declaration.read? = document.declarations.map some := by
  rcases cases_of_read? h with ⟨items, ds, rfl, hds, rfl⟩ | hrecord
  · rw [rootElements_of_read hds, hds, declarations]
  · obtain ⟨entries, items, ds, options, hentries, hlookup, hds, -, rfl⟩ :=
      readRecord?_eq_some_iff.mp hrecord
    rw [rootElements_of_record hentries hlookup, hds, declarations]

/-- The elements of a document are written at its root, and are read again from there. -/
theorem map_read?_toJson (h : Document.read? source = some document) :
    (document.declarations.map Declaration.toJson).map Declaration.read? =
      document.declarations.map some := by
  rw [List.map_map]
  apply List.map_congr_left
  intro d hd
  have hmem : some d ∈ (rootElements source).map Declaration.read? :=
    map_read?_rootElements h ▸ List.mem_map_of_mem hd
  obtain ⟨item, -, hitem⟩ := List.mem_map.mp hmem
  exact Declaration.read?_toJson d item hitem

theorem lookup_record (ds : List Declaration) (options : Options) :
    ∃ entries, (record ds options).toJson = .object entries ∧
      Dictionary.lookup "elements" entries = some (.array (ds.map Declaration.toJson)) ∧
      Dictionary.lookup "options" entries = some options.toJson := by
  have hnodup : ([("elements", Json.array (Declaration.toJsonAll ds)),
      ("options", options.toJson)].map (·.1)).Nodup := by simp
  refine ⟨_, rfl, ?_, ?_⟩
  · rw [Dictionary.lookup_ofList_eq_some_iff hnodup, Declaration.toJsonAll_eq]
    simp
  · rw [Dictionary.lookup_ofList_eq_some_iff hnodup]
    simp

theorem rootElements_toJson (h : Document.read? source = some document) :
    rootElements document.toJson = document.declarations.map Declaration.toJson := by
  have hread := map_read?_toJson h
  cases document with
  | elements ds =>
      rw [toJson, Declaration.toJsonAll_eq]
      exact rootElements_of_read hread
  | record ds options =>
      obtain ⟨entries, hentries, helements, -⟩ := lookup_record ds options
      rw [hentries]
      exact rootElements_of_record rfl helements

/-- A document that was read is read again from what it is written as. -/
theorem read?_toJson (h : Document.read? source = some document) :
    Document.read? document.toJson = some document := by
  have hread := map_read?_toJson h
  cases document with
  | elements ds =>
      have hall : Declaration.readAll (ds.map Declaration.toJson) = some ds :=
        Declaration.readAll_eq_some_iff.mpr hread
      rw [toJson, Declaration.toJsonAll_eq]
      simp only [Document.read?, hall]
  | record ds options =>
      obtain ⟨entries, hentries, helements, hoptions⟩ := lookup_record ds options
      rw [hentries, Document.read?, readRecord?_eq_some_iff]
      · refine ⟨entries, _, ds, options, rfl, helements, hread, ?_, rfl⟩
        rw [entryOr_of_lookup hoptions, Options.read?_toJson]
      · exact nofun

/-- A configuration that was read is read as the same document where that one is written, so that
it is written the same again, and yields the same form or the same violations.  Every element of the
configuration is at the same place again, with all its entries under unknown keys, its default
value, and those of its other attributes that are not `null`. -/
theorem survives_rewriting (h : Document.read? source = some document) :
    Document.read? document.toJson = some document ∧
      (Document.read? document.toJson).map Document.toJson = some document.toJson ∧
      (∀ address v, elementAt address source = some v →
        ∃ entries written, v = .object entries ∧
          elementAt address document.toJson = some (.object written) ∧
          Declaration.Kept entries written) ∧
      ∀ operations catalog,
        Form.ofConfiguration operations catalog document.toJson =
          Form.ofConfiguration operations catalog source := by
  have hread := read?_toJson h
  refine ⟨hread, by rw [hread, Option.map_some], ?_, ?_⟩
  · intro address v hv
    rw [elementAt, Option.bind_eq_some_iff] at hv
    obtain ⟨root, hroot, hv⟩ := hv
    obtain ⟨d, hd, hwritten⟩ :=
      Declaration.exists_getElem?_toJson (map_read?_rootElements h) hroot
    obtain ⟨e, he, hbelow⟩ := Declaration.exists_elementBelow_toJson address.steps hd hv
    obtain ⟨entries, rfl, -⟩ := Declaration.read?_eq_some_iff.mp he
    refine ⟨entries, e.written, rfl, ?_, Declaration.kept_written he⟩
    rw [elementAt, rootElements_toJson h, hwritten, Option.bind_some, hbelow, e.toJson_eq]
  · intro operations catalog
    rw [Form.ofConfiguration, Form.ofConfiguration, hread, h]

end Document

/-! ### A configuration written as lists -/

namespace Memo

def note : Dictionary Json :=
  [("defaultValue", .null), ("hint", .text "short"), ("label", .null), ("name", .text "note"),
    ("type", .text "text"), ("validation", .array [.bool true])]

/-- A text in a container, where the document, the options and the constraints are written as lists
of their values. -/
def source : Json :=
  .array
    [.array [.object [("children", .array [.object note]), ("type", .text "container")]],
      .array [.object [("warn", .null)]]]

def document : Document :=
  .record
    [.element { kind := some "container" } none
      (some
        [.element
          { kind := some "text", name := some "note", defaultValue := some .null,
            constraints := some { required := true }, extra := [("hint", .text "short")] }
          none none])]
    { policy := .warn }

theorem read?_source : Document.read? source = some document := rfl

/-- The text keeps its default value `null` and an entry that nobody knows, and loses its label. -/
theorem exists_note_rewritten :
    ∃ written, Document.elementAt ⟨0, [.child 0]⟩ document.toJson = some (.object written) ∧
      Dictionary.lookup "hint" written = some (.text "short") ∧
      Dictionary.lookup "defaultValue" written = some .null ∧
      Dictionary.lookup "label" written = none := by
  obtain ⟨-, -, helements, -⟩ := Document.survives_rewriting read?_source
  obtain ⟨entries, written, hnote, hwritten, hkept⟩ :=
    helements ⟨0, [.child 0]⟩ (.object note) rfl
  cases hnote
  have hlabel : Absent "label" note := Or.inr rfl
  exact ⟨written, hwritten, hkept.unknown "hint" (by decide), hkept.defaultValue,
    (hkept.known "label" (by decide) (by decide)).mpr hlabel⟩

end Memo

end FormLogic
