import FormLogic.Proofs.Configuration.Records
import FormLogic.Proofs.Tree.Declared

/-!
# Declarations and options read again

Each part of a configuration that was read is read again from what it is written as.  A declaration
that is written keeps the entries under unknown keys and the default value as they were, and of its
other attributes those that are not `null`.
-/

namespace FormLogic

open Json

/-! ### Choices and constraints -/

theorem Choice.read?_toJson (c : Choice) : Choice.read? c.toJson = some c := by
  have hnodup : ([("value", c.value), ("label", Json.text c.label)].map (·.1)).Nodup := by simp
  have hvalue : Dictionary.lookup "value"
      (Dictionary.ofList [("value", c.value), ("label", .text c.label)]) = some c.value :=
    (Dictionary.lookup_ofList_eq_some_iff hnodup).mpr (by simp)
  have hlabel : Dictionary.lookup "label"
      (Dictionary.ofList [("value", c.value), ("label", .text c.label)]) = some (.text c.label) :=
    (Dictionary.lookup_ofList_eq_some_iff hnodup).mpr (by simp)
  simp [Choice.read?, Choice.toJson, ofEntries, recordEntries, hvalue, entryOr_of_lookup hlabel,
    asText]

theorem Choice.rereads :
    Rereads (asListOf Choice.read?) fun choices => .array (choices.map Choice.toJson) := by
  intro _ choices _ _
  exact ⟨nofun, asListOf_map choices fun c _ => c.read?_toJson⟩

namespace Constraints

/-- The constraints are read from the entries of a record. -/
structure ReadFrom (entries : Dictionary Json) (c : Constraints) : Prop where
  required : entryOr false asBool "required" entries = some c.required
  minLength : optionalEntry asNat "minLength" entries = some c.minLength
  maxLength : optionalEntry asNat "maxLength" entries = some c.maxLength
  pattern : optionalEntry asText "pattern" entries = some c.pattern
  message : optionalEntry asText "message" entries = some c.message
  condition : optionalEntry some "condition" entries = some c.condition

theorem read?_eq_some_iff {source : Json} {c : Constraints} :
    Constraints.read? source = some c ↔
      ∃ entries, source.recordEntries keys = some entries ∧ ReadFrom entries c := by
  obtain ⟨required, minLength, maxLength, pattern, message, condition⟩ := c
  simp only [Constraints.read?, Option.bind_eq_bind, Option.pure_def, Option.bind_eq_some_iff,
    Option.some.injEq, mk.injEq]
  constructor
  · rintro ⟨entries, hentries, _, h₁, _, h₂, _, h₃, _, h₄, _, h₅, _, h₆, rfl, rfl, rfl, rfl, rfl,
      rfl⟩
    exact ⟨entries, hentries, h₁, h₂, h₃, h₄, h₅, h₆⟩
  · rintro ⟨entries, hentries, h₁, h₂, h₃, h₄, h₅, h₆⟩
    exact ⟨entries, hentries, _, h₁, _, h₂, _, h₃, _, h₄, _, h₅, _, h₆, rfl, rfl, rfl, rfl, rfl,
      rfl⟩

/-- The attributes by key; those that are absent have no value. -/
def entries (c : Constraints) : List (String × Option Json) :=
  [("required", some (.bool c.required)), ("minLength", c.minLength.map .ofNat),
    ("maxLength", c.maxLength.map .ofNat), ("pattern", c.pattern.map .text),
    ("message", c.message.map .text), ("condition", c.condition)]

theorem toJson_eq (c : Constraints) : c.toJson = .object (withAttributes c.entries []) := rfl

theorem lookup_entries (c : Constraints) :
    ∀ entry ∈ c.entries,
      Dictionary.lookup entry.1 (withAttributes c.entries []) = entry.2 := by
  intro entry hmem
  have hnodup : (c.entries.map (·.1)).Nodup := by simp [entries]
  rw [lookup_withAttributes hnodup hmem, Dictionary.lookup_nil, Option.or_none]

theorem rereads : Rereads Constraints.read? Constraints.toJson := by
  intro source c _ hread
  obtain ⟨entries, -, h⟩ := read?_eq_some_iff.mp hread
  refine ⟨nofun, read?_eq_some_iff.mpr ⟨withAttributes c.entries [], rfl, ?_⟩⟩
  have hlookup := c.lookup_entries
  generalize withAttributes c.entries [] = written at hlookup ⊢
  simp only [Constraints.entries, List.forall_mem_cons] at hlookup
  obtain ⟨hrequired, hminLength, hmaxLength, hpattern, hmessage, hcondition, -⟩ := hlookup
  exact
    { required := entryOr_of_lookup hrequired
      minLength := rereads_nat.optionalEntry h.minLength hminLength
      maxLength := rereads_nat.optionalEntry h.maxLength hmaxLength
      pattern := rereads_text.optionalEntry h.pattern hpattern
      message := rereads_text.optionalEntry h.message hmessage
      condition := rereads_value.optionalEntry h.condition (by simpa using hcondition) }

end Constraints

/-! ### Options -/

theorem Options.read?_toJson (o : Options) : Options.read? o.toJson = some o := by
  obtain ⟨policy, messages⟩ := o
  let templates : Option Json :=
    if messages.isEmpty then none
    else some (.object (messages.map fun entry => (entry.1, .text entry.2)))
  let attributes : List (String × Option Json) :=
    [("invisibleFieldValidation", some (.text policy.name)), ("messages", templates)]
  have hnodup : (attributes.map (·.1)).Nodup := by simp [attributes]
  have hpolicy : Dictionary.lookup "invisibleFieldValidation" (withAttributes attributes []) =
      some (.text policy.name) :=
    lookup_withAttributes hnodup (List.mem_cons_self ..) []
  have htemplates : Dictionary.lookup "messages" (withAttributes attributes []) = templates := by
    rw [lookup_withAttributes hnodup (List.mem_cons_of_mem _ (List.mem_cons_self ..)) [],
      Dictionary.lookup_nil, Option.or_none]
  have hread : entryOr [] asTexts "messages" (withAttributes attributes []) = some messages := by
    -- No entry stands for no templates.
    cases messages with
    | nil => rw [entryOr, htemplates]; rfl
    | cons entry messages => rw [entryOr_of_lookup htemplates, asTexts_map]
  have hwritten : Options.toJson ⟨policy, messages⟩ = .object (withAttributes attributes []) := rfl
  rw [hwritten, Options.read?, recordEntries, Option.bind_eq_bind, Option.bind_some,
    entryOr_of_lookup hpolicy, Policy.read?, Policy.ofName?_name, Option.bind_eq_bind,
    Option.bind_some, hread]
  rfl

/-! ### Attributes of declarations -/

namespace Attributes

/-- The attributes are read from the entries of a declaration. -/
structure ReadFrom (entries : Dictionary Json) (a : Attributes) : Prop where
  kind : optionalEntry asText "type" entries = some a.kind
  name : optionalEntry asText "name" entries = some a.name
  label : optionalEntry asText "label" entries = some a.label
  defaultValue : Dictionary.lookup "defaultValue" entries = a.defaultValue
  constraints : optionalEntry Constraints.read? "validation" entries = some a.constraints
  visible : optionalEntry some "visible" entries = some a.visible
  dependsOn : optionalEntry asText "dependsOn" entries = some a.dependsOn
  resetOnParentChange :
    optionalEntry asBool "resetOnParentChange" entries = some a.resetOnParentChange
  metadata : optionalEntry asEntries "meta" entries = some a.metadata
  choices : optionalEntry (asListOf Choice.read?) "options" entries = some a.choices
  choicesProvider : optionalEntry asText "optionsProvider" entries = some a.choicesProvider
  multiple : optionalEntry asBool "multiple" entries = some a.multiple
  minItems : optionalEntry asNat "minItems" entries = some a.minItems
  maxItems : optionalEntry asNat "maxItems" entries = some a.maxItems
  component : optionalEntry asText "component" entries = some a.component
  componentProps : optionalEntry asEntries "componentProps" entries = some a.componentProps
  variant : optionalEntry asText "variant" entries = some a.variant
  extra : (entries.filter fun entry => !keys.contains entry.1) = a.extra

variable {entries written : Dictionary Json} {a : Attributes}

theorem readFrom_of_read? (h : Attributes.read? entries = some a) : ReadFrom entries a := by
  unfold Attributes.read? at h
  obtain ⟨kind, hkind, h⟩ := Option.bind_eq_some_iff.mp h
  obtain ⟨name, hname, h⟩ := Option.bind_eq_some_iff.mp h
  obtain ⟨label, hlabel, h⟩ := Option.bind_eq_some_iff.mp h
  obtain ⟨constraints, hconstraints, h⟩ := Option.bind_eq_some_iff.mp h
  obtain ⟨visible, hvisible, h⟩ := Option.bind_eq_some_iff.mp h
  obtain ⟨dependsOn, hdependsOn, h⟩ := Option.bind_eq_some_iff.mp h
  obtain ⟨resetOnParentChange, hreset, h⟩ := Option.bind_eq_some_iff.mp h
  obtain ⟨metadata, hmetadata, h⟩ := Option.bind_eq_some_iff.mp h
  obtain ⟨choices, hchoices, h⟩ := Option.bind_eq_some_iff.mp h
  obtain ⟨choicesProvider, hprovider, h⟩ := Option.bind_eq_some_iff.mp h
  obtain ⟨multiple, hmultiple, h⟩ := Option.bind_eq_some_iff.mp h
  obtain ⟨minItems, hminItems, h⟩ := Option.bind_eq_some_iff.mp h
  obtain ⟨maxItems, hmaxItems, h⟩ := Option.bind_eq_some_iff.mp h
  obtain ⟨component, hcomponent, h⟩ := Option.bind_eq_some_iff.mp h
  obtain ⟨componentProps, hprops, h⟩ := Option.bind_eq_some_iff.mp h
  obtain ⟨variant, hvariant, h⟩ := Option.bind_eq_some_iff.mp h
  cases h
  exact ⟨hkind, hname, hlabel, rfl, hconstraints, hvisible, hdependsOn, hreset, hmetadata, hchoices,
    hprovider, hmultiple, hminItems, hmaxItems, hcomponent, hprops, hvariant, rfl⟩

theorem ReadFrom.read?_eq (h : ReadFrom entries a) : Attributes.read? entries = some a := by
  simp only [Attributes.read?, h.kind, h.name, h.label, h.defaultValue, h.constraints, h.visible,
    h.dependsOn, h.resetOnParentChange, h.metadata, h.choices, h.choicesProvider, h.multiple,
    h.minItems, h.maxItems, h.component, h.componentProps, h.variant, h.extra,
    Option.bind_eq_bind, Option.bind_some, Option.pure_def]

theorem read?_eq_some_iff : Attributes.read? entries = some a ↔ ReadFrom entries a :=
  ⟨readFrom_of_read?, ReadFrom.read?_eq⟩

/-- The entries under unknown keys are those that are kept. -/
theorem lookup_filter_keys (key : String) (d : Dictionary Json) :
    Dictionary.lookup key (d.filter fun entry => !keys.contains entry.1) =
      if key ∈ keys then none else Dictionary.lookup key d := by
  rw [Dictionary.lookup_filter fun key => !keys.contains key]
  by_cases hkey : key ∈ keys <;> simp [hkey]

/-- Attributes that were read are read again from where they are written. -/
theorem ReadFrom.rewritten (h : ReadFrom entries a)
    (hlookup : ∀ entry ∈ a.entries, Dictionary.lookup entry.1 written = entry.2)
    (hextra : (written.filter fun entry => !keys.contains entry.1) = a.extra) :
    ReadFrom written a := by
  simp only [Attributes.entries, List.forall_mem_cons] at hlookup
  obtain ⟨hkind, hname, hlabel, hdefault, hconstraints, hvisible, hdependsOn, hreset, hmetadata,
    hchoices, hprovider, hmultiple, hminItems, hmaxItems, hcomponent, hprops, hvariant, -⟩ :=
      hlookup
  exact
    { kind := rereads_text.optionalEntry h.kind hkind
      name := rereads_text.optionalEntry h.name hname
      label := rereads_text.optionalEntry h.label hlabel
      defaultValue := hdefault
      constraints := Constraints.rereads.optionalEntry h.constraints hconstraints
      visible := rereads_value.optionalEntry h.visible (by rw [hvisible, Option.map_id_apply])
      dependsOn := rereads_text.optionalEntry h.dependsOn hdependsOn
      resetOnParentChange := rereads_bool.optionalEntry h.resetOnParentChange hreset
      metadata := rereads_entries.optionalEntry h.metadata hmetadata
      choices := Choice.rereads.optionalEntry h.choices hchoices
      choicesProvider := rereads_text.optionalEntry h.choicesProvider hprovider
      multiple := rereads_bool.optionalEntry h.multiple hmultiple
      minItems := rereads_nat.optionalEntry h.minItems hminItems
      maxItems := rereads_nat.optionalEntry h.maxItems hmaxItems
      component := rereads_text.optionalEntry h.component hcomponent
      componentProps := rereads_entries.optionalEntry h.componentProps hprops
      variant := rereads_text.optionalEntry h.variant hvariant
      extra := hextra }

/-- Of the attributes that were read, those without a value are missing where they are written; only
a default value is there even if it is `null`. -/
theorem ReadFrom.missing_iff_absent (h : ReadFrom entries a)
    (hlookup : ∀ entry ∈ a.entries, Dictionary.lookup entry.1 written = entry.2) :
    ∀ entry ∈ a.entries, entry.1 ≠ "defaultValue" →
      (Dictionary.lookup entry.1 written = none ↔ Absent entry.1 entries) := by
  simp only [Attributes.entries, List.forall_mem_cons] at hlookup ⊢
  obtain ⟨hkind, hname, hlabel, -, hconstraints, hvisible, hdependsOn, hreset, hmetadata,
    hchoices, hprovider, hmultiple, hminItems, hmaxItems, hcomponent, hprops, hvariant, -⟩ :=
      hlookup
  refine ⟨fun _ => lookup_eq_none_iff_absent h.kind hkind,
    fun _ => lookup_eq_none_iff_absent h.name hname,
    fun _ => lookup_eq_none_iff_absent h.label hlabel,
    fun hne => absurd rfl hne,
    fun _ => lookup_eq_none_iff_absent h.constraints hconstraints,
    fun _ => ?_,
    fun _ => lookup_eq_none_iff_absent h.dependsOn hdependsOn,
    fun _ => lookup_eq_none_iff_absent h.resetOnParentChange hreset,
    fun _ => lookup_eq_none_iff_absent h.metadata hmetadata,
    fun _ => lookup_eq_none_iff_absent h.choices hchoices,
    fun _ => lookup_eq_none_iff_absent h.choicesProvider hprovider,
    fun _ => lookup_eq_none_iff_absent h.multiple hmultiple,
    fun _ => lookup_eq_none_iff_absent h.minItems hminItems,
    fun _ => lookup_eq_none_iff_absent h.maxItems hmaxItems,
    fun _ => lookup_eq_none_iff_absent h.component hcomponent,
    fun _ => lookup_eq_none_iff_absent h.componentProps hprops,
    fun _ => lookup_eq_none_iff_absent h.variant hvariant, nofun⟩
  have hwritten : Dictionary.lookup "visible" written = a.visible.map id := by
    rw [hvisible, Option.map_id_apply]
  exact lookup_eq_none_iff_absent h.visible hwritten

end Attributes

end FormLogic
