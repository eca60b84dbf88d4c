import FormLogic.Proofs.Schema.Comparison
import FormLogic.Proofs.Schema.FirstFindings

/-!
# Forms that ask for less

A configuration is relaxed where a value need no longer be given, bounds are widened or dropped,
patterns and conditions are dropped, and choices are added or left to a provider.  Whatever data a
form takes, it takes after any number of these changes.
-/

namespace FormLogic

/-! ### Configurations that are relaxed -/

/-- A least number is lowered or dropped. -/
def Lowered (lo lo' : Option Nat) : Prop := ∀ n' ∈ lo', ∃ n ∈ lo, n' ≤ n

/-- A greatest number is raised or dropped. -/
def Raised (hi hi' : Option Nat) : Prop := ∀ n' ∈ hi', ∃ n ∈ hi, n ≤ n'

/-- Each constraint stays as it is, is widened or is dropped. -/
structure Constraints.RelaxedTo (c c' : Constraints) : Prop where
  required : c'.required = true → c.required = true
  minLength : Lowered c.minLength c'.minLength
  maxLength : Raised c.maxLength c'.maxLength
  pattern : ∀ p ∈ c'.pattern, c.pattern = some p
  condition : ∀ rule ∈ c'.condition, c.condition = some rule

/-- Attributes of the same element, with relaxed constraints and bounds.  If it offers choices, then
either a provider supplies them from now on, or their values are all kept and others may join. -/
structure Attributes.RelaxedTo (a a' : Attributes) : Prop where
  akin : a.Akin a'
  constraints : (a.constraints.getD {}).RelaxedTo (a'.constraints.getD {})
  minItems : Lowered a.minItems a'.minItems
  maxItems : Raised a.maxItems a'.maxItems
  choices : a'.choicesProvider = none →
    ∀ c ∈ a.choices.getD [], ∃ c' ∈ a'.choices.getD [], c'.value = c.value
  provider : a.choicesProvider.isSome → a'.choicesProvider.isSome

namespace Schema

variable {v : Json}

/-! ### Rules that are relaxed -/

/-- A bound that is dropped, or related to the first one so that it is broken by less, is kept where
the first one is. -/
theorem filter_eq_none_of_imp {bound bound' : Option Nat} {related : Nat → Nat → Prop}
    {p : Nat → Bool} (h : ∀ n' ∈ bound', ∃ n ∈ bound, related n n')
    (himp : ∀ n n', related n n' → p n' = true → p n = true)
    (hnone : bound.filter p = none) : bound'.filter p = none := by
  rw [Option.filter_eq_none_iff] at hnone ⊢
  intro n' hn' hbroken
  obtain ⟨n, hn, hrelated⟩ := h n' hn'
  exact hnone n hn (himp n n' hrelated hbroken)

theorem filter_eq_none_of_lowered {lo lo' : Option Nat} (h : Lowered lo lo') {count : Nat}
    (hnone : lo.filter (count < ·) = none) : lo'.filter (count < ·) = none := by
  refine filter_eq_none_of_imp h ?_ hnone
  intro n n' hle hbroken
  exact decide_eq_true (Nat.lt_of_lt_of_le (of_decide_eq_true hbroken) hle)

theorem filter_eq_none_of_raised {hi hi' : Option Nat} (h : Raised hi hi') {count : Nat}
    (hnone : hi.filter (· < count) = none) : hi'.filter (· < count) = none := by
  refine filter_eq_none_of_imp h ?_ hnone
  intro n n' hle hbroken
  exact decide_eq_true (Nat.lt_of_le_of_lt hle (of_decide_eq_true hbroken))

/-- The rules ask for less. -/
structure Rules.RelaxedTo (r r' : Rules) : Prop where
  required : r'.required = true → r.required = true
  minLength : Lowered r.minLength r'.minLength
  maxLength : Raised r.maxLength r'.maxLength
  pattern : ∀ p ∈ r'.pattern, r.pattern = some p

namespace Rules.RelaxedTo

variable {r r' : Rules} (h : r.RelaxedTo r')

include h

theorem absent_eq_none (hnone : r.absent = none) : r'.absent = none := by
  have hoptional : r'.required = false := by
    rw [← Bool.not_eq_true]
    intro hrequired
    rw [absent, if_pos (h.required hrequired)] at hnone
    cases hnone
  rw [absent, hoptional]
  rfl

theorem text_eq_none {s : String} (hnone : r.text s = none) : r'.text s = none := by
  rw [text] at hnone ⊢
  cases hlo : r.minLength.filter (s.length < ·) with
  | some lo => simp [hlo] at hnone
  | none =>
      cases hhi : r.maxLength.filter (· < s.length) with
      | some hi => simp [hlo, hhi] at hnone
      | none =>
          -- Within both bounds only a pattern is left to object.
          rw [hlo, hhi] at hnone
          rw [filter_eq_none_of_lowered h.minLength hlo, filter_eq_none_of_raised h.maxLength hhi]
          cases hpattern : r'.pattern with
          | none => rfl
          | some p =>
              rw [h.pattern p hpattern] at hnone
              exact hnone

theorem count_eq_none {lo lo' hi hi' : Option Nat} (hlo : Lowered lo lo') (hhi : Raised hi hi')
    {n : Nat} (hnone : r.count lo hi n = none) : r'.count lo' hi' n = none := by
  rw [count] at hnone ⊢
  by_cases hempty : (n = 0 && r.required) = true
  · rw [if_pos hempty] at hnone
    cases hnone
  · have hempty' : ¬ (n = 0 && r'.required) = true := by
      intro hboth
      rw [Bool.and_eq_true] at hboth
      exact hempty (Bool.and_eq_true _ _ ▸ ⟨hboth.1, h.required hboth.2⟩)
    rw [if_neg hempty] at hnone
    rw [if_neg hempty']
    cases hleast : lo.filter (n < ·) with
    | some bound => simp [hleast] at hnone
    | none =>
        cases hgreatest : hi.filter (· < n) with
        | some bound => simp [hleast, hgreatest] at hnone
        | none =>
            rw [filter_eq_none_of_lowered hlo hleast, filter_eq_none_of_raised hhi hgreatest]

end Rules.RelaxedTo

/-- A value that is taken is taken under relaxed rules. -/
theorem Rules.RelaxedTo.objection_eq_none {r r' : Rules} (h : r.RelaxedTo r') {base : Base}
    (hnone : base.objection r v = none) : base.objection r' v = none := by
  rcases base.cases_of_value v with habsent | ⟨s, htext⟩ | ⟨refusal, hrefusal, -⟩
  · rw [habsent] at hnone ⊢
    exact h.absent_eq_none hnone
  · rw [htext] at hnone ⊢
    exact h.text_eq_none hnone
  · rw [hrefusal] at hnone ⊢
    exact hnone

/-! ### Choices that are added -/

section

variable {allowed allowed' : Option (List Json)}
  (h : ∀ w, isAllowed allowed w = true → isAllowed allowed' w = true)

include h

theorem notAllowed_eq_none {w : Json} (hnone : notAllowed allowed w = none) :
    notAllowed allowed' w = none := by
  rw [notAllowed] at hnone ⊢
  by_cases hallowed : isAllowed allowed w = true
  · rw [if_pos (h w hallowed)]
  · rw [if_neg hallowed] at hnone
    cases hnone

/-- A choice that is taken is taken among more choices. -/
theorem objection_choice_eq_none {r : Rules} {multiple : Bool}
    (hnone : Base.objection r (.choice allowed multiple) v = none) :
    Base.objection r (.choice allowed' multiple) v = none := by
  cases multiple with
  | true =>
      cases v with
      | array items =>
          -- An empty selection is missing, whatever the choices are.
          cases items with
          | nil => exact hnone
          | cons item items =>
              rw [Base.objection] at hnone ⊢
              · by_cases hall : (item :: items).all (isAllowed allowed) = true
                · have hall' : (item :: items).all (isAllowed allowed') = true := by
                    rw [List.all_eq_true] at hall ⊢
                    intro w hw
                    exact h w (hall w hw)
                  rw [if_pos hall']
                · rw [if_neg hall] at hnone
                  cases hnone
              all_goals simp
      | _ => exact hnone
  | false =>
      cases v with
      | text s =>
          rw [Base.objection] at hnone ⊢
          by_cases hs : s = ""
          · rw [if_pos hs] at hnone ⊢
            exact hnone
          · rw [if_neg hs] at hnone ⊢
            exact notAllowed_eq_none h hnone
      | bool b => exact notAllowed_eq_none h hnone
      | number n => exact notAllowed_eq_none h hnone
      | _ => exact hnone

end

end Schema

/-! ### Fields that are relaxed -/

namespace Attributes.RelaxedTo

open Schema

variable {a a' : Attributes} (h : a.RelaxedTo a')

include h

/-- Every value that is offered is still offered. -/
theorem exists_choices (kind : ValueKind) : ∃ allowed allowed' multiple,
    baseOf kind a.choiceShape = .choice allowed multiple ∧
      baseOf kind a'.choiceShape = .choice allowed' multiple ∧
        ∀ w, isAllowed allowed w = true → isAllowed allowed' w = true := by
  have hmultiple : a.multiple = a'.multiple := by
    simpa using congrArg Attributes.multiple h.akin.rest
  rw [choiceShape, choiceShape, hmultiple, h.akin.trimmedKind_eq]
  cases hprovider' : a'.choicesProvider with
  | some provider' =>
      -- A provider may supply any value.
      cases a.choicesProvider with
      | some provider => exact ⟨none, none, _, rfl, rfl, fun _ _ => rfl⟩
      | none => exact ⟨_, none, _, rfl, rfl, fun _ _ => rfl⟩
  | none =>
      have hprovider : a.choicesProvider = none := by
        rw [← Option.not_isSome_iff_eq_none]
        intro hsome
        have hsome' := h.provider hsome
        rw [hprovider'] at hsome'
        cases hsome'
      rw [hprovider]
      refine ⟨_, _, _, rfl, rfl, ?_⟩
      intro w hw
      rw [isAllowed, List.any_eq_true] at hw ⊢
      obtain ⟨option, hoption, hequal⟩ := hw
      obtain ⟨c, hc, rfl⟩ := List.mem_map.mp hoption
      obtain ⟨c', hc', hvalue⟩ := h.choices hprovider' c hc
      exact ⟨c'.value, List.mem_map_of_mem hc', hvalue ▸ hequal⟩

end Attributes.RelaxedTo

namespace Field.Corresponds

open Schema

variable {f f' : Field} (h : Corresponds Attributes.RelaxedTo f f')

include h

theorem constraints_relaxed : f.constraints.RelaxedTo f'.constraints := by
  obtain ⟨a, a', ha, hinfo, hinfo'⟩ := h.exists_info
  rw [Field.constraints, Field.constraints, hinfo, hinfo']
  exact ha.constraints

theorem rulesOf_relaxed : (rulesOf f).RelaxedTo (rulesOf f') := by
  have hconstraints := h.constraints_relaxed
  refine ⟨hconstraints.required, hconstraints.minLength, hconstraints.maxLength, ?_⟩
  intro p hp
  obtain ⟨source, hsource, hread⟩ := Option.bind_eq_some_iff.mp hp
  have hkept : f.constraints.pattern = some source := hconstraints.pattern source hsource
  exact Option.bind_eq_some_iff.mpr ⟨source, hkept, hread⟩

/-- The leaf takes all values that it took before. -/
theorem objection?_eq_none {v : Json} (hnone : (leafOf f).objection? v = none) :
    (leafOf f').objection? v = none := by
  have hrules := h.rulesOf_relaxed
  cases h with
  | delegate ha =>
      rw [leafOf, Leaf.objection?] at hnone ⊢
      exact hrules.objection_eq_none hnone
  | repeating ha _ =>
      rw [leafOf, Leaf.objection?] at hnone ⊢
      cases hitems : itemsOf v with
      | none =>
          rw [hitems] at hnone
          cases hnone
      | some items =>
          simp only [hitems] at hnone ⊢
          exact hrules.count_eq_none ha.minItems ha.maxItems hnone
  | @choice a a' ha =>
      have hkind : a.fieldInfo.kind = a'.fieldInfo.kind := ha.akin.trimmedKind_eq
      obtain ⟨allowed, allowed', multiple, hbase, hbase', hallowed⟩ :=
        ha.exists_choices (.ofType a'.fieldInfo.kind)
      rw [leafOf, Leaf.objection?] at hnone ⊢
      rw [hkind, hbase] at hnone
      rw [hbase']
      exact hrules.objection_eq_none (objection_choice_eq_none hallowed hnone)
  | @generic a a' ha =>
      have hkind : a.fieldInfo.kind = a'.fieldInfo.kind := ha.akin.trimmedKind_eq
      rw [leafOf, Leaf.objection?] at hnone ⊢
      rw [hkind] at hnone
      exact hrules.objection_eq_none hnone

end Field.Corresponds

namespace Schema

/-- Nothing is found where nothing was found. -/
def StaysClean (xs xs' : List Finding) : Prop := xs = [] → xs' = []

theorem comparison_staysClean : Comparison StaysClean where
  nil := id
  append := by
    intro xs xs' ys ys' hxs hys hnone
    rw [List.append_eq_nil_iff] at hnone ⊢
    exact ⟨hxs hnone.1, hys hnone.2⟩
  single := by
    intro x x' _ _ hnone
    cases hnone

/-- Nothing is found at the condition of a field that holds, if it has one. -/
theorem checkConditions_eq_nil_iff {operations : Rule.Operations} {scope : Json} {parent : String}
    {f : Field} :
    checkConditions operations scope parent (conditionOf f).toList = [] ↔
      ∀ rule ∈ f.constraints.condition, Rule.holds operations scope rule = true := by
  rw [conditionOf]
  cases f.constraints.condition with
  | none => simp [checkConditions]
  | some rule =>
      cases hholds : Rule.holds operations scope rule <;> simp [checkConditions, hholds]

end Schema

open Schema in
theorem Field.Corresponds.fieldsCompare_of_relaxed {f f' : Field}
    (h : Corresponds Attributes.RelaxedTo f f') (operations : Rule.Operations) :
    FieldsCompare StaysClean operations f f' where
  name := h.name_eq fun _ _ ha => ha.akin
  accepts := fun _ hnone => h.objection?_eq_none hnone
  refuses := by
    intro o scope path value _ hnone
    cases hnone
  conditions := by
    intro scope parent hnone
    rw [checkConditions_eq_nil_iff] at hnone ⊢
    intro rule hrule
    exact hnone rule (h.constraints_relaxed.condition rule hrule)

namespace Form

/-- Data that are valid in a form are valid in every form whose configuration is the same but for
constraints, bounds and choices that are relaxed, at any depth. -/
theorem isValid_of_relaxed {operations : Rule.Operations}
    {catalog catalog' : Option (List String)} {source source' : Json}
    {document document' : Document} {form form' : Form}
    (hform : ofConfiguration operations catalog source = .ok form)
    (hform' : ofConfiguration operations catalog' source' = .ok form')
    (hread : Document.read? source = some document)
    (hread' : Document.read? source' = some document')
    (h : List.Forall₂ (Declaration.Corresponds Attributes.RelaxedTo) document.declarations
      document'.declarations)
    {data : Json} (hvalid : form.isValid data = true) : form'.isValid data = true := by
  obtain ⟨hbuild, -, hoperations⟩ := build_of_ofConfiguration hform hread
  obtain ⟨hbuild', -, hoperations'⟩ := build_of_ofConfiguration hform' hread'
  have htrees := Tree.corresponds_of_build (fun _ _ ha => ha.akin) h hbuild hbuild'
  rw [isValid_iff, hoperations] at hvalid
  rw [isValid_iff, hoperations']
  exact Schema.comparison_staysClean.check_of_corresponds
    (fun _ _ hf => hf.fieldsCompare_of_relaxed operations) htrees.fields data hvalid

end Form

/-! ### Orders from a menu -/

namespace Orders

/-- At least one order, of the one dish that there is. -/
def strict : Json :=
  .array
    [.object
      [("itemFields",
        .array
          [.object
            [("name", .text "dish"), ("options", .array [.object [("value", .text "soup")]]),
              ("type", .text "select"), ("validation", .object [("required", .bool true)])]]),
        ("minItems", .number (.integer 1)), ("name", .text "orders"), ("type", .text "array")]]

/-- Any number of orders, with another dish or none at all. -/
def relaxed : Json :=
  .array
    [.object
      [("itemFields",
        .array
          [.object
            [("name", .text "dish"),
              ("options",
                .array [.object [("value", .text "salad")], .object [("value", .text "soup")]]),
              ("type", .text "select")]]),
        ("name", .text "orders"), ("type", .text "array")]]

def strictDish : Attributes where
  kind := some "select"
  name := some "dish"
  constraints := some { required := true }
  choices := some [⟨.text "soup", ""⟩]

def relaxedDish : Attributes where
  kind := some "select"
  name := some "dish"
  choices := some [⟨.text "salad", ""⟩, ⟨.text "soup", ""⟩]

def strictDocument : Document :=
  .elements
    [.element { kind := some "array", name := some "orders", minItems := some 1 }
      (some [.element strictDish none none]) none]

def relaxedDocument : Document :=
  .elements
    [.element { kind := some "array", name := some "orders" }
      (some [.element relaxedDish none none]) none]

theorem read?_strict : Document.read? strict = some strictDocument := rfl

theorem read?_relaxed : Document.read? relaxed = some relaxedDocument := rfl

theorem relaxedTo_dish : strictDish.RelaxedTo relaxedDish where
  akin := ⟨rfl, by simp [Attributes.AsksForChoices, strictDish, relaxedDish]⟩
  constraints := by constructor <;> simp [Lowered, Raised, strictDish, relaxedDish]
  minItems := by simp [Lowered, relaxedDish]
  maxItems := by simp [Raised, relaxedDish]
  choices := by simp [strictDish, relaxedDish]
  provider := by simp [strictDish]

theorem relaxedTo_orders :
    ({ kind := some "array", name := some "orders", minItems := some 1 } : Attributes).RelaxedTo
      { kind := some "array", name := some "orders" } where
  akin := ⟨rfl, Iff.rfl⟩
  constraints := by constructor <;> simp [Lowered, Raised]
  minItems := by simp [Lowered]
  maxItems := by simp [Raised]
  choices := by simp
  provider := by simp

def data : Json := .object [("orders", .array [.object [("dish", .text "soup")]])]

/-- An order of soup is valid with the longer menu, too. -/
theorem isValid_relaxed : ∃ form', Form.ofConfiguration Rule.defaultOperations none relaxed =
    .ok form' ∧ form'.isValid data = true := by
  have hdocuments : List.Forall₂ (Declaration.Corresponds Attributes.RelaxedTo)
      strictDocument.declarations relaxedDocument.declarations :=
    .cons (.element relaxedTo_orders (.some (.cons (.element relaxedTo_dish .none .none) .nil))
      .none) .nil
  refine ⟨_, rfl, ?_⟩
  refine @Form.isValid_of_relaxed Rule.defaultOperations none none strict relaxed strictDocument
    relaxedDocument _ _ rfl rfl read?_strict read?_relaxed hdocuments data ?_
  decide +kernel

end Orders

end FormLogic
