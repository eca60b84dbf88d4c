import FormLogic.Proofs.Comparison
import FormLogic.Proofs.WrittenValues

/-!
# Integers in rules and among choices

Rules read integers as double-precision numbers before they compare them.  Integers are therefore
equal, and in order, exactly as what they are rounded to, which is what they are up to 53 binary
digits.  A choice accepts an integer that is rounded to the same as one of its options, and so it
accepts nothing but its options exactly if no other integer is rounded to the same as one of them.
-/

namespace FormLogic

/-- The integer is in the range in which numbers are kept as integers. -/
def Number.Kept (n : Int) : Prop := leastInteger ≤ n ∧ n ≤ largestInteger

/-- The integer as a JSON value. -/
def Json.ofInt (n : Int) : Json := .number (.integer n)

open Binary64 Number

theorem Number.Kept.log2_natAbs_le {n : Int} (h : Kept n) : n.natAbs.log2 ≤ 1023 := by
  have hbound : n.natAbs < 2 ^ 64 := by
    unfold Kept leastInteger largestInteger at h
    simp only [Nat.pow_eq] at h
    omega
  rcases Nat.eq_zero_or_pos n.natAbs with hzero | hpos
  · rw [hzero]
    decide
  · have hlog : n.natAbs.log2 < 64 := (Nat.log2_lt hpos.ne').mpr hbound
    omega

namespace Rule

variable {m n : Int}

/-- Integers are equal in rules exactly if they are rounded to the same. -/
theorem strictEq_ofInt_iff (hm : Kept m) (hn : Kept n) :
    strictEq (.ofInt m) (.ofInt n) = true ↔ roundInt m = roundInt n :=
  same_ofInt_iff hm.log2_natAbs_le hn.log2_natAbs_le

/-- Integers are ordered in rules as what they are rounded to. -/
theorem order?_ofInt (hm : Kept m) (hn : Kept n) :
    order? (.ofInt m) (.ofInt n) = some (compare (roundInt m) (roundInt n)) :=
  compare?_ofInt hm.log2_natAbs_le hn.log2_natAbs_le

/-- Two integers are compared in rules by their value. -/
structure ComparedByValue (m n : Int) : Prop where
  strictEq : strictEq (.ofInt m) (.ofInt n) = true ↔ m = n
  order : order? (.ofInt m) (.ofInt n) = some (compare m n)

/-- Two integers are compared by their value unless they differ and are rounded to the same. -/
theorem comparedByValue_iff (hm : Kept m) (hn : Kept n) :
    ComparedByValue m n ↔ (roundInt m = roundInt n → m = n) := by
  constructor
  · intro h heq
    rwa [← h.strictEq, strictEq_ofInt_iff hm hn]
  · intro h
    refine ⟨?_, ?_⟩
    · rw [strictEq_ofInt_iff hm hn]
      exact ⟨h, congrArg roundInt⟩
    · rw [order?_ofInt hm hn, compare_roundInt_eq_iff.mpr h]

/-- Rounding does not stand in the way of telling two integers apart: both keep their value, or one
of them lies where all integers do. -/
def Distinct (m n : Int) : Prop :=
  Precise m.natAbs ∧ Precise n.natAbs ∨ m.natAbs < 2 * binade ∨ n.natAbs < 2 * binade

theorem Distinct.eq_of_roundInt_eq (h : Distinct m n) (heq : roundInt m = roundInt n) : m = n := by
  rcases h with ⟨hm, hn⟩ | hm | hn
  · rwa [roundInt_eq_self hm, roundInt_eq_self hn] at heq
  · exact Binary64.eq_of_roundInt_eq hm heq
  · exact (Binary64.eq_of_roundInt_eq hn heq.symm).symm

end Rule

namespace Schema

open FormLogic.Path

/-! ### Choices among integers -/

/-- The field is a choice, of one value or of several, among the given integers. -/
inductive OffersIntegers (options : List Int) (multiple : Bool) : Field → Prop
  | choice (info : FieldInfo) (choices : List Choice)
      (hvalues : choices.map (·.value) = options.map .ofInt) :
      OffersIntegers options multiple (.single info (.choice choices multiple none))

/-- The integers that a value chooses, where it chooses one or several. -/
inductive Chooses : Bool → Json → List Int → Prop
  | one (n : Int) : Chooses false (.ofInt n) [n]
  | several (chosen : List Int) : Chooses true (.array (chosen.map .ofInt)) chosen

/-- The leaf of the field refuses the value as not one of the allowed ones. -/
def RefusesOption (f : Field) (v : Json) : Prop :=
  ∃ o, (leafOf f).objection? v = some o ∧ o.code = .invalidOption

variable {options chosen : List Int} {multiple : Bool} {f : Field} {v : Json} {n : Int}

/-- One of the options is rounded to the same as the integer. -/
def Matches (options : List Int) (n : Int) : Prop := ∃ o ∈ options, roundInt o = roundInt n

theorem isAllowed_ofInt_iff (hoptions : ∀ o ∈ options, Kept o) (hn : Kept n) :
    isAllowed (some (options.map .ofInt)) (.ofInt n) = true ↔ Matches options n := by
  rw [isAllowed, List.any_map, List.any_eq_true]
  apply exists_congr
  intro o
  apply and_congr_right
  intro ho
  exact Rule.strictEq_ofInt_iff (hoptions o ho) hn

/-- An objection that is made unless a condition holds is made exactly if it does not. -/
theorem exists_invalidOption_iff (c : Prop) [Decidable c] :
    (∃ o : Objection, (if c then none else some { code := .invalidOption }) = some o ∧
      o.code = .invalidOption) ↔ ¬ c := by
  by_cases h : c <;> simp [h]

/-- A choice of one integer refuses those that are rounded to the same as no option. -/
theorem objection_one_iff (r : Rules) (hoptions : ∀ o ∈ options, Kept o) (hn : Kept n) :
    (∃ o, (Base.choice (some (options.map .ofInt)) false).objection r (.ofInt n) = some o ∧
      o.code = .invalidOption) ↔ ¬ Matches options n := by
  show (∃ o, notAllowed _ _ = some o ∧ _) ↔ _
  unfold notAllowed
  rw [exists_invalidOption_iff, isAllowed_ofInt_iff hoptions hn]

/-- A choice of several integers refuses them if one is rounded to the same as no option. -/
theorem objection_several_iff (r : Rules) (hoptions : ∀ o ∈ options, Kept o)
    (hchosen : ∀ n ∈ chosen, Kept n) :
    (∃ o, (Base.choice (some (options.map .ofInt)) true).objection r (.array (chosen.map .ofInt)) =
      some o ∧ o.code = .invalidOption) ↔ ∃ n ∈ chosen, ¬ Matches options n := by
  cases chosen with
  | nil =>
      -- No choice at all is a missing value.
      simp only [List.not_mem_nil, false_and, exists_false, iff_false]
      rintro ⟨o, ho, hcode⟩
      rw [Rules.code_of_absent ho] at hcode
      cases hcode
  | cons first rest =>
      have hobjection : (Base.choice (some (options.map .ofInt)) true).objection r
          (.array ((first :: rest).map .ofInt)) =
            if ((first :: rest).map .ofInt).all (isAllowed (some (options.map .ofInt))) then none
            else some { code := .invalidOption } := rfl
      have hall : ((first :: rest).map .ofInt).all (isAllowed (some (options.map .ofInt))) = true ↔
          ∀ n ∈ first :: rest, Matches options n := by
        rw [List.all_map, List.all_eq_true]
        apply forall₂_congr
        intro n hn
        exact isAllowed_ofInt_iff hoptions (hchosen n hn)
      rw [hobjection, exists_invalidOption_iff, hall]
      simp only [not_forall, exists_prop]

/-- A choice among integers refuses a value exactly if it chooses an integer that is rounded to the
same as no option. -/
theorem refusesOption_iff (hf : OffersIntegers options multiple f)
    (hoptions : ∀ o ∈ options, Kept o) (hv : Chooses multiple v chosen)
    (hchosen : ∀ n ∈ chosen, Kept n) :
    RefusesOption f v ↔ ∃ n ∈ chosen, ¬ Matches options n := by
  cases hf with
  | choice info choices hvalues =>
      unfold RefusesOption
      simp only [leafOf, Leaf.objection?, baseOf, hvalues]
      cases hv with
      | one n =>
          have hn : Kept n := hchosen n (List.mem_singleton_self n)
          simpa using objection_one_iff _ hoptions hn
      | several => exact objection_several_iff _ hoptions hchosen

/-- A refused option is found wherever the leaf of the field is checked. -/
theorem exists_mem_check_iff_refusesOption (hf : OffersIntegers options multiple f)
    (operations : Rule.Operations) (scope : Json) (path : String) (v : Json) :
    (∃ x ∈ (leafOf f).check operations scope path (some v), x.objection.code = .invalidOption) ↔
      RefusesOption f v := by
  cases hf with
  | choice info choices hvalues =>
      simp only [mem_check_leafOf_iff, Json.orNull]
      constructor
      · rintro ⟨x, ⟨o, ho, rfl⟩ | ⟨-, _, _, _, _, hrepeating, -⟩, hcode⟩
        · exact ⟨o, ho, hcode⟩
        · cases hrepeating
      · rintro ⟨o, ho, hcode⟩
        exact ⟨_, Or.inl ⟨o, ho, rfl⟩, hcode⟩

/-- A choice of integers that the leaf of the field does not refuse is one of its options. -/
def AcceptsOnly (options : List Int) (multiple : Bool) (f : Field) : Prop :=
  ∀ v chosen, Chooses multiple v chosen → (∀ n ∈ chosen, Kept n) → ¬ RefusesOption f v →
    ∀ n ∈ chosen, n ∈ options

/-- A choice among integers accepts nothing but its options exactly if no other integer is rounded
to the same as one of them. -/
theorem acceptsOnly_iff (hf : OffersIntegers options multiple f)
    (hoptions : ∀ o ∈ options, Kept o) :
    AcceptsOnly options multiple f ↔ ∀ n, Kept n → Matches options n → n ∈ options := by
  constructor
  · intro h n hn hmatches
    obtain ⟨v, hv⟩ : ∃ v, Chooses multiple v [n] := by
      cases multiple with
      | false => exact ⟨_, .one n⟩
      | true => exact ⟨_, .several [n]⟩
    have hkept : ∀ k ∈ [n], Kept k := by simpa using hn
    apply h v [n] hv hkept _ n (List.mem_singleton_self n)
    rw [refusesOption_iff hf hoptions hv hkept]
    simpa using hmatches
  · intro h v chosen hv hkept haccepted n hn
    rw [refusesOption_iff hf hoptions hv hkept] at haccepted
    by_contra hoption
    exact haccepted ⟨n, hn, fun hmatches => hoption (h n (hkept n hn) hmatches)⟩

/-- Options in the range where all integers keep their value are matched by themselves alone. -/
theorem mem_of_matches (hoptions : ∀ o ∈ options, o.natAbs < 2 * binade)
    (h : Matches options n) : n ∈ options := by
  obtain ⟨o, ho, hround⟩ := h
  rwa [← eq_of_roundInt_eq (hoptions o ho) hround]

end Schema

namespace Form

open Schema FormLogic.Path

/-- Integers are compared as what they are rounded to: the nearest integer of at most 53 binary
digits with zeroes after them.  So two of them are compared by their value unless they differ and
are rounded to the same, which they are not if both keep their value or one of them lies where all
integers do.  A choice among integers refuses those that are rounded to the same as no option,
wherever its leaf is checked, and in the errors of an accepted form where names with an empty part
make no difference.  It accepts nothing but its options exactly if no other integer is rounded to
the same as one of them, as none is if they all lie where all integers keep their value. -/
theorem integers_compare_as_rounded {m n : Int} (hm : Kept m) (hn : Kept n) {options : List Int}
    {multiple : Bool} {f : Field} (hf : OffersIntegers options multiple f)
    (hoptions : ∀ o ∈ options, Kept o) :
    (Precise (roundInt m).natAbs ∧
        ∀ k : Int, Precise k.natAbs → (m - roundInt m).natAbs ≤ (m - k).natAbs) ∧
      ((Rule.strictEq (.ofInt m) (.ofInt n) = true ↔ roundInt m = roundInt n) ∧
        Rule.order? (.ofInt m) (.ofInt n) = some (compare (roundInt m) (roundInt n))) ∧
      (Rule.ComparedByValue m n ↔ (roundInt m = roundInt n → m = n)) ∧
      (Rule.Distinct m n → Rule.ComparedByValue m n) ∧
      (∀ v chosen, Chooses multiple v chosen → (∀ k ∈ chosen, Kept k) →
        (RefusesOption f v ↔ ∃ k ∈ chosen, ∀ o ∈ options, roundInt o ≠ roundInt k)) ∧
      (∀ v operations scope path,
        (∃ x ∈ (leafOf f).check operations scope path (some v),
          x.objection.code = .invalidOption) ↔ RefusesOption f v) ∧
      (∀ (form : Form) (data v : Json), form.tree.Accepted → Unaffected form.fields →
        f ∈ form.fields → valueAt (parts f.name) (some data) = some v →
          ((∃ e, Dictionary.lookup f.name (form.errors data) = some e ∧
            e.code = Code.invalidOption.name) ↔ RefusesOption f v)) ∧
      (AcceptsOnly options multiple f ↔
        ∀ k, Kept k → (∃ o ∈ options, roundInt o = roundInt k) → k ∈ options) ∧
      ((∀ o ∈ options, o.natAbs < 2 * binade) → AcceptsOnly options multiple f) := by
  have hcompared := Rule.comparedByValue_iff hm hn
  have haccepts := acceptsOnly_iff hf hoptions
  refine ⟨⟨precise_roundInt m, fun k hk => roundInt_nearest m hk⟩,
    ⟨Rule.strictEq_ofInt_iff hm hn, Rule.order?_ofInt hm hn⟩, hcompared, ?_, ?_, ?_, ?_, haccepts,
    ?_⟩
  · intro hdistinct
    exact hcompared.mpr hdistinct.eq_of_roundInt_eq
  · intro v chosen hv hchosen
    rw [refusesOption_iff hf hoptions hv hchosen]
    simp [Matches]
  · intro v operations scope path
    exact exists_mem_check_iff_refusesOption hf operations scope path v
  · intro form data v haccepted h hmem hvalue
    exact exists_code_at_name_iff haccepted h hmem hvalue (by decide)
  · intro hrange
    exact haccepts.mpr fun k _ => mem_of_matches hrange

end Form

/-! ### Neighbouring serial numbers -/

namespace Serials

open Schema

/-- The least positive integer of which a neighbour does not keep its value. -/
def serial : Int := 9007199254740992

def neighbour : Int := 9007199254740993

def data : Json := .object [("serial", .ofInt neighbour)]

/-- A choice of one serial number. -/
def declarations : List Declaration :=
  [.element
    { kind := some "select", name := some "serial", choices := some [⟨.ofInt serial, ""⟩] }
    none none]

def field : Field :=
  .single
    { kind := "select", name := "serial", label := none, defaultValue := none, constraints := none,
      visible := none, dependsOn := none, resetsWithParent := true, metadata := none, extra := [] }
    (.choice [⟨.ofInt serial, ""⟩] false none)

def form : Form where
  tree := ⟨[.field field]⟩
  options := {}
  operations := Rule.defaultOperations

theorem accepted_form : form.tree.Accepted := ⟨none, declarations, rfl⟩

theorem unaffected_form : Unaffected form.fields := by
  apply Form.unaffected_of_plain accepted_form
  intro f hf
  obtain rfl : f = field := List.mem_singleton.mp hf
  unfold Path.Plain
  decide +kernel

theorem kept_serial : Kept serial := ⟨by decide, by decide⟩

theorem kept_neighbour : Kept neighbour := ⟨by decide, by decide⟩

theorem roundInt_neighbour : roundInt serial = roundInt neighbour := by decide +kernel

theorem offers_serial : OffersIntegers [serial] false field := .choice _ _ rfl

/-- Two integers are not compared by their value, and one of them is accepted where the other one is
the only option. -/
theorem not_compared_by_value :
    ¬ Rule.ComparedByValue serial neighbour ∧ ¬ AcceptsOnly [serial] false field ∧
      ¬ ∃ e, Dictionary.lookup field.name (form.errors data) = some e ∧
        e.code = Code.invalidOption.name := by
  obtain ⟨-, -, hcompared, -, hrefuses, -, hform, haccepts, -⟩ :=
    Form.integers_compare_as_rounded kept_serial kept_neighbour offers_serial
      (by simpa using kept_serial)
  have hne : serial ≠ neighbour := by decide
  refine ⟨?_, ?_, ?_⟩
  · intro h
    exact hne (hcompared.mp h roundInt_neighbour)
  · intro h
    have hmatches : ∃ o ∈ [serial], roundInt o = roundInt neighbour :=
      ⟨serial, List.mem_singleton_self serial, roundInt_neighbour⟩
    exact hne (List.mem_singleton.mp (haccepts.mp h neighbour kept_neighbour hmatches)).symm
  · rw [hform form data (.ofInt neighbour) accepted_form unaffected_form
        (List.mem_singleton_self field) rfl,
      hrefuses (.ofInt neighbour) [neighbour] (.one neighbour) (by simpa using kept_neighbour)]
    simp [roundInt_neighbour]

end Serials

end FormLogic
