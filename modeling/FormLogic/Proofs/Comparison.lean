import FormLogic.Proofs.Binary64
import FormLogic.Proofs.Json.Normal
import FormLogic.Proofs.Logic

/-!
# Equality and order in rules

Rules compare values in three ways: strictly within kinds, loosely across kinds, and by order.  Both
equalities are symmetric, and strictly equal values are loosely equal.  Order is the same seen from
either side, it is defined for truth values, numbers and texts alone, and among these it counts as
equal just what is loosely equal.
-/

namespace FormLogic

namespace Json

/-- The value is a truth value, a number or a text. -/
def isScalar : Json → Bool
  | .bool _ | .number _ | .text _ => true
  | _ => false

/-- What is equal to a value that is no number is no number either. -/
theorem Equal.not_number {a b : Json} (h : Equal a b) (ha : ∀ m, a ≠ .number m) :
    ∀ n, b ≠ .number n := by
  rintro n rfl
  cases h with
  | integer k => exact ha _ rfl
  | real _ _ _ => exact ha _ rfl

end Json

namespace Rule

variable {a b c : Json}

/-! ### Numbers that values stand for -/

/-- Order of the numbers that two values stand for; there is none when one of them stands for none.
-/
def orderNumbers (a b : Json) : Option Ordering :=
  (numberOf a).bind fun x => (numberOf b).bind x.compare?

theorem sameNumber_comm (a b : Json) : sameNumber a b = sameNumber b a := by
  unfold sameNumber
  cases numberOf a <;> cases numberOf b <;> simp [Binary64.same_comm]

theorem orderNumbers_swap (a b : Json) :
    orderNumbers b a = (orderNumbers a b).map Ordering.swap := by
  unfold orderNumbers
  cases numberOf a with
  | none => cases numberOf b <;> rfl
  | some x =>
      cases numberOf b with
      | none => rfl
      | some y => exact x.compare?_swap y

theorem orderNumbers_eq_some_eq_iff : orderNumbers a b = some .eq ↔ sameNumber a b = true := by
  unfold orderNumbers sameNumber
  cases numberOf a <;> cases numberOf b <;> simp [Binary64.compare?_eq_some_eq_iff]

theorem sameNumber_self_of_bool (b : Bool) : sameNumber (.bool b) (.bool b) = true := by
  cases b <;> decide +kernel

/-! ### How two values are compared -/

/-- Two values are compared by the numbers that they stand for. -/
structure ComparedByNumber (a b : Json) : Prop where
  looseEq : looseEq a b = sameNumber a b
  order : order? a b = orderNumbers a b

/-- Two scalar values are compared as texts, or from either side by the numbers that they stand for.
-/
theorem cases_of_isScalar (ha : a.isScalar = true) (hb : b.isScalar = true) :
    (∃ s t, a = .text s ∧ b = .text t) ∨ ComparedByNumber a b ∧ ComparedByNumber b a := by
  cases a <;> cases ha <;> cases b <;> cases hb <;>
    first
    | exact Or.inl ⟨_, _, rfl, rfl⟩
    | exact Or.inr ⟨⟨rfl, rfl⟩, ⟨rfl, rfl⟩⟩

/-- Where one of two values is no scalar, they are equal only as JSON values, and not ordered. -/
theorem looseEq_of_not_isScalar (h : a.isScalar = false ∨ b.isScalar = false) :
    looseEq a b = Json.same a b := by
  rcases h with h | h
  · cases a <;> cases h <;> cases b <;> rfl
  · cases b <;> cases h <;> cases a <;> rfl

theorem order?_of_not_isScalar (h : a.isScalar = false ∨ b.isScalar = false) :
    order? a b = none := by
  rcases h with h | h
  · cases a <;> cases h <;> cases b <;> rfl
  · cases b <;> cases h <;> cases a <;> simp [order?, numberOf]

/-! ### Strict equality -/

theorem strictEq_number_iff {m : Number} :
    strictEq (.number m) b = true ↔ ∃ n, b = .number n ∧ m.toReal.same n.toReal = true := by
  cases b <;> simp [strictEq, Json.same]

theorem strictEq_of_not_number (h : ∀ m, a ≠ .number m) : strictEq a b = Json.same a b := by
  cases a with
  | number m => exact absurd rfl (h m)
  | _ => rfl

theorem isNotNumber_toReal {m : Number} (h : Json.Normal (.number m)) :
    m.toReal.isNotNumber = false := by
  cases h with
  | integer n => exact Binary64.isNotNumber_ofInt n
  | real hfinite => exact Binary64.isNotNumber_of_isFinite hfinite

theorem strictEq_self (h : a.Normal) : strictEq a a = true := by
  by_cases hnumber : ∃ m, a = .number m
  · obtain ⟨m, rfl⟩ := hnumber
    exact strictEq_number_iff.mpr ⟨m, rfl, Binary64.same_self (isNotNumber_toReal h)⟩
  · rw [not_exists] at hnumber
    rw [strictEq_of_not_number hnumber, Json.same_eq_true_iff]
    exact h.equal_self

theorem strictEq_symm (h : strictEq a b = true) : strictEq b a = true := by
  by_cases hnumber : ∃ m, a = .number m
  · obtain ⟨m, rfl⟩ := hnumber
    obtain ⟨n, rfl, hsame⟩ := strictEq_number_iff.mp h
    exact strictEq_number_iff.mpr ⟨m, rfl, Binary64.same_comm _ _ ▸ hsame⟩
  · rw [not_exists] at hnumber
    rw [strictEq_of_not_number hnumber, Json.same_eq_true_iff] at h
    rw [strictEq_of_not_number (h.not_number hnumber), Json.same_eq_true_iff]
    exact h.symm

theorem strictEq_trans (hab : strictEq a b = true) (hbc : strictEq b c = true) :
    strictEq a c = true := by
  by_cases hnumber : ∃ m, b = .number m
  · obtain ⟨m, rfl⟩ := hnumber
    obtain ⟨k, rfl, hmk⟩ := strictEq_number_iff.mp hbc
    obtain ⟨n, rfl, hmn⟩ := strictEq_number_iff.mp (strictEq_symm hab)
    exact Binary64.same_trans (Binary64.same_comm _ _ ▸ hmn) hmk
  · rw [not_exists] at hnumber
    have hba := strictEq_symm hab
    rw [strictEq_of_not_number hnumber, Json.same_eq_true_iff] at hba hbc
    rw [strictEq_of_not_number (hba.not_number hnumber), Json.same_eq_true_iff]
    exact hba.symm.trans hbc

/-! ### Loose equality -/

theorem looseEq_self (h : a.Normal) : looseEq a a = true := by
  cases a with
  | bool b => exact sameNumber_self_of_bool b
  | number m => exact Binary64.same_self (isNotNumber_toReal h)
  | text s => exact beq_self_eq_true s
  | _ =>
      rw [looseEq_of_not_isScalar (Or.inl rfl), Json.same_eq_true_iff]
      exact h.equal_self

theorem looseEq_comm (a b : Json) : looseEq a b = looseEq b a := by
  by_cases hscalar : a.isScalar = true ∧ b.isScalar = true
  · rcases cases_of_isScalar hscalar.1 hscalar.2 with ⟨s, t, rfl, rfl⟩ | ⟨hab, hba⟩
    · exact BEq.comm
    · rw [hab.looseEq, hba.looseEq, sameNumber_comm]
  · rw [not_and_or, Bool.not_eq_true, Bool.not_eq_true] at hscalar
    rw [looseEq_of_not_isScalar hscalar, looseEq_of_not_isScalar hscalar.symm, Json.same_comm]

theorem looseEq_of_strictEq (h : strictEq a b = true) : looseEq a b = true := by
  by_cases hnumber : ∃ m, a = .number m
  · obtain ⟨m, rfl⟩ := hnumber
    obtain ⟨n, rfl, hsame⟩ := strictEq_number_iff.mp h
    exact hsame
  · rw [not_exists] at hnumber
    rw [strictEq_of_not_number hnumber] at h
    -- Loose equality differs from that of JSON values for scalars alone.
    cases Json.same_eq_true_iff a b |>.mp h with
    | bool b => exact sameNumber_self_of_bool b
    | integer n => exact absurd rfl (hnumber _)
    | real _ _ _ => exact absurd rfl (hnumber _)
    | text s => exact beq_self_eq_true s
    | _ => rwa [looseEq_of_not_isScalar (Or.inl rfl)]

/-! ### Order -/

theorem order?_swap (a b : Json) : order? b a = (order? a b).map Ordering.swap := by
  by_cases hscalar : a.isScalar = true ∧ b.isScalar = true
  · rcases cases_of_isScalar hscalar.1 hscalar.2 with ⟨s, t, rfl, rfl⟩ | ⟨hab, hba⟩
    · exact congrArg some Std.OrientedOrd.eq_swap
    · rw [hab.order, hba.order, orderNumbers_swap]
  · rw [not_and_or, Bool.not_eq_true, Bool.not_eq_true] at hscalar
    rw [order?_of_not_isScalar hscalar, order?_of_not_isScalar hscalar.symm, Option.map_none]

theorem order?_eq_some_eq_iff (ha : a.isScalar = true) (hb : b.isScalar = true) :
    order? a b = some .eq ↔ looseEq a b = true := by
  rcases cases_of_isScalar ha hb with ⟨s, t, rfl, rfl⟩ | ⟨hab, -⟩
  · simp [order?, looseEq]
  · rw [hab.order, hab.looseEq, orderNumbers_eq_some_eq_iff]

/-- Values that are ordered are scalars. -/
theorem isScalar_of_order? {o : Ordering} (h : order? a b = some o) :
    a.isScalar = true ∧ b.isScalar = true := by
  by_contra hscalar
  rw [not_and_or, Bool.not_eq_true, Bool.not_eq_true] at hscalar
  rw [order?_of_not_isScalar hscalar] at h
  cases h

/-! ### Operators -/

namespace Operator

theorem chained_pair (accepted : Ordering → Bool) (a b : Json) :
    chained accepted [a, b] = ordered accepted a b := by
  simp [chained, operand, Json.orNull]

theorem chained_triple (accepted : Ordering → Bool) (a b c : Json) (rest : List Json) :
    chained accepted (a :: b :: c :: rest) = (ordered accepted a b && ordered accepted b c) := by
  have hlength : ¬ (a :: b :: c :: rest).length < 3 := by
    simp only [List.length_cons]
    omega
  rw [chained, decide_eq_false hlength]
  rfl

/-- What is less or equal is less, or it is loosely equal. -/
theorem ordered_isLE_iff (ha : a.isScalar = true) (hb : b.isScalar = true) :
    ordered Ordering.isLE a b = true ↔
      ordered Ordering.isLT a b = true ∨ looseEq a b = true := by
  rw [← order?_eq_some_eq_iff ha hb, ordered, ordered]
  cases order? a b with
  | none => simp
  | some o => cases o <;> simp

/-- What is ordered otherwise than as equal is not loosely equal. -/
theorem looseEq_eq_false_of_order? {o : Ordering} (h : order? a b = some o) (hne : o ≠ .eq) :
    looseEq a b = false := by
  obtain ⟨ha, hb⟩ := isScalar_of_order? h
  rw [Bool.eq_false_iff, Ne, ← order?_eq_some_eq_iff ha hb, h, Option.some.injEq]
  exact hne

/-- At most one of less, loosely equal and greater is the case. -/
theorem at_most_one (a b : Json) :
    ¬ (ordered Ordering.isLT a b = true ∧ looseEq a b = true) ∧
      ¬ (ordered Ordering.isLT a b = true ∧ ordered Ordering.isGT a b = true) ∧
      ¬ (looseEq a b = true ∧ ordered Ordering.isGT a b = true) := by
  rw [ordered, ordered]
  cases horder : order? a b with
  | none => simp
  | some o =>
      cases o with
      | eq => simp
      | lt => simp [looseEq_eq_false_of_order? horder]
      | gt => simp [looseEq_eq_false_of_order? horder]

end Operator

variable (operations : Operations) (data : Json)

/-- The operators that compare up to three operands in a row, and the orders that they accept. -/
def chains : List (String × (Ordering → Bool)) := [("<", Ordering.isLT), ("<=", Ordering.isLE)]

theorem less_mem_chains : ("<", Ordering.isLT) ∈ chains := .head _

theorem lessOrEqual_mem_chains : ("<=", Ordering.isLE) ∈ chains := .tail _ (.head _)

section

variable {name : String} {accepted : Ordering → Bool} (h : (name, accepted) ∈ chains)

include h

theorem evaluate_chain (rules : List Json) :
    evaluate operations data (application name rules) =
      .bool (Operator.chained accepted (rules.map (evaluate operations data))) := by
  rw [application, evaluate_application]
  rcases List.mem_pair.mp h with heq | heq
  · cases heq
    rfl
  · cases heq
    rfl

theorem holds_chain (r s : Json) :
    holds operations data (application name [r, s]) =
      Operator.ordered accepted (evaluate operations data r) (evaluate operations data s) := by
  rw [holds, evaluate_chain operations data h]
  exact Operator.chained_pair ..

theorem evaluate_chain_triple (r s t : Json) (rest : List Json) :
    evaluate operations data (application name (r :: s :: t :: rest)) =
      .bool (holds operations data (application name [r, s]) &&
        holds operations data (application name [s, t])) := by
  rw [evaluate_chain operations data h, holds_chain operations data h,
    holds_chain operations data h]
  exact congrArg Json.bool (Operator.chained_triple ..)

end

theorem holds_greater (r s : Json) :
    holds operations data (application ">" [r, s]) =
      Operator.ordered Ordering.isGT (evaluate operations data r) (evaluate operations data s) := by
  rw [application, holds, evaluate_application]
  rfl

theorem holds_looseEqual (r s : Json) :
    holds operations data (application "==" [r, s]) =
      looseEq (evaluate operations data r) (evaluate operations data s) := by
  rw [application, holds, evaluate_application]
  rfl

/-- Strict equality is an equivalence of values in normal form.  Loose equality is reflexive there
and symmetric, and follows from the strict one.  Order turns round with the values; it is defined
for scalars alone, which are ordered as equal exactly if they are loosely equal.  So, for all rules:
what is less or equal is less or it is equal, where the values are scalars; at most one of less,
equal and greater is the case; and of three or more rules, the first is less than the second and the
second less than the third, and likewise for less or equal. -/
theorem comparisons_cohere :
    ((∀ a : Json, a.Normal → strictEq a a = true) ∧
        (∀ a b, strictEq a b = true → strictEq b a = true) ∧
        ∀ a b c, strictEq a b = true → strictEq b c = true → strictEq a c = true) ∧
      ((∀ a : Json, a.Normal → looseEq a a = true) ∧
        (∀ a b, looseEq a b = true → looseEq b a = true) ∧
        ∀ a b, strictEq a b = true → looseEq a b = true) ∧
      ((∀ a b, order? b a = (order? a b).map Ordering.swap) ∧
        (∀ a b : Json, a.isScalar = true → b.isScalar = true →
          (order? a b = some .eq ↔ looseEq a b = true)) ∧
        ∀ a b : Json, a.isScalar = false ∨ b.isScalar = false → order? a b = none) ∧
      ∀ (operations : Operations) (data : Json),
        (∀ r s, (evaluate operations data r).isScalar = true →
          (evaluate operations data s).isScalar = true →
            (holds operations data (application "<=" [r, s]) = true ↔
              holds operations data (application "<" [r, s]) = true ∨
                holds operations data (application "==" [r, s]) = true)) ∧
        (∀ r s,
          ¬ (holds operations data (application "<" [r, s]) = true ∧
              holds operations data (application "==" [r, s]) = true) ∧
            ¬ (holds operations data (application "<" [r, s]) = true ∧
              holds operations data (application ">" [r, s]) = true) ∧
            ¬ (holds operations data (application "==" [r, s]) = true ∧
              holds operations data (application ">" [r, s]) = true)) ∧
        ∀ name ∈ ["<", "<="], ∀ r s t rest,
          evaluate operations data (application name (r :: s :: t :: rest)) =
            .bool (holds operations data (application name [r, s]) &&
              holds operations data (application name [s, t])) := by
  refine ⟨⟨fun _ => strictEq_self, fun _ _ => strictEq_symm, fun _ _ _ => strictEq_trans⟩,
    ⟨fun _ => looseEq_self, ?_, fun _ _ => looseEq_of_strictEq⟩,
    ⟨order?_swap, fun _ _ => order?_eq_some_eq_iff, fun _ _ => order?_of_not_isScalar⟩, ?_⟩
  · intro a b h
    rw [looseEq_comm, h]
  · intro operations data
    have hless := holds_chain operations data less_mem_chains
    refine ⟨?_, ?_, ?_⟩
    · intro r s hr hs
      rw [holds_chain operations data lessOrEqual_mem_chains, hless, holds_looseEqual]
      exact Operator.ordered_isLE_iff hr hs
    · intro r s
      rw [hless, holds_looseEqual, holds_greater]
      exact Operator.at_most_one ..
    · intro name hname
      rcases List.mem_pair.mp hname with rfl | rfl
      · exact evaluate_chain_triple operations data less_mem_chains
      · exact evaluate_chain_triple operations data lessOrEqual_mem_chains

end Rule

/-! ### An age as a text -/

namespace Age

open Rule

/-- An age as it is entered, with blanks around it, and the age that is asked for. -/
def entered : Json := .text " 18 "

def asked : Json := .ofNat 18

def person : Json := .ofEntries [("age", entered), ("score", .number (.real (.ofInt 1)))]

theorem normal_person : person.Normal := by
  apply Json.Normal.ofEntries
  intro entry hentry
  rcases List.mem_pair.mp hentry with rfl | rfl
  · exact .text _
  · exact .real (by decide +kernel)

/-- The text counts as the number, and is less or equal without being less. -/
theorem entered_is_asked :
    strictEq person person = true ∧ order? entered asked = some .eq ∧
      holds [] person (application "<=" [.object [("var", .array [.text "age"])], asked]) =
        true := by
  obtain ⟨hstrict, -, ⟨-, horder, -⟩, hrules⟩ := comparisons_cohere
  have hequal : looseEq entered asked = true := by decide +kernel
  refine ⟨hstrict.1 person normal_person, (horder entered asked rfl rfl).mpr hequal, ?_⟩
  exact ((hrules [] person).1 _ _ rfl rfl).mpr (Or.inr hequal)

end Age

end FormLogic
