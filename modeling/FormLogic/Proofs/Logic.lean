import FormLogic.Proofs.RulePaths

/-!
# Laws of logic in rules

Conjunctions and disjunctions of any number of rules have the value of the rule that decides them,
and choices go through conditions pair by pair.  For the truth of rules the laws of logic hold: a
negation turns conjunctions into disjunctions and back, and long ones can be taken apart.
-/

namespace FormLogic.Rule

/-- The rule that applies an operator or an operation to a list of rules. -/
def application (name : String) (rules : List Json) : Json := .object [(name, .array rules)]

namespace Operator

/-- The value that decides is that of the first rule with a value that passes the test, else that of
the last rule. -/
theorem firstOrLast_map (test : Json → Bool) (value : Json → Json) (default : Json)
    (rules : List Json) :
    firstOrLast test default (rules.map value) =
      ((rules.find? fun r => test (value r)).or rules.getLast?).elim default value := by
  induction rules generalizing default with
  | nil => rfl
  | cons rule rules ih =>
      rw [List.map_cons, firstOrLast, List.find?_cons]
      cases htest : test (value rule) with
      | true => rfl
      | false =>
          -- A rule that does not decide by itself has the say if none follows.
          rw [if_neg (by simp), ih, List.getLast?_cons]
          cases rules.find? fun r => test (value r) with
          | some decisive => rfl
          | none => cases rules.getLast? <;> rfl

/-- What follows the first pair of a choice is a choice of its own. -/
theorem chooseBranch_nested (condition v : Json) (rest : List Json) :
    chooseBranch (condition :: v :: rest) = chooseBranch [condition, v, chooseBranch rest] := by
  rw [chooseBranch, chooseBranch, chooseBranch]

end Operator

variable (operations : Operations) (data : Json)

/-! ### Values -/

theorem evaluate_and (rules : List Json) :
    evaluate operations data (application "and" rules) =
      ((rules.find? fun r => !holds operations data r).or rules.getLast?).elim (.bool true)
        (evaluate operations data) := by
  rw [application, evaluate_application]
  exact Operator.firstOrLast_map (fun v => !truthy v) (evaluate operations data) (.bool true) rules

theorem evaluate_or (rules : List Json) :
    evaluate operations data (application "or" rules) =
      ((rules.find? (holds operations data)).or rules.getLast?).elim (.bool false)
        (evaluate operations data) := by
  rw [application, evaluate_application]
  exact Operator.firstOrLast_map truthy (evaluate operations data) (.bool false) rules

theorem evaluate_if (rules : List Json) :
    evaluate operations data (application "if" rules) =
      Operator.chooseBranch (rules.map (evaluate operations data)) := by
  rw [application, evaluate_application]
  rfl

/-! ### Truth -/

theorem holds_not (rule : Json) :
    holds operations data (application "!" [rule]) = !holds operations data rule := by
  rw [application, holds, evaluate_application]
  rfl

/-- The rule that decides passes the test if any rule does. -/
theorem elim_find?_or_getLast? (test : Json → Bool) (rules : List Json) :
    ((rules.find? test).or rules.getLast?).elim false test = rules.any test := by
  cases hfind : rules.find? test with
  | some rule =>
      have htest : test rule = true := List.find?_some hfind
      rw [List.any_eq_true.mpr ⟨rule, List.mem_of_find?_eq_some hfind, htest⟩]
      exact htest
  | none =>
      have hfails : ∀ rule ∈ rules, ¬ test rule = true := List.find?_eq_none.mp hfind
      rw [List.any_eq_false.mpr hfails, Option.none_or]
      cases hlast : rules.getLast? with
      | none => rfl
      | some rule => exact Bool.eq_false_iff.mpr (hfails rule (List.mem_of_getLast? hlast))

theorem holds_or (rules : List Json) :
    holds operations data (application "or" rules) = rules.any (holds operations data) := by
  rw [holds, evaluate_or, ← Option.elim_comp truthy]
  exact elim_find?_or_getLast? (holds operations data) rules

theorem holds_and (rules : List Json) :
    holds operations data (application "and" rules) = rules.all (holds operations data) := by
  have hany := elim_find?_or_getLast? (fun r => !holds operations data r) rules
  rw [← List.not_all_eq_any_not] at hany
  rw [holds, evaluate_and, ← Option.elim_comp truthy, ← Bool.not_inj_iff, ← hany,
    ← Option.elim_comp not]
  rfl

/-- For all evaluators, data and lists of rules of any length: a conjunction has the value of the
first rule that does not hold, else of the last one, and is true of no rules; a disjunction has the
value of the first rule that holds, else of the last one, and is false of no rules.  A negation
turns the one into the other, both can be split into two parts, and what follows the first pair of a
choice is a choice of its own. -/
theorem logic_laws (operations : Operations) (data : Json) :
    (∀ rules, evaluate operations data (application "and" rules) =
        ((rules.find? fun r => !holds operations data r).or rules.getLast?).elim (.bool true)
          (evaluate operations data)) ∧
      (∀ rules, evaluate operations data (application "or" rules) =
        ((rules.find? fun r => holds operations data r).or rules.getLast?).elim (.bool false)
          (evaluate operations data)) ∧
      (∀ rules, holds operations data (application "!" [application "and" rules]) =
        holds operations data (application "or" (rules.map fun r => application "!" [r]))) ∧
      (∀ rules, holds operations data (application "!" [application "or" rules]) =
        holds operations data (application "and" (rules.map fun r => application "!" [r]))) ∧
      (∀ rules others, holds operations data (application "and" (rules ++ others)) =
        holds operations data
          (application "and" [application "and" rules, application "and" others])) ∧
      (∀ rules others, holds operations data (application "or" (rules ++ others)) =
        holds operations data
          (application "or" [application "or" rules, application "or" others])) ∧
      ∀ condition value rest,
        evaluate operations data (application "if" (condition :: value :: rest)) =
          evaluate operations data
            (application "if" [condition, value, application "if" rest]) := by
  refine ⟨evaluate_and operations data, evaluate_or operations data, ?_, ?_, ?_, ?_, ?_⟩
  · intro rules
    rw [holds_not, holds_and, holds_or, List.not_all_eq_any_not, List.any_map]
    simp only [Function.comp_def, holds_not]
  · intro rules
    rw [holds_not, holds_or, holds_and, List.not_any_eq_all_not, List.all_map]
    simp only [Function.comp_def, holds_not]
  · intro rules others
    simp [holds_and]
  · intro rules others
    simp [holds_or]
  · intro condition value rest
    rw [evaluate_if, evaluate_if, List.map_cons, List.map_cons, Operator.chooseBranch_nested,
      List.map_cons, List.map_cons, List.map_singleton, evaluate_if]

/-- A conjunction of no rules is true, and the last rule of one that holds has the say. -/
example :
    evaluate [] .null (application "and" []) = .bool true ∧
      evaluate [] .null (application "and" [.text "a", .ofNat 1]) = .ofNat 1 ∧
      evaluate [] .null (application "or" [.ofNat 0, .text ""]) = .text "" := by
  exact ⟨rfl, rfl, rfl⟩

end FormLogic.Rule
