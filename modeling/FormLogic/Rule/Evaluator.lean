import FormLogic.Pattern.Match
import FormLogic.Pattern.Parser
import FormLogic.Rule.Operator

/-!
# Evaluation of rules

A rule is a JSON value in which an object with a single entry applies the operator that its key
names to the operands that its value lists.  Arrays are evaluated item by item, and all else stands
for itself.  Beside the operators that every evaluator has, an evaluator knows registered
operations.
-/

namespace FormLogic.Rule

/-- A registered operation: a function of evaluated operands. -/
abbrev Operation := List Json → Json

/-- The operations that an evaluator knows beside the operators, by name. -/
abbrev Operations := Dictionary Operation

/-- The name of the operation that matches a text with a pattern. -/
def regexMatchName : String := "regex_match"

/-- True if the second operand is a text with a part that the pattern in the first one describes. -/
def regexMatch : Operation
  | .text pattern :: .text s :: _ =>
      match Pattern.parse? pattern with
      | some p => .bool (p.matchesIn s)
      | none => .bool false
  | _ => .bool false

/-- The operations of every form engine unless it is given others. -/
def defaultOperations : Operations := [(regexMatchName, regexMatch)]

/-- The value of a named operator or operation for evaluated operands; an unknown name gives `null`.
-/
def applyNamed (operations : Operations) (data : Json) (name : String) (values : List Json) :
    Json :=
  match Operator.ofName? name with
  | some operator => operator.apply data values
  | none =>
      match Dictionary.lookup name operations with
      | some operation => operation values
      | none => .null

mutual

/-- The value of a rule for the given data.  The operands are all evaluated before the operator or
operation is applied to them, also those that it does not ask for.  The value is the same as if each
were evaluated when it is asked for: operators and operations are total functions of the values of
operands, so that to evaluate one has no effect but its value. -/
def evaluate (operations : Operations) (data : Json) : Json → Json
  | .object [(name, .array operands)] =>
      applyNamed operations data name (evaluateAll operations data operands)
  | .object [(name, single)] =>
      applyNamed operations data name [evaluate operations data single]
  | .array items => .array (evaluateAll operations data items)
  | literal => literal

def evaluateAll (operations : Operations) (data : Json) : List Json → List Json
  | [] => []
  | rule :: rules => evaluate operations data rule :: evaluateAll operations data rules

end

/-- The rule is true of the data. -/
def holds (operations : Operations) (data rule : Json) : Bool :=
  truthy (evaluate operations data rule)

end FormLogic.Rule
