import FormLogic.Json.Printer
import FormLogic.Path
import FormLogic.Rule.Comparison
import FormLogic.Text.Search

/-!
# Operators of rules

An operator takes the form data and the list of its evaluated operands to a value.  The operators
listed here belong to every rule language; missing operands count as `null`.
-/

namespace FormLogic.Rule

/-- The operators that every evaluator has. -/
inductive Operator where
  | var
  | missing
  | looseEqual
  | looseUnequal
  | strictEqual
  | strictUnequal
  | greater
  | greaterOrEqual
  | less
  | lessOrEqual
  | and
  | or
  | not
  | isTrue
  | choose
  | member
  deriving DecidableEq, Repr

namespace Operator

/-- The operator with the given name. -/
def ofName? (name : String) : Option Operator :=
  match name with
  | "var" => some .var
  | "missing" => some .missing
  | "==" => some .looseEqual
  | "!=" => some .looseUnequal
  | "===" => some .strictEqual
  | "!==" => some .strictUnequal
  | ">" => some .greater
  | ">=" => some .greaterOrEqual
  | "<" => some .less
  | "<=" => some .lessOrEqual
  | "and" => some .and
  | "or" => some .or
  | "!" => some .not
  | "not" => some .not
  | "!!" => some .isTrue
  | "if" => some .choose
  | "in" => some .member
  | _ => none

/-- An operand by its place. -/
def operand (values : List Json) (i : Nat) : Json := Json.orNull values[i]?

/-- The value in the data that a key leads to: a path, a number that is read as one, or `null`,
which leads to the data itself. -/
def find (data : Json) : Json → Option Json
  | .null => some data
  | .text path => Path.get data path
  | .number n => Path.get data n.toText
  | _ => none

/-- The value that a key leads to, or a default where there is none. -/
def readVar (data key fallback : Json) : Json :=
  match find data key with
  | none => fallback
  | some .null => fallback
  | some v => v

/-- There is no value, or it is `null` or the empty text. -/
def isUnfilled : Option Json → Bool
  | none => true
  | some .null => true
  | some (.text s) => s == ""
  | some _ => false

/-- The key is a path that leads to nothing or to an unfilled value. -/
def isMissing (data : Json) : Json → Bool
  | .text path => isUnfilled (Path.get data path)
  | _ => false

/-- The keys of a list of operands, or of the array that is the first of them. -/
def keysOf : List Json → List Json
  | .array keys :: _ => keys
  | values => values

/-- The first value that passes a test, else the last value, else a given one. -/
def firstOrLast (test : Json → Bool) : Json → List Json → Json
  | last, [] => last
  | _, v :: vs => if test v then v else firstOrLast test v vs

/-- The value after the first true condition, where conditions and values alternate; a value that is
left alone at the end stands for all other cases. -/
def chooseBranch : List Json → Json
  | [] => .null
  | [v] => v
  | condition :: v :: rest => if truthy condition then v else chooseBranch rest

/-- The order of two values is among the accepted ones. -/
def ordered (accepted : Ordering → Bool) (a b : Json) : Bool :=
  (order? a b).any accepted

/-- The first two values are ordered as required, and the second and third one, if there is a third.
-/
def chained (accepted : Ordering → Bool) (values : List Json) : Bool :=
  let first := operand values 0
  let second := operand values 1
  ordered accepted first second &&
    (values.length < 3 || ordered accepted second (operand values 2))

/-- The first value is a part of the second: of a text, or of an array. -/
def isMember : Json → Json → Bool
  | .text needle, .text haystack => Text.contains haystack needle
  | needle, .array items => items.any (strictEq needle)
  | _, _ => false

/-- The value of an operator for evaluated operands. -/
def apply (operator : Operator) (data : Json) (values : List Json) : Json :=
  let first := operand values 0
  let second := operand values 1
  match operator with
  | .var => readVar data first second
  | .missing => .array ((keysOf values).filter (isMissing data))
  | .looseEqual => .bool (looseEq first second)
  | .looseUnequal => .bool (!looseEq first second)
  | .strictEqual => .bool (strictEq first second)
  | .strictUnequal => .bool (!strictEq first second)
  | .greater => .bool (ordered Ordering.isGT first second)
  | .greaterOrEqual => .bool (ordered Ordering.isGE first second)
  | .less => .bool (chained Ordering.isLT values)
  | .lessOrEqual => .bool (chained Ordering.isLE values)
  | .and => firstOrLast (fun v => !truthy v) (.bool true) values
  | .or => firstOrLast truthy (.bool false) values
  | .not => .bool (!truthy first)
  | .isTrue => .bool (truthy first)
  | .choose => chooseBranch values
  | .member => .bool (isMember first second)

end Operator

end FormLogic.Rule
