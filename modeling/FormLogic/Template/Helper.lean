import FormLogic.Binary64.Text
import FormLogic.Json.Printer
import FormLogic.Template.Basic

/-!
# Helpers of templates

The helpers that a tag can name, the truth of values in templates, their order and their text.
-/

namespace FormLogic.Template

/-- A helper of templates. -/
inductive Helper where
  | conditional (wanted : Bool)
  | each
  | withValue
  | lookup
  | verbatim
  | log
  | equal (wanted : Bool)
  | compare (accepts : Ordering → Bool)
  | all
  | any
  | negation
  | length

/-- The helper of a name. -/
def Helper.ofName? (name : String) : Option Helper :=
  match name with
  | "if" => some (.conditional true)
  | "unless" => some (.conditional false)
  | "each" => some .each
  | "with" => some .withValue
  | "lookup" => some .lookup
  | "raw" => some .verbatim
  | "log" => some .log
  | "eq" => some (.equal true)
  | "ne" => some (.equal false)
  | "gt" => some (.compare Ordering.isGT)
  | "gte" => some (.compare Ordering.isGE)
  | "lt" => some (.compare Ordering.isLT)
  | "lte" => some (.compare Ordering.isLE)
  | "and" => some .all
  | "or" => some .any
  | "not" => some .negation
  | "len" => some .length
  | _ => none

/-- The number has the full precision of its format; zero and the least numbers do not. -/
def isNormal (x : Binary64) : Bool := Binary64.binade ≤ x.rank && x.isFinite

/-- The value counts as true in a template, where zero does so only on demand. -/
def isTrue (includeZero : Bool) : Json → Bool
  | .null => false
  | .bool b => b
  | .number n => includeZero || isNormal n.toReal
  | .text s => s != ""
  | .array items => !items.isEmpty
  | .object entries => !entries.isEmpty

/-- The order of two values in a template: exact between integers, and by the nearest
double-precision numbers where another number or a text that denotes one takes part. -/
def order? : Json → Json → Option Ordering
  | .number (.integer a), .number (.integer b) => some (compare a b)
  | .number a, .number b => a.toReal.compare? b.toReal
  | .text a, .text b => some (compare a b)
  | .bool a, .bool b => some (compare a b)
  | .number a, .text b => (Binary64.read b.toList).bind a.toReal.compare?
  | .text a, .number b => (Binary64.read a.toList).bind fun x => x.compare? b.toReal
  | _, _ => none

mutual

/-- The text that a value is printed as. -/
def display : Json → String
  | .null => ""
  | .bool true => "true"
  | .bool false => "false"
  | .number n => n.toText
  | .text s => s
  | .array items => "[" ++ Json.separate ", " (displayItems items) ++ "]"
  | .object _ => "[object]"

def displayItems : List Json → List String
  | [] => []
  | item :: items => display item :: displayItems items

end

/-- The number of bytes, items or entries of a value. -/
def lengthOf : Json → Nat
  | .text s => s.utf8ByteSize
  | .array items => items.length
  | .object entries => entries.length
  | _ => 0

/-- The levels that a note may be given. -/
def isLogLevel (level : String) : Bool :=
  ["error", "warn", "info", "debug", "trace"].contains (level.map Char.toLower)

/-- The value of a helper that computes one; a missing value stays missing. -/
inductive Outcome where
  /-- The helper computes a value, which may be missing. -/
  | value (v : Option Json)
  /-- The helper prints something, or nothing where it has no body. -/
  | prints
  /-- An operand is missing or unfit. -/
  | fails

/-- The value of a comparison of two operands. -/
def compareWith (test : Json → Json → Bool) : List Json → Outcome
  | a :: b :: _ => .value (some (.bool (test a b)))
  | _ => .fails

/-- The item of a collection under a key. -/
def lookupIn : Json → Json → Option Json
  | .array items, .number (.integer n) => if n < 0 then none else items[n.toNat]?
  | .object entries, .text key => Dictionary.lookup key entries
  | _, _ => none

/-- A helper applied to evaluated operands. -/
def Helper.apply (helper : Helper) (operands : List Json) (options : List (String × Json)) :
    Outcome :=
  match helper with
  | .conditional _ | .each | .withValue => if operands.isEmpty then .fails else .prints
  | .verbatim => .prints
  | .log =>
      match options.reverse.lookup "level" with
      | some (.text level) => if isLogLevel level then .prints else .fails
      | _ => .prints
  | .lookup =>
      match operands with
      | collection :: key :: _ => .value (lookupIn collection key)
      | _ => .fails
  | .equal wanted => compareWith (fun a b => a.same b == wanted) operands
  | .compare accepts => compareWith (fun a b => (order? a b).any accepts) operands
  | .all => .value (some (.bool (operands.all (isTrue false))))
  | .any => .value (some (.bool (operands.any (isTrue false))))
  | .negation =>
      match operands with
      | a :: _ => .value (some (.bool (!isTrue false a)))
      | [] => .fails
  | .length =>
      match operands with
      | a :: _ => .value (some (.ofNat (lengthOf a)))
      | [] => .fails

end FormLogic.Template
