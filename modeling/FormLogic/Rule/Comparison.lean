import FormLogic.Binary64.Text
import FormLogic.Json.Basic
import FormLogic.Text.Blank

/-!
# Truth, equality and order of values in rules

Rules compare values of different kinds.  Numbers, booleans and texts that denote numbers are
compared as double-precision numbers, two texts are compared as texts, and `null` is equal to itself
alone.
-/

namespace FormLogic.Rule

/-- A value counts as true unless it is `null`, `false`, zero, or an empty text, array or object. -/
def truthy : Json → Bool
  | .null => false
  | .bool b => b
  | .number n => n.toReal.rank != 0 && !n.toReal.isNotNumber
  | .text s => s != ""
  | .array items => !items.isEmpty
  | .object entries => !entries.isEmpty

/-- The number that a text denotes; a blank text denotes zero. -/
def textNumber (s : String) : Option Binary64 :=
  if Text.isBlank s then some (.zero false) else Binary64.read (Text.trim s).toList

/-- The number that a value stands for in a comparison. -/
def numberOf : Json → Option Binary64
  | .number n => some n.toReal
  | .text s => textNumber s
  | .bool true => some (.ofInt 1)
  | .bool false => some (.zero false)
  | _ => none

/-- Equality of the numbers that two values stand for; it fails when one of them stands for none. -/
def sameNumber (a b : Json) : Bool :=
  match numberOf a, numberOf b with
  | some x, some y => x.same y
  | _, _ => false

/-- Equality across kinds. -/
def looseEq : Json → Json → Bool
  | .null, .null => true
  | .null, _ => false
  | _, .null => false
  | .text a, .text b => a == b
  | .array as, b => Json.same (.array as) b
  | .object as, b => Json.same (.object as) b
  | a, .array bs => Json.same a (.array bs)
  | a, .object bs => Json.same a (.object bs)
  | a, b => sameNumber a b

/-- Equality within kinds, where numbers are equal when their double-precision values are. -/
def strictEq : Json → Json → Bool
  | .number a, .number b => a.toReal.same b.toReal
  | a, b => Json.same a b

/-- Order of two values: texts by code points, else the numbers they stand for. -/
def order? : Json → Json → Option Ordering
  | .null, _ => none
  | _, .null => none
  | .text a, .text b => some (compare a b)
  | a, b => do
      let x ← numberOf a
      let y ← numberOf b
      x.compare? y

end FormLogic.Rule
