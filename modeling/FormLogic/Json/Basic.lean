import FormLogic.Binary64
import FormLogic.Dictionary

/-!
# JSON values

A number is an integer or a double-precision number, and the two kinds are kept apart.  The entries
of an object form a dictionary.
-/

namespace FormLogic

/-- A JSON number: an integer from `-2 ^ 63` to `2 ^ 64 - 1`, or a double-precision number. -/
inductive Number where
  | integer (value : Int)
  | real (value : Binary64)
  deriving DecidableEq, Repr, Inhabited

/-- The least and the largest integer that is kept as one. -/
def Number.leastInteger : Int := -Nat.pow 2 63

def Number.largestInteger : Int := Nat.pow 2 64 - 1

/-- Equality of numbers of the same kind. -/
def Number.same : Number → Number → Bool
  | .integer a, .integer b => a == b
  | .real a, .real b => a.same b
  | _, _ => false

/-- The nearest double-precision number. -/
def Number.toReal : Number → Binary64
  | .integer n => .ofInt n
  | .real x => x

/-- A JSON value. -/
inductive Json where
  | null
  | bool (value : Bool)
  | number (value : Number)
  | text (value : String)
  | array (items : List Json)
  | object (entries : List (String × Json))
  deriving Inhabited

namespace Json

/-- The integer as a JSON value. -/
def ofNat (n : Nat) : Json := .number (.integer n)

/-- An object from entries in any order. -/
def ofEntries (entries : List (String × Json)) : Json := .object (Dictionary.ofList entries)

/-- A value, or `null` in place of a missing one. -/
def orNull : Option Json → Json
  | some v => v
  | none => .null

/-- An optional text, with `null` for a missing one. -/
def ofText? : Option String → Json
  | some s => .text s
  | none => .null

/-- An optional natural number, with `null` for a missing one. -/
def ofNat? : Option Nat → Json
  | some n => .ofNat n
  | none => .null

mutual

/-- Equality of JSON values, in which numbers are equal when they are of one kind and equal as
numbers. -/
def same : Json → Json → Bool
  | .null, .null => true
  | .bool a, .bool b => a == b
  | .number a, .number b => a.same b
  | .text a, .text b => a == b
  | .array as, .array bs => sameItems as bs
  | .object as, .object bs => sameEntries as bs
  | _, _ => false

def sameItems : List Json → List Json → Bool
  | [], [] => true
  | a :: as, b :: bs => same a b && sameItems as bs
  | _, _ => false

def sameEntries : List (String × Json) → List (String × Json) → Bool
  | [], [] => true
  | (k, a) :: as, (l, b) :: bs => k == l && same a b && sameEntries as bs
  | _, _ => false

end

/-- Equality of values that may be missing. -/
def sameOption : Option Json → Option Json → Bool
  | none, none => true
  | some a, some b => same a b
  | _, _ => false

end Json

end FormLogic
