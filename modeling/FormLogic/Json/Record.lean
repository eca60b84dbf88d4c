import FormLogic.Json.Basic

/-!
# Records in JSON

Readers for values of one kind, and for the attributes of a record.  A record is an object with
fixed keys.  It may also be written as the list of its values in the order of its keys, where values
at the end may be left out.
-/

namespace FormLogic.Json

/-- A text. -/
def asText : Json → Option String
  | .text s => some s
  | _ => none

/-- A truth value. -/
def asBool : Json → Option Bool
  | .bool b => some b
  | _ => none

/-- A natural number that is written as an integer. -/
def asNat : Json → Option Nat
  | .number (.integer n) => if 0 ≤ n then some n.toNat else none
  | _ => none

/-- The entries of an object. -/
def asEntries : Json → Option (Dictionary Json)
  | .object entries => some entries
  | _ => none

/-- A list of values of one kind. -/
def asListOf {α : Type} (read : Json → Option α) : Json → Option (List α)
  | .array items => items.mapM read
  | _ => none

/-- An object whose values are texts. -/
def asTexts : Json → Option (Dictionary String)
  | .object entries => entries.mapM fun (key, v) => (asText v).map fun s => (key, s)
  | _ => none

/-- The entries of a record with the given keys. -/
def recordEntries (keys : List String) : Json → Option (List (String × Json))
  | .object entries => some entries
  | .array items => if items.length ≤ keys.length then some (keys.zip items) else none
  | _ => none

/-- An attribute that may be absent, which it also is when it is `null`. -/
def optionalEntry {α : Type} (read : Json → Option α) (key : String)
    (entries : List (String × Json)) : Option (Option α) :=
  match Dictionary.lookup key entries with
  | none => some none
  | some .null => some none
  | some v => (read v).map some

/-- An attribute with a value of its own when it is absent. -/
def entryOr {α : Type} (default : α) (read : Json → Option α) (key : String)
    (entries : List (String × Json)) : Option α :=
  match Dictionary.lookup key entries with
  | none => some default
  | some v => read v

/-- The entries together with those attributes that are present. -/
def withAttributes (attributes : List (String × Option Json)) (entries : Dictionary Json) :
    Dictionary Json :=
  attributes.foldl
    (fun entries (key, value) =>
      match value with
      | some v => Dictionary.insert key v entries
      | none => entries)
    entries

end FormLogic.Json
