import FormLogic.Json.Basic

/-!
# Paths into JSON data

A path is a text of segments with dots between them, such as `address.city` or `items.0.name`.
Empty segments do not count.  Reading goes through objects by key and through arrays by index;
writing goes through objects only, and puts an object in the place of anything else on its way.
-/

namespace FormLogic.Path

/-- The characters between the dots; there is one part more than there are dots. -/
def splitDots : List Char → List (List Char)
  | [] => [[]]
  | c :: cs =>
      if c = '.' then [] :: splitDots cs
      else
        match splitDots cs with
        | [] => [[c]]
        | part :: parts => (c :: part) :: parts

/-- The texts between the dots of a path, empty ones included. -/
def parts (path : String) : List String :=
  (splitDots path.toList).map String.ofList

/-- The segments of a path: the texts between its dots that are not empty. -/
def segments (path : String) : List String :=
  (parts path).filter fun part => part != ""

/-- The index that a segment denotes in an array: decimal digits with an optional plus sign, below
`2 ^ 64`. -/
def arrayIndex (segment : String) : Option Nat :=
  let digits :=
    match segment.toList with
    | '+' :: rest => rest
    | cs => cs
  if digits.isEmpty || !digits.all Char.isDigit then none
  else
    let n := digits.foldl (fun n c => 10 * n + (c.toNat - '0'.toNat)) 0
    if n < Nat.pow 2 64 then some n else none

/-- One step of reading: the value under a key or at an index. -/
def child (segment : String) : Json → Option Json
  | .object entries => Dictionary.lookup segment entries
  | .array items => (arrayIndex segment).bind fun i => items[i]?
  | _ => none

/-- The value that a list of segments leads to. -/
def readAt : List String → Json → Option Json
  | [], v => some v
  | segment :: rest, v => (child segment v).bind (readAt rest)

/-- The value at a path, if there is one; the empty path leads to the data itself. -/
def get (data : Json) (path : String) : Option Json :=
  readAt (segments path) data

/-- The entries of an object; anything else counts as an empty object. -/
def entriesOf : Json → Dictionary Json
  | .object entries => entries
  | _ => []

/-- The data with a value written where a list of segments leads. -/
def writeAt : List String → Json → Json → Json
  | [], value, _ => value
  | segment :: rest, value, data =>
      let entries := entriesOf data
      let old := (Dictionary.lookup segment entries).getD .null
      .object (Dictionary.insert segment (writeAt rest value old) entries)

/-- The data with a value written at a path. -/
def set (data : Json) (path : String) (value : Json) : Json :=
  writeAt (segments path) value data

/-- A parent path and a child path in one; an empty part adds nothing. -/
def join (parent child : String) : String :=
  if parent = "" then child
  else if child = "" then parent
  else parent ++ "." ++ child

mutual

/-- An overlay merged into a base: objects entry by entry, and in all else the overlay wins. -/
def merge (base : Json) : Json → Json
  | .object overlay =>
      match base with
      | .object entries => .object (mergeEntries entries overlay)
      | _ => .object overlay
  | overlay => overlay

def mergeEntries (base : Dictionary Json) : List (String × Json) → Dictionary Json
  | [] => base
  | (key, value) :: overlay =>
      let merged :=
        match Dictionary.lookup key base with
        | some old => merge old value
        | none => value
      Dictionary.insert key merged (mergeEntries base overlay)

end

end FormLogic.Path
