import FormLogic.Unicode.Property
import FormLogic.Unicode.Script

/-!
# Character classes by name

Classes of characters are named by a property or by a property and its value.  In names, case,
blanks, hyphens, underscores and a leading `is` do not count.
-/

namespace FormLogic.Unicode

/-- A name without what does not count in it. -/
def plainName (name : String) : String :=
  let cs := name.toList
  let isMarked := (cs.take 2).map Char.toLower == ['i', 's']
  let body := if isMarked then cs.drop 2 else cs
  let kept := body.filter fun c => c.toNat < 0x80 && c != ' ' && c != '_' && c != '-'
  let plain := kept.map Char.toLower
  if isMarked && plain == ['c'] then "isc" else String.ofList plain

/-- Names of properties with other values than yes and no, which no category or script can have. -/
def reservedNames : List String :=
  ["age", "blk", "block", "ccc", "dt", "ea", "gc", "generalcategory", "isc", "jt", "lb", "na",
    "name", "nt", "nv", "script", "scx", "scriptextensions"]

/-- The class with the given name: a binary property, a general category or a script. -/
def named? (name : String) : Option CharSet :=
  let plain := plainName name
  let asProperty :=
    if plain == "cf" || plain == "sc" || plain == "lc" then none else property? plain
  if reservedNames.contains plain then none
  else (asProperty.or (category? plain)).or (script? plain)

/-- The class of the characters for which a property has the given value. -/
def valued? (property value : String) : Option CharSet :=
  let property := plainName property
  let value := plainName value
  if property == "gc" || property == "generalcategory" then category? value
  else if property == "sc" || property == "script" then script? value
  else if property == "scx" || property == "scriptextensions" then scriptExtensions? value
  else none

end FormLogic.Unicode
