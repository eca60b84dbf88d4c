/-!
# Search in texts
-/

namespace FormLogic.Text

/-- The characters of the needle stand next to each other somewhere in the haystack. -/
def containsChars (needle : List Char) : List Char → Bool
  | [] => needle.isEmpty
  | c :: cs => needle.isPrefixOf (c :: cs) || containsChars needle cs

/-- The needle is a part of the haystack; the empty text is a part of every text. -/
def contains (haystack needle : String) : Bool :=
  containsChars needle.toList haystack.toList

end FormLogic.Text
