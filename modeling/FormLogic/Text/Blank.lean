/-!
# Blank characters

The characters with the Unicode property `White_Space`, and the removal of such characters from
both ends of a text.
-/

namespace FormLogic.Text

/-- The character has the Unicode property `White_Space`. -/
def isBlankChar (c : Char) : Bool :=
  let n := c.toNat
  (0x9 ≤ n && n ≤ 0xD) || n == 0x20 || n == 0x85 || n == 0xA0 || n == 0x1680 ||
    (0x2000 ≤ n && n ≤ 0x200A) || n == 0x2028 || n == 0x2029 || n == 0x202F || n == 0x205F ||
    n == 0x3000

/-- The characters without the blank ones at the end. -/
def dropBlankEnd : List Char → List Char
  | [] => []
  | c :: rest =>
      match dropBlankEnd rest with
      | [] => if isBlankChar c then [] else [c]
      | kept => c :: kept

/-- The text without the blank characters at its two ends. -/
def trim (text : String) : String :=
  String.ofList (dropBlankEnd (text.toList.dropWhile isBlankChar))

/-- The text has no character but blank ones. -/
def isBlank (text : String) : Bool :=
  text.toList.all isBlankChar

end FormLogic.Text
