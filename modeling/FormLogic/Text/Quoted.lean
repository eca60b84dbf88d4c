import FormLogic.Unicode.Query

/-!
# Texts in quotes for reports

A text in quotes in which every character can be seen: what has no visible form of its own is
written by its number.
-/

namespace FormLogic.Text

/-- The categories of characters without a visible form. -/
def unseenCategories : List String := ["cc", "cf", "cs", "co", "zl", "zp", "zs"]

/-- The characters outside ASCII that are written by their number: those without a visible form,
those that belong to the character before them, and those without a meaning. -/
def unseen : CharSet :=
  .unions [Unicode.categories unseenCategories, Unicode.assigned.complement,
    (Unicode.named? "Grapheme_Extend").getD .empty]

/-- The number of a character in hexadecimal digits between braces. -/
def numbered (c : Char) : List Char :=
  ['\\', 'u', '{'] ++ Nat.toDigits 16 c.toNat ++ ['}']

/-- A character as it stands between the quotes of a report. -/
def reportChar (c : Char) : List Char :=
  if c = '\x00' then ['\\', '0']
  else if c = '\t' then ['\\', 't']
  else if c = '\r' then ['\\', 'r']
  else if c = '\n' then ['\\', 'n']
  else if c = '\\' then ['\\', '\\']
  else if c = '"' then ['\\', '"']
  else if c.toNat < 0x20 || c.toNat = 0x7F then numbered c
  else if c.toNat < 0x80 then [c]
  else if unseen.contains c then numbered c
  else [c]

/-- The text in quotes. -/
def quoted (s : String) : String :=
  "\"" ++ String.ofList (s.toList.flatMap reportChar) ++ "\""

end FormLogic.Text
